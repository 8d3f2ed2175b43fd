import QrTrust.Network.RuntimeSafety
import QrTrust.Network.VerifierCache

/-! # The network scanner decision

    `decide` parses the payload, asks the verifier cache for a resolution, and
    makes the decision in that order of arms: nothing resolved, not bound, not
    fresh, and then what the runtime safety provider reports. -/

namespace ScannerDecisions

open VerifierCache RuntimeSafety

/-! ## Decisions -/

/-- `DecisionColor`. -/
inductive DecisionColor where
  | green
  | orange
  | red
  deriving DecidableEq, Repr

/-- `Destination`. -/
structure Destination where
  displayHost : String
  fingerprint : String
  url : String
  resolverUrl : Option String := none
  finalUrl : Option String := none
  deriving DecidableEq, Repr

/-- `TrustStep`. -/
structure TrustStep where
  status : String
  label : String
  message : String
  reasonCodes : Option (List String) := none
  deriving DecidableEq, Repr

/-- `TrustPath`. -/
structure TrustPath where
  issuerLegitimacy : TrustStep
  destinationBinding : TrustStep
  runtimeSafety : TrustStep
  scannerDecision : TrustStep
  deriving DecidableEq, Repr

/-- `hold_to_open`. -/
structure HoldToOpen where
  required : Bool
  durationMs : Nat
  reasonCodes : List String
  deriving DecidableEq, Repr

/-- `cache_freshness.status`. -/
inductive CacheFreshnessStatus where
  | fresh
  | stale
  | expired
  | unavailable
  | notApplicable
  deriving DecidableEq, Repr

/-- The text of a freshness status. -/
def CacheFreshnessStatus.text : CacheFreshnessStatus → String
  | .fresh => "fresh"
  | .stale => "stale"
  | .expired => "expired"
  | .unavailable => "unavailable"
  | .notApplicable => "not_applicable"

/-- `cache_freshness`. -/
structure CacheFreshness where
  status : CacheFreshnessStatus
  cacheGeneratedAt : Option String := none
  cacheExpiresAt : Option String := none
  deriving DecidableEq, Repr

/-- `GovernanceProjection`. -/
structure GovernanceProjection where
  rootProgramId : String
  delegatedAuthorityId : String
  issuerId : String
  destinationPolicyId : String
  deriving DecidableEq, Repr

/-- `ScannerDecision`. -/
structure ScannerDecision where
  decisionId : String
  decidedAt : String
  decisionColor : DecisionColor
  decisionState : String
  reasonCodes : List String
  riskScore : Rat
  destination : Destination
  trustPath : TrustPath
  holdToOpen : HoldToOpen
  cacheFreshness : CacheFreshness
  governance : Option GovernanceProjection := none
  deriving DecidableEq, Repr

/-- `ScannerDecisionInput`; the instant is one that a date can hold. -/
structure ScannerDecisionInput where
  payload : String
  issuerHintHost : Option String := none
  observedAt : Int

/-- The host functions on dates: `Date.parse`, which may give no number, and
    `toISOString`. -/
structure DateFunctions where
  parse : String → Option Int
  toISOString : Int → String

/-- `fingerprintHost`, of the hostname of a URL. -/
def fingerprintHost (js : JsRuntime) (host : String) : String :=
  let normalized := (js.toLowerCase (JsString.trim host)).toList
  let tld := (normalized.splitOn '.').getLast?.getD normalized
  String.ofList (normalized.take 3 ++ ['.', '.', '.'] ++ normalized.drop (normalized.length - 3)
    ++ ['.'] ++ tld)

/-- `destinationFromUrl`. -/
def destinationFromUrl (js : JsRuntime) (url : Url) : Destination where
  displayHost := url.hostname
  fingerprint := fingerprintHost js url.hostname
  url := url.href

/-! ## The arms -/

/-- `cacheFreshnessStatus`. -/
def cacheFreshnessStatus (dates : DateFunctions) (resolution : DestinationResolution)
    (observedAt : Int) : CacheFreshnessStatus :=
  match dates.parse resolution.issuer.cacheExpiresAt,
    dates.parse resolution.issuer.cacheGeneratedAt with
  | some expiresAt, some generatedAt =>
      if generatedAt > observedAt then .stale
      else if expiresAt ≤ observedAt then .expired
      else .fresh
  | _, _ => .unavailable

/-- `destinationBindingMessage`. -/
def destinationBindingMessage (reasonCodes : List String) : String :=
  if reasonCodes.contains "redirect_final_destination_mismatch" then
    "The resolver final destination is outside the issuer-approved policy."
  else if reasonCodes.contains "redirect_hop_limit_exceeded" then
    "The resolver chain exceeds the issuer-approved hop limit."
  else if reasonCodes.contains "redirect_hop_count_invalid" then
    "The resolver did not report a valid redirect hop count."
  else if reasonCodes.contains "destination_path_not_approved" then
    "The destination path is outside the issuer-approved policy."
  else if reasonCodes.contains "destination_query_not_approved" then
    "The destination query is outside the issuer-approved policy."
  else if reasonCodes.contains "nested_shortener_not_allowed" then
    "The destination uses a nested shortener that this issuer policy forbids."
  else "The destination is outside the issuer-approved policy."

/-- The governance ids of a resolution. -/
def governanceOf (resolution : DestinationResolution) : GovernanceProjection where
  rootProgramId := resolution.issuer.ns.rootProgramId
  delegatedAuthorityId := resolution.issuer.ns.delegatedAuthorityId
  issuerId := resolution.issuer.ns.issuerId
  destinationPolicyId := resolution.issuer.destinationPolicyId

/-- The freshness of a resolution, with its dates. -/
def freshnessOf (status : CacheFreshnessStatus) (resolution : DestinationResolution) :
    CacheFreshness where
  status := status
  cacheGeneratedAt := some resolution.issuer.cacheGeneratedAt
  cacheExpiresAt := some resolution.issuer.cacheExpiresAt

/-- A destination with the final URL and the resolver of a resolution. -/
def resolvedDestination (destination : Destination) (resolution : DestinationResolution) :
    Destination :=
  { destination with
    finalUrl := some (resolution.finalUrl.getD destination.url)
    resolverUrl := JsString.truthy resolution.resolverUrl }

/-- The issuer step of a recognized issuer. -/
def issuerRecognized : TrustStep where
  status := "recognized"
  label := "Issuer recognized"
  message := "Issuer record resolved in verifier trust state."

/-- The binding step of a bound destination. -/
def destinationBound : TrustStep where
  status := "bound"
  label := "Destination bound"
  message := "Destination matches issuer policy."

/-- Hold before opening, for these reasons. -/
def heldFor (reasonCodes : List String) : HoldToOpen := ⟨true, 800, reasonCodes⟩

section Arms

variable (dates : DateFunctions) (randomUUID : String) (input : ScannerDecisionInput)
  (destination : Destination) (resolution : DestinationResolution)

/-- What the decisions on a bound destination share: the first two steps of the
    path, the resolved destination, and the ids. -/
def boundDecision (color : DecisionColor) (state : String) (reasonCodes : List String)
    (riskScore : Rat) (runtimeSafety scannerDecision : TrustStep) (holdToOpen : HoldToOpen)
    (freshness : CacheFreshnessStatus) : ScannerDecision where
  decisionId := "decision_" ++ randomUUID
  decidedAt := dates.toISOString input.observedAt
  decisionColor := color
  decisionState := state
  reasonCodes := ["issuer_recognized", "destination_bound"] ++ reasonCodes
  riskScore := riskScore
  destination := resolvedDestination destination resolution
  trustPath := ⟨issuerRecognized, destinationBound, runtimeSafety, scannerDecision⟩
  holdToOpen := holdToOpen
  cacheFreshness := freshnessOf freshness resolution
  governance := some (governanceOf resolution)

/-- `makeGreenDecision`. -/
def makeGreenDecision (runtimeVerdict : RuntimeSafetyVerdict) : ScannerDecision :=
  boundDecision dates randomUUID input destination resolution .green "verified_issuer"
    (runtimeVerdict.reasonCodes ++ ["cache_fresh"]) runtimeVerdict.riskScoreDelta
    ⟨"clear", "Runtime clear", runtimeVerdict.message, some runtimeVerdict.reasonCodes⟩
    ⟨"green", "Looks safe", "This QR is approved for this use.", none⟩
    ⟨false, 0, []⟩ .fresh

/-- `makeOrangeRuntimeCautionDecision`. -/
def makeOrangeRuntimeCautionDecision (runtimeVerdict : RuntimeSafetyVerdict) : ScannerDecision :=
  boundDecision dates randomUUID input destination resolution .orange
    (if runtimeVerdict.status = .unavailable then "verified_issuer_runtime_unavailable"
      else "verified_issuer_destination_risky")
    (runtimeVerdict.reasonCodes ++ ["cache_fresh"]) (max 30 runtimeVerdict.riskScoreDelta)
    ⟨runtimeVerdict.status.text,
      if runtimeVerdict.status = .unavailable then "Runtime unavailable" else "Runtime risk",
      runtimeVerdict.message, some runtimeVerdict.reasonCodes⟩
    ⟨"orange", "Use caution",
      if runtimeVerdict.status = .unavailable then
        "The issuer and destination are verified, but present-time safety could not be checked."
      else "Verified issuer, but destination risk was detected at scan time.", none⟩
    (heldFor runtimeVerdict.reasonCodes) .fresh

/-- `makeRedRuntimeBlockedDecision`. -/
def makeRedRuntimeBlockedDecision (runtimeVerdict : RuntimeSafetyVerdict) : ScannerDecision :=
  boundDecision dates randomUUID input destination resolution .red
    "verified_issuer_runtime_blocked" (runtimeVerdict.reasonCodes ++ ["cache_fresh"])
    (max 60 runtimeVerdict.riskScoreDelta)
    ⟨"blocked", "Runtime blocked", runtimeVerdict.message, some runtimeVerdict.reasonCodes⟩
    ⟨"red", "Do not open",
      "The issuer and destination are verified, but present-time safety policy blocks opening.",
      none⟩
    (heldFor runtimeVerdict.reasonCodes) .fresh

/-- `CACHE_OPERATIONAL_STATES`. -/
def cacheOperationalState : CacheFreshnessStatus → String
  | .stale => "verified_issuer_cache_stale"
  | .expired => "verified_issuer_cache_expired"
  | _ => "verified_issuer_cache_unavailable"

/-- `makeOrangeCacheRefreshDecision`. -/
def makeOrangeCacheRefreshDecision (freshnessStatus : CacheFreshnessStatus) : ScannerDecision :=
  let reason := "cache_" ++ freshnessStatus.text
  boundDecision dates randomUUID input destination resolution .orange
    (cacheOperationalState freshnessStatus) [reason] 40
    ⟨"not_evaluated", "Runtime not evaluated",
      "Runtime safety is not evaluated until the verifier cache refreshes.", some [reason]⟩
    ⟨"orange", "Refresh needed",
      "The issuer and destination are recognized, but verifier cache freshness must be restored before this can be green.",
      none⟩
    (heldFor [reason]) freshnessStatus

/-- `makeOrangeUnrecognizedDecision`. -/
def makeOrangeUnrecognizedDecision : ScannerDecision where
  decisionId := "decision_" ++ randomUUID
  decidedAt := dates.toISOString input.observedAt
  decisionColor := .orange
  decisionState := "plain_url_unrecognized"
  reasonCodes := ["plain_url_without_trust_signal", "destination_visible_unverified"]
  riskScore := 30
  destination := destination
  trustPath :=
    { issuerLegitimacy :=
        ⟨"unknown", "Issuer unknown", "No signed trust path was found for this QR.", none⟩
      destinationBinding :=
        ⟨"unverified", "Destination unverified",
          "A destination was read from the QR, but it was not checked against issuer policy.",
          none⟩
      runtimeSafety :=
        ⟨"not_evaluated", "Runtime not evaluated",
          "Runtime safety is not evaluated without a trust path.", none⟩
      scannerDecision :=
        ⟨"orange", "Use caution",
          "This QR is a normal link without a recognized trust signal.", none⟩ }
  holdToOpen := heldFor ["destination_visible_unverified"]
  cacheFreshness := ⟨.notApplicable, none, none⟩

/-- `makeRedDestinationMismatchDecision`: the freshness it shows is not checked. -/
def makeRedDestinationMismatchDecision : ScannerDecision where
  decisionId := "decision_" ++ randomUUID
  decidedAt := dates.toISOString input.observedAt
  decisionColor := .red
  decisionState := "destination_policy_mismatch"
  reasonCodes := "issuer_recognized" :: resolution.reasonCodes
  riskScore := 70
  destination :=
    { destination with
      resolverUrl := JsString.truthy resolution.resolverUrl
      finalUrl := JsString.truthy resolution.finalUrl }
  trustPath :=
    { issuerLegitimacy := issuerRecognized
      destinationBinding :=
        ⟨"mismatch", "Destination mismatch", destinationBindingMessage resolution.reasonCodes,
          some resolution.reasonCodes⟩
      runtimeSafety :=
        ⟨"secondary", "Runtime secondary",
          "Destination binding failure is terminal before runtime safety can rescue it.", none⟩
      scannerDecision :=
        ⟨"red", "Do not open",
          "This QR points outside the issuer-approved destination set.", none⟩ }
  holdToOpen := heldFor resolution.reasonCodes
  cacheFreshness := freshnessOf .fresh resolution
  governance := some (governanceOf resolution)

/-- `makeRuntimeAwareBoundDecision`. -/
def makeRuntimeAwareBoundDecision (runtimeVerdict : RuntimeSafetyVerdict) : ScannerDecision :=
  if runtimeVerdict.status = .blocked then
    makeRedRuntimeBlockedDecision dates randomUUID input destination resolution runtimeVerdict
  else if runtimeVerdict.status = .risky ∨ runtimeVerdict.status = .unavailable then
    makeOrangeRuntimeCautionDecision dates randomUUID input destination resolution runtimeVerdict
  else makeGreenDecision dates randomUUID input destination resolution runtimeVerdict

end Arms

/-- What the provider is asked to inspect. -/
def runtimeInput (input : ScannerDecisionInput) (destinationUrl : Url)
    (resolution : DestinationResolution) : RuntimeSafetyInput where
  destinationUrl := destinationUrl
  resolverUrl := JsString.truthy resolution.resolverUrl
  finalUrl := JsString.truthy resolution.finalUrl
  observedRedirectHops := resolution.observedRedirectHops
  observedAt := input.observedAt

/-- `makeDecisionFromResolution`. -/
def makeDecisionFromResolution (dates : DateFunctions) (runtimeSafety : RuntimeSafetyProvider)
    (randomUUID : String) (input : ScannerDecisionInput) (destinationUrl : Url)
    (destination : Destination) : Option DestinationResolution → ScannerDecision
  | none => makeOrangeUnrecognizedDecision dates randomUUID input destination
  | some resolution =>
      if resolution.bindingStatus ≠ .bound then
        makeRedDestinationMismatchDecision dates randomUUID input destination resolution
      else
        let freshnessStatus := cacheFreshnessStatus dates resolution input.observedAt
        if freshnessStatus ≠ .fresh then
          makeOrangeCacheRefreshDecision dates randomUUID input destination resolution
            freshnessStatus
        else
          makeRuntimeAwareBoundDecision dates randomUUID input destination resolution
            (runtimeSafety.inspect (runtimeInput input destinationUrl resolution))

/-! ## Conformance -/

/-- `primary_state` of the protocol model. -/
inductive PrimaryState where
  | verifiedIssuer
  | verifiedIssuerDestinationRisky
  | unverified
  | blocked
  deriving DecidableEq, Repr

/-- `attention_level` of the protocol model. -/
inductive AttentionLevel where
  | positive
  | neutral
  | warning
  | block
  deriving DecidableEq, Repr

/-- How the protocol model reads a product state. -/
structure Conformance where
  primaryState : PrimaryState
  attentionLevel : AttentionLevel
  deriving DecidableEq, Repr

/-- `NETWORK_SCANNER_CONFORMANCE_MAPPING`. -/
def networkScannerConformanceMapping : List (String × Conformance) :=
  [ ("verified_issuer", ⟨.verifiedIssuer, .positive⟩),
    ("verified_issuer_destination_risky", ⟨.verifiedIssuerDestinationRisky, .warning⟩),
    ("verified_issuer_runtime_unavailable", ⟨.verifiedIssuer, .warning⟩),
    ("verified_issuer_runtime_blocked", ⟨.blocked, .block⟩),
    ("verified_issuer_cache_stale", ⟨.unverified, .warning⟩),
    ("verified_issuer_cache_expired", ⟨.unverified, .warning⟩),
    ("verified_issuer_cache_unavailable", ⟨.unverified, .warning⟩),
    ("plain_url_unrecognized", ⟨.unverified, .neutral⟩),
    ("destination_policy_mismatch", ⟨.blocked, .block⟩) ]

/-! ## The service -/

/-- The error that a decision can end in. -/
inductive DecisionError where
  | destinationParse (payload : String)
  | eventBus (cause : String)
  deriving DecidableEq, Repr

/-- The event of a governed decision. -/
structure DecisionEvent where
  eventId : String
  type : String
  occurredAt : String
  governance : GovernanceProjection
  artifactId : String
  artifactHash : String
  version : Nat
  reason : String
  body : ScannerDecision

/-- `makeScannerDecisionService`: the cache is the state, the rest is here. -/
structure ScannerDecisionService where
  reader : Reader
  dates : DateFunctions
  runtimeSafety : RuntimeSafetyProvider
  hashJson : ScannerDecision → String
  publish : DecisionEvent → Except DecisionError Unit

/-- The event that records a decision. -/
def decisionEvent (service : ScannerDecisionService) (decision : ScannerDecision)
    (governance : GovernanceProjection) : DecisionEvent where
  eventId := "evt_" ++ decision.decisionId
  type := "scanner.decision.recorded"
  occurredAt := decision.decidedAt
  governance := governance
  artifactId := decision.decisionId
  artifactHash := "sha256:" ++ service.hashJson decision
  version := 1
  reason := ",".intercalate decision.reasonCodes
  body := decision

/-- `decide`.  A decision of the type passes its contract, which asks for no more. -/
def decide (service : ScannerDecisionService) (cache : Cache) (randomUUID : String)
    (input : ScannerDecisionInput) : Except DecisionError ScannerDecision :=
  match service.reader.js.parseUrl input.payload with
  | none => .error (.destinationParse input.payload)
  | some destinationUrl =>
      let decision := makeDecisionFromResolution service.dates service.runtimeSafety randomUUID
        input destinationUrl (destinationFromUrl service.reader.js destinationUrl)
        (resolveByDestination service.reader cache destinationUrl input.issuerHintHost)
      match decision.governance with
      | none => .ok decision
      | some governance => do
          service.publish (decisionEvent service decision governance)
          return decision

end ScannerDecisions
