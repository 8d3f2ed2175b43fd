import QrTrust.Backend.PyRuntime

/-! # What a scanner shows for a decision

    `_scanner_ux_for_response` and what it calls: the risk score of a decision, with
    what the client says about hosts, and the level, the hold and the reasons that
    come of it.  `_with_scanner_ux` puts it next to the decision. -/

namespace ScannerUx

/-! ## Decisions and hints -/

/-- `ScannerOperationalState`. -/
inductive OperationalState where
  | unverified
  | signedUnknownIssuer
  | verifiedIssuer
  | verifiedIssuerDestinationRisky
  | blocked
  | staleTrustState
  | profileStale
  | profileRevoked
  | unknown
  deriving DecidableEq, Repr

/-- `attention_level` of a model decision. -/
inductive AttentionLevel where
  | positive
  | neutral
  | warning
  | block
  deriving DecidableEq, Repr

/-- `ScannerUXRiskLevel`. -/
inductive RiskLevel where
  | green
  | amber
  | red
  deriving DecidableEq, Repr

/-- `ScannerDecisionDestination`. -/
structure ScannerDecisionDestination where
  displayUrl : String
  host : Option String
  binding : String
  resolverUrl : Option String
  finalUrl : Option String
  redirectHops : Option Nat
  deriving DecidableEq, Repr

/-- `ScannerDecisionSignal`. -/
structure ScannerDecisionSignal where
  layer : String
  state : String
  deriving DecidableEq, Repr

/-- `ScannerDecisionUX`. -/
structure ScannerDecisionUX where
  riskScore : Nat
  riskLevel : RiskLevel
  riskStripe : RiskLevel
  holdRequired : Bool
  holdMs : Nat
  reasonCodes : List String
  destinationDisplay : Option String
  destinationFingerprint : Option String
  primaryAction : String
  deriving DecidableEq, Repr

/-- `ScannerDecisionResponse`, as far as its presentation reads it. -/
structure ScannerDecisionResponse where
  decisionState : OperationalState
  openAllowed : Bool
  /-- `model_decision.attention_level`. -/
  modelAttention : AttentionLevel
  destination : ScannerDecisionDestination
  signals : List ScannerDecisionSignal
  verifierStage : String
  scannerUx : Option ScannerDecisionUX
  deriving DecidableEq, Repr

/-- The hints of a `ScannerDecisionRequest`. -/
structure ScannerDecisionRequest where
  displayText : Option String := none
  priorOpenedHosts : Option (List String) := none
  knownBadHosts : List String := []
  newlyRegisteredHosts : List String := []
  domainAgeDays : List (String × Int) := []
  deriving DecidableEq, Repr

/-- The exceptions of the modelled functions. -/
inductive UxError where
  | valueError (text : String)
  | attributeError
  deriving DecidableEq, Repr

/-- What the functions take from the host language. -/
structure UxHost where
  py : PyRuntime
  /-- `character.isdigit()`. -/
  isdigit : Char → Bool
  /-- The first groups of the matches of `_DOMAIN_TEXT_RE` in a text. -/
  domainTexts : String → List String
  /-- The order in which a set of these elements is iterated. -/
  iterate : List String → List String

variable (host : UxHost)

/-! ## Hosts -/

/-- `value.strip(".")`. -/
def stripDots (value : String) : String :=
  String.ofList ((value.toList.dropWhile (· = '.')).reverse.dropWhile (· = '.')).reverse

/-- A text that is not empty. -/
def nonEmpty (value : String) : Option String := if value = "" then none else some value

/-- `value.strip().strip(".").lower() or None`. -/
def cleanHost (value : String) : Option String :=
  nonEmpty (host.py.lower (stripDots (PyString.strip value)))

/-- `_COMMON_MULTI_LABEL_PUBLIC_SUFFIXES`. -/
def commonMultiLabelPublicSuffixes : List String :=
  ["ac.uk", "co.in", "co.jp", "co.nz", "co.uk", "com.au", "com.br", "com.mx", "gov.uk", "ne.jp",
    "net.au", "org.au", "org.uk"]

/-- `_COMMON_SECOND_LEVEL_CCTLD_LABELS`. -/
def commonSecondLevelCctldLabels : List String :=
  ["ac", "co", "com", "edu", "go", "gov", "mil", "ne", "net", "or", "org"]

/-- `_LOCAL_KNOWN_BAD_SCANNER_DOMAINS`. -/
def localKnownBadScannerDomains : List String :=
  ["evil.example", "malware.example", "phish.example"]

/-- The labels of a domain, without empty ones. -/
def domainLabels (domain : String) : List String :=
  ((domain.toList.splitOn '.').map String.ofList).filter (· ≠ "")

/-- `".".join(labels[-count:])`. -/
def lastLabels (labels : List String) (count : Nat) : String :=
  PyString.join "." (labels.drop (labels.length - count))

/-- `value.replace(".", "").isdigit()`. -/
def isNumericHost (value : String) : Bool :=
  let digits := value.toList.filter (· ≠ '.')
  digits ≠ [] && digits.all host.isdigit

/-- `_registrable_domain`. -/
def registrableDomain (value : Option String) : Option String :=
  match (value.bind nonEmpty).bind (cleanHost host) with
  | none => none
  | some normalized =>
      if normalized = "localhost" ∨ isNumericHost host normalized then some normalized
      else
        let labels := domainLabels normalized
        if labels.length < 2 then some normalized
        else
          let suffix := lastLabels labels 2
          let secondLevel := (labels.reverse[1]?).getD ""
          let tld := (labels.reverse[0]?).getD ""
          if suffix ∈ commonMultiLabelPublicSuffixes ∧ 3 ≤ labels.length then
            some (lastLabels labels 3)
          else if PyString.len tld = 2 ∧ secondLevel ∈ commonSecondLevelCctldLabels
              ∧ 3 ≤ labels.length then
            some (lastLabels labels 3)
          else some (lastLabels labels 2)

/-- `_domain_fingerprint`. -/
def domainFingerprint (domain : Option String) : Option String :=
  match domain.bind nonEmpty with
  | none => none
  | some domain =>
      let labels := (domain.toList.splitOn '.').map String.ofList
      if labels.length < 2 then some domain
      else
        let tld := labels.getLast?.getD ""
        let body := (PyString.join "." labels.dropLast).toList
        if body.length ≤ 8 then some domain
        else some (String.ofList (body.take 3) ++ "..." ++ String.ofList (body.drop (body.length - 3))
          ++ "." ++ tld)

/-- `_parsed_http_url`. -/
def parsedHttpUrl (value : String) : Except UxError (Option SplitResult) := do
  let parsed ← (host.py.urlparse value).mapError UxError.valueError
  if host.py.lower parsed.scheme ∈ ["http", "https"] then .ok (some parsed) else .ok none

/-- `_is_https_absent`. -/
def isHttpsAbsent (value : String) : Except UxError Bool := do
  let parsed ← parsedHttpUrl host value
  return parsed.any fun parsed => host.py.lower parsed.scheme = "http"

/-- `_has_embedded_credentials`. -/
def hasEmbeddedCredentials (value : String) : Except UxError Bool := do
  let parsed ← parsedHttpUrl host value
  return parsed.any fun parsed => parsed.username.isSome || parsed.password.isSome

/-- `_normalized_host`; a URL may have no hostname to strip. -/
def normalizedHost (value : Option String) : Except UxError (Option String) :=
  match value.bind nonEmpty with
  | none => .ok none
  | some value => do
      match ← parsedHttpUrl host value with
      | none => return cleanHost host value
      | some parsed =>
          match parsed.hostname with
          | none => .error .attributeError
          | some hostname => return cleanHost host hostname

/-- `_host_identity_set`. -/
def hostIdentitySet (value : Option String) : Except UxError (List String) := do
  match ← normalizedHost host value with
  | none => return []
  | some normalized =>
      return ([some normalized, registrableDomain host (some normalized)].filterMap
        (·.bind nonEmpty)).dedup

/-- The union of the identities of some hosts. -/
def identitiesOf (values : List String) : Except UxError (List String) := do
  let sets ← values.mapM fun value => hostIdentitySet host (some value)
  return sets.flatten

/-- `_scanner_risk_urls`. -/
def scannerRiskUrls (response : ScannerDecisionResponse) : List String :=
  ([some response.destination.displayUrl, response.destination.resolverUrl,
    response.destination.finalUrl].filterMap (·.bind nonEmpty)).eraseDups

/-- `_scanner_risk_hosts`. -/
def scannerRiskHosts (response : ScannerDecisionResponse) : Except UxError (List String) := do
  let hosts ← (scannerRiskUrls response).mapM fun value => hostIdentitySet host (some value)
  let destination ← hostIdentitySet host response.destination.host
  return ((hosts.map host.iterate).flatten ++ host.iterate destination).eraseDups

/-- `_caption_domains`. -/
def captionDomains (value : Option String) : Except UxError (List String) :=
  match value.bind nonEmpty with
  | none => .ok []
  | some value => identitiesOf host (host.domainTexts value)

/-- `_domain_age_for_host`. -/
def domainAgeForHost (request : Option ScannerDecisionRequest) (value : String) :
    Except UxError (Option Int) :=
  match request with
  | none => .ok none
  | some request => do
      let identities ← hostIdentitySet host (some value)
      return (host.iterate identities).findSome? fun identity =>
        (request.domainAgeDays.find? fun entry => entry.1 = identity).map Prod.snd

/-! ## Risk -/

/-- The score and the reasons so far. -/
structure Risk where
  score : Nat
  reasonCodes : List String
  deriving DecidableEq, Repr

/-- `score += points; reason_codes.append(reason)`, where a condition holds. -/
def Risk.addIf (risk : Risk) (condition : Bool) (points : Nat) (reason : String) : Risk :=
  if condition then ⟨risk.score + points, risk.reasonCodes ++ [reason]⟩ else risk

/-- The state of the first signal of a layer. -/
def signalState (response : ScannerDecisionResponse) (layer : String) : Option String :=
  (response.signals.find? fun signal => signal.layer = layer).map ScannerDecisionSignal.state

/-- What the state of the decision adds. -/
def stateRisk (response : ScannerDecisionResponse) : Risk :=
  match response.decisionState with
  | .verifiedIssuer => ⟨0, []⟩
  | .verifiedIssuerDestinationRisky =>
      let runtimeState := (signalState response "runtime_safety").getD "risky"
      if runtimeState ∈ ["stale", "unavailable"] then ⟨35, ["runtime_" ++ runtimeState]⟩
      else ⟨35, ["runtime_risky"]⟩
  | .staleTrustState => ⟨40, ["stale_trust_state"]⟩
  | .profileStale => ⟨40, ["verifier_profile_stale"]⟩
  | .profileRevoked => ⟨80, ["verifier_profile_revoked"]⟩
  | .signedUnknownIssuer => ⟨35, ["issuer_unknown"]⟩
  | .unverified => ⟨30, [if response.openAllowed then "plain_url" else "unreadable_payload"]⟩
  | .unknown =>
      ⟨60, [if response.destination.binding = "redirect_unobserved" then "redirect_unobserved"
        else "trust_cache_unavailable"]⟩
  | .blocked => ⟨60, []⟩

/-- What the artifact signal adds. -/
def artifactRisk (response : ScannerDecisionResponse) (risk : Risk) : Risk :=
  match signalState response "artifact_integrity" with
  | none => risk
  | some state =>
      if state = "warn" then ⟨risk.score + 30, risk.reasonCodes ++ ["artifact_warning"]⟩
      else if state = "block" then
        ⟨risk.score + 60, risk.reasonCodes ++ ["artifact_integrity_block"]⟩
      else risk

/-- The reason that the stage of the verifier adds. -/
def stageReasons (response : ScannerDecisionResponse) (reasonCodes : List String) : List String :=
  if response.verifierStage = "payload_revalidation" then reasonCodes ++ ["destination_mismatch"]
  else if response.verifierStage = "redirect_policy" then
    reasonCodes ++ [if response.destination.binding = "redirect_unobserved" then
      "redirect_unobserved" else "redirect_policy_block"]
  else if response.verifierStage = "runtime_safety" then
    if reasonCodes.any (PyString.startswith · "runtime_") then reasonCodes
    else reasonCodes ++ ["runtime_blocked"]
  else if response.verifierStage = "governance_cache" then
    if "stale_trust_state" ∈ reasonCodes then reasonCodes
    else reasonCodes ++ ["trust_cache_unavailable"]
  else if response.verifierStage = "signed_schema" then reasonCodes ++ ["signature_invalid"]
  else if response.verifierStage = "artifact_integrity" then
    if "artifact_integrity_block" ∈ reasonCodes then reasonCodes
    else reasonCodes ++ ["artifact_integrity_block"]
  else reasonCodes

/-- What the decision adds by itself. -/
def decisionRisk (response : ScannerDecisionResponse) : Risk :=
  let risk := artifactRisk response (stateRisk response)
  let risk : Risk := ⟨risk.score, stageReasons response risk.reasonCodes⟩
  risk.addIf (1 < response.destination.redirectHops.getD 0) 10 "redirect_chain"

/-- What the URLs of the destination add. -/
def urlRisk (response : ScannerDecisionResponse) (risk : Risk) : Except UxError Risk := do
  let riskUrls := scannerRiskUrls response
  let httpsAbsent ← riskUrls.anyM (isHttpsAbsent host)
  let credentials ← riskUrls.anyM (hasEmbeddedCredentials host)
  return (risk.addIf httpsAbsent 15 "https_absent").addIf credentials 15 "embedded_credentials"

/-- Do two sets have an element in common? -/
def intersects (a b : List String) : Bool := a.any fun item => item ∈ b

/-- `has_new_domain`. -/
def hasNewDomain (allowHints : Bool) (request : Option ScannerDecisionRequest)
    (identities newlyRegistered : List String) : Except UxError Bool :=
  if intersects identities newlyRegistered then .ok true
  else if !allowHints then .ok false
  else
    (host.iterate identities).anyM fun identity => do
      let ageDays ← domainAgeForHost host request identity
      return ageDays.any fun ageDays => ageDays ≤ 14

/-- `net_new_domain`: is the destination none of the hosts opened before? -/
def isNetNew (allowHints : Bool) (request : Option ScannerDecisionRequest)
    (identities : List String) : Except UxError Bool :=
  match request.bind ScannerDecisionRequest.priorOpenedHosts with
  | none => .ok false
  | some priorOpenedHosts =>
      if !allowHints then .ok false
      else do
        let priorHosts ← identitiesOf host priorOpenedHosts
        return identities ≠ [] && !intersects identities priorHosts

/-- `allow_client_domain_hints`. -/
def allowClientDomainHints (response : ScannerDecisionResponse) : Bool :=
  response.decisionState ∈ [.signedUnknownIssuer, .unverified]

/-- What the hosts of the destination add, with the hints of the client. -/
def hostRisk (response : ScannerDecisionResponse) (request : Option ScannerDecisionRequest)
    (identities : List String) (risk : Risk) : Except UxError Risk := do
  let allowHints := allowClientDomainHints response
  let captions ← captionDomains host (request.bind ScannerDecisionRequest.displayText)
  let risk := risk.addIf (captions ≠ [] && identities ≠ [] && !intersects captions identities) 25
    "caption_domain_mismatch"
  let requestKnownBadHosts ← identitiesOf host
    (if allowHints then (request.map ScannerDecisionRequest.knownBadHosts).getD [] else [])
  let risk := risk.addIf
    (intersects identities (requestKnownBadHosts ++ localKnownBadScannerDomains)) 35
    "known_bad_domain"
  let newlyRegistered ← identitiesOf host
    (if allowHints then (request.map ScannerDecisionRequest.newlyRegisteredHosts).getD [] else [])
  let newDomain ← hasNewDomain host allowHints request identities newlyRegistered
  let risk := risk.addIf newDomain 35 "newly_registered_domain"
  let netNew ← isNetNew host allowHints request identities
  return risk.addIf netNew 10 "net_new_domain"

/-! ## Presentation -/

/-- The level of a score. -/
def riskLevel (score : Nat) : RiskLevel :=
  if 60 ≤ score then .red else if 30 ≤ score then .amber else .green

/-- The presentation of a decision with a risk. -/
def presentation (response : ScannerDecisionResponse) (risk : Risk) : ScannerDecisionUX :=
  let score := min risk.score 100
  let destinationDisplay := registrableDomain host response.destination.host
  let holdRequired := response.openAllowed && 30 ≤ score
  { riskScore := score
    riskLevel := riskLevel score
    riskStripe := riskLevel score
    holdRequired := holdRequired
    holdMs := if holdRequired then 800 else 0
    reasonCodes := risk.reasonCodes.dedup.mergeSort (· ≤ ·)
    destinationDisplay := destinationDisplay
    destinationFingerprint := domainFingerprint destinationDisplay
    primaryAction :=
      if !response.openAllowed then "Do not open"
      else if holdRequired then "Open with caution" else "Open" }

/-- `_scanner_ux_for_response`. -/
def scannerUxForResponse (response : ScannerDecisionResponse)
    (request : Option ScannerDecisionRequest) : Except UxError ScannerDecisionUX := do
  let risk ← urlRisk host response (decisionRisk response)
  let riskHosts ← scannerRiskHosts host response
  let destinationIdentities ← identitiesOf host riskHosts
  let risk ← hostRisk host response request destinationIdentities risk
  return presentation host response risk

/-- `_MODEL_ATTENTION_RANK`. -/
def modelAttentionRank : AttentionLevel → Nat
  | .positive => 0
  | .neutral => 1
  | .warning => 2
  | .block => 3

/-- `_SCANNER_UX_ATTENTION_RANK`. -/
def scannerUxAttentionRank : RiskLevel → Nat
  | .green => 0
  | .amber => 2
  | .red => 3

/-- The text of a decision state. -/
def OperationalState.text : OperationalState → String
  | .unverified => "unverified"
  | .signedUnknownIssuer => "signed_unknown_issuer"
  | .verifiedIssuer => "verified_issuer"
  | .verifiedIssuerDestinationRisky => "verified_issuer_destination_risky"
  | .blocked => "blocked"
  | .staleTrustState => "stale_trust_state"
  | .profileStale => "profile_stale"
  | .profileRevoked => "profile_revoked"
  | .unknown => "unknown"

/-- The text of an attention level. -/
def AttentionLevel.text : AttentionLevel → String
  | .positive => "positive"
  | .neutral => "neutral"
  | .warning => "warning"
  | .block => "block"

/-- `_assert_scanner_conformance_mapping`; the schema admits only states that are
    mapped. -/
def assertScannerConformanceMapping (response : ScannerDecisionResponse)
    (scannerUx : ScannerDecisionUX) : Except UxError Unit :=
  if scannerUxAttentionRank scannerUx.riskLevel < modelAttentionRank response.modelAttention then
    .error (.valueError ("scanner decision_state undercuts model_decision attention: "
      ++ host.py.repr response.decisionState.text ++ " < "
      ++ host.py.repr response.modelAttention.text))
  else .ok ()

/-- `_with_scanner_ux`. -/
def withScannerUx (response : ScannerDecisionResponse) (request : Option ScannerDecisionRequest) :
    Except UxError ScannerDecisionResponse := do
  let scannerUx ← scannerUxForResponse host response request
  assertScannerConformanceMapping host response scannerUx
  return { response with scannerUx := some scannerUx }

end ScannerUx
