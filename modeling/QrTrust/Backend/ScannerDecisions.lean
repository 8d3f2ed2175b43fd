import QrTrust.Backend.QrArtifact
import QrTrust.Backend.RedirectPolicy
import QrTrust.Backend.ScannerRecord
import QrTrust.Backend.ScannerUx
import QrTrust.Backend.TrustResiduals

/-! # What a scan can decide before the verifier runs

    The decision that a scanner is answered with, within the bounds of its schema, and
    the decisions that need no verifier: on the profile of the verifier, the image, a
    payload without an envelope, an issuer nobody enrolled, and the age of a governance
    projection. -/

namespace ScannerPipeline

open TrustResiduals SignedSchema TrustStore ScannerRecord QrArtifact RedirectPolicy
open PayloadRevalidation (PolicyFile)
open ScannerUx (OperationalState ScannerDecisionDestination ScannerDecisionResponse UxHost)
open VerdictCache (NarrowedVerifierRequest VerdictSource)

/-! ## The age of a governance projection -/

/-- `GovernanceTrustProjection`, as far as a scan reads it. -/
structure GovernanceTrustProjection where
  rootProgramId : String
  delegatedAuthorityId : String
  issuerId : String
  issuerDisplayName : String
  assuranceTier : String
  destinationPolicyId : String
  cacheEntryId : String
  cacheStatePublishedAt : String
  cacheGeneratedAt : String
  cacheExpiresAt : String
  maxStalenessSeconds : Int
  staleBehavior : String
  deriving DecidableEq, Repr

/-- `issuer_namespace_label`. -/
def GovernanceTrustProjection.issuerNamespaceLabel (governance : GovernanceTrustProjection) :
    String :=
  "(" ++ governance.rootProgramId ++ ", " ++ governance.delegatedAuthorityId ++ ", "
    ++ governance.issuerId ++ ")"

/-- What `cache_freshness_state` returns. -/
inductive CacheFreshnessState where
  | fresh
  | stale
  | expired
  deriving DecidableEq, Repr

/-- The text of a state. -/
def CacheFreshnessState.text : CacheFreshnessState → String
  | .fresh => "fresh"
  | .stale => "stale"
  | .expired => "expired"

section
variable (py : PyRuntime)

/-- `_parse_fixture_timestamp`. -/
def parseFixtureTimestamp (value : String) : Except PyError Datetime :=
  let normalized := normalizeTimestamp value
  match py.fromisoformat normalized with
  | none => .error (.valueError ("Invalid isoformat string: " ++ py.repr normalized))
  | some parsed => .ok parsed.withUtc

/-- `cache_freshness_state`. -/
def GovernanceTrustProjection.cacheFreshnessState (governance : GovernanceTrustProjection)
    (now : Int) : Except PyError CacheFreshnessState := do
  let expiresAt ← parseFixtureTimestamp py governance.cacheExpiresAt
  if expiresAt.instant ≤ now then return .expired
  let generatedAt ← parseFixtureTimestamp py governance.cacheGeneratedAt
  if governance.maxStalenessSeconds < (now - generatedAt.instant).tdiv 1000000 then return .stale
  return .fresh

/-! ## Runtime safety -/

/-- `RuntimeSafetyVerdict`. -/
structure RuntimeSafetyVerdict where
  state : String
  reason : String
  decisionState : OperationalState
  openAllowed : Bool
  deriving DecidableEq, Repr

/-- `is_clean`. -/
def RuntimeSafetyVerdict.isClean (verdict : RuntimeSafetyVerdict) : Bool := verdict.state = "clean"

/-- `_first_marker`, over the pairs of the query that have a value. -/
def firstMarker (query : List (String × String)) : String :=
  (["runtime", "risk", "safety"].findSome? fun key =>
    (query.find? fun pair => pair.1 = key).map fun pair =>
      py.lower (PyString.strip pair.2)).getD ""

/-- `value.rstrip("/")`. -/
def rstripSlash (value : String) : String :=
  String.ofList (value.toList.reverse.dropWhile (· = '/')).reverse

/-- The verdict on a marker and a path. -/
def runtimeVerdict (marker path : String) : RuntimeSafetyVerdict :=
  if marker ∈ ["risky", "warning", "suspicious"] ∨ PyString.endswith path "/risky" then
    { state := "risky"
      reason := "Runtime safety provider reports elevated destination risk after issuer "
        ++ "and destination binding checks passed."
      decisionState := .verifiedIssuerDestinationRisky
      openAllowed := true }
  else if marker ∈ ["blocked", "malware", "phishing"] ∨ PyString.endswith path "/blocked" then
    { state := "blocked"
      reason := "Runtime safety provider reports a high-confidence block condition after "
        ++ "issuer and destination binding checks passed."
      decisionState := .blocked
      openAllowed := false }
  else if marker = "expired" then
    { state := "expired"
      reason := "Runtime safety verdict has expired after issuer and destination binding "
        ++ "checks passed. Expired clearance is not live clearance."
      decisionState := .blocked
      openAllowed := false }
  else if marker ∈ ["unavailable", "unknown"] then
    { state := "unavailable"
      reason := "Runtime safety provider was unavailable after issuer and destination "
        ++ "binding checks passed."
      decisionState := .verifiedIssuerDestinationRisky
      openAllowed := true }
  else if marker = "stale" then
    { state := "stale"
      reason :=
        "Runtime safety data is stale after issuer and destination binding checks passed."
      decisionState := .verifiedIssuerDestinationRisky
      openAllowed := true }
  else
    { state := "clean"
      reason := "Runtime safety provider found no current block or warning condition."
      decisionState := .verifiedIssuer
      openAllowed := true }

/-- `evaluate_runtime_safety`; `parse_qs` drops the pairs without a value. -/
def evaluateRuntimeSafety (destination : String) : Except PyError RuntimeSafetyVerdict := do
  let parsed ← (py.urlparse (PyString.strip destination)).mapError PyError.valueError
  let query := (py.parseQsl parsed.query).filter fun pair => pair.2 ≠ ""
  return runtimeVerdict (firstMarker py query) (rstripSlash (py.lower parsed.path))

/-! ## Destinations -/

/-- `_url_host`. -/
def urlHost (value : String) : Except PyError (Option String) := do
  let parsed ← (py.urlparse value).mapError PyError.valueError
  if py.lower parsed.scheme ∈ ["http", "https"] then
    return parsed.hostname.bind fun hostname =>
      ScannerUx.nonEmpty (py.lower (ScannerUx.stripDots hostname))
  return none

/-- `_looks_like_url`. -/
def looksLikeUrl (value : String) : Except PyError Bool := (urlHost py value).map Option.isSome

/-- `value[:2048]`. -/
def cutUrl (value : String) : String := String.ofList (value.toList.take 2048)

/-- `_scanner_destination`. -/
def scannerDestination (value binding : String) (redirect : Option RedirectPolicyVerdict) :
    Except PyError ScannerDecisionDestination := do
  let host ← urlHost py value
  return { displayUrl := cutUrl value
           host := host
           binding := binding
           resolverUrl := ((redirect.bind RedirectPolicyVerdict.resolverUrl).bind
             ScannerUx.nonEmpty).map cutUrl
           finalUrl := ((redirect.bind RedirectPolicyVerdict.finalUrl).bind
             ScannerUx.nonEmpty).map cutUrl
           redirectHops := (redirect.bind RedirectPolicyVerdict.hopCount).map Int.toNat }

end

/-! ## Residual vectors -/

/-- The tier of a family, and the cause that it is shown with. -/
structure ResidualEntry where
  tier : String
  cause : Option String
  deriving DecidableEq, Repr

/-- `ResidualVector`. -/
abbrev ResidualVector := ResidualFamily → ResidualEntry

/-- `_entry` without a cause. -/
def entry (tier : String) : ResidualEntry := ⟨tier, none⟩

/-- The tiers of a vector. -/
def tiers (vector : ResidualVector) : Residuals := fun family => (vector family).tier

/-- `_RUNTIME_DECISION_PROFILE`. -/
def runtimeDecisionProfile : String := "bounded-online"

/-- The text of an error of `decide`. -/
def decideErrorText (py : PyRuntime) : DecideError → String
  | .unknownProfile profile =>
      "unknown policy profile " ++ py.repr profile ++ "; expected one of "
        ++ py.reprList (knownProfiles.mergeSort.map .str)
  | .unknownResidualFamilies families =>
      "unknown mandatory residual families " ++ py.reprList (families.mergeSort.map .str)
        ++ "; expected members of "
        ++ py.reprList ((residualFamilies.map ResidualFamily.name).mergeSort.map .str)

/-- `_apply_trust_residual_gate`. -/
def applyTrustResidualGate (py : PyRuntime) (decisionState : OperationalState)
    (vector : ResidualVector) : Except PyError (OperationalState × Decision) := do
  let modelDecision ← (decide (tiers vector) runtimeDecisionProfile []).mapError
    fun exc => .valueError (decideErrorText py exc)
  if decisionState = .verifiedIssuer ∧ modelDecision.primaryState ≠ .verifiedIssuer then
    return (.unverified, modelDecision)
  return (decisionState, modelDecision)

/-- `_residual_payload`: on the wire no issuer is an unknown one. -/
def residualPayload (vector : ResidualVector) (decision : Decision)
    (extraReasonCodes : List String) : ResidualVector × Decision :=
  (fun family =>
      { vector family with
        tier := if (vector family).tier = "no-issuer" then "unknown" else (vector family).tier },
    { decision with
      reasonCodes := extraReasonCodes.foldl
        (fun codes code => if code ∈ codes then codes else codes ++ [code])
        decision.reasonCodes })

/-- The vector of a scan whose issuer and destination nobody looked at. -/
def uncheckedVector (freshness artifactIntegrity : ResidualEntry) : ResidualVector
  | .issuerChain => entry "not-checked"
  | .destinationPolicy => entry "not-checked"
  | .redirectFlow => entry "not-applicable"
  | .runtimeSafety => entry "not-checked"
  | .freshness => freshness
  | .artifactIntegrity => artifactIntegrity

/-- `_unverified_residual_vector`, over the entry of the issuer. -/
def unverifiedResidualVector (issuerChain : ResidualEntry) : ResidualVector
  | .issuerChain => issuerChain
  | .destinationPolicy => entry "not-applicable"
  | .redirectFlow => entry "not-applicable"
  | .runtimeSafety => entry "not-checked"
  | .freshness => entry "not-applicable"
  | .artifactIntegrity => entry "pass"

/-! ## The response -/

/-- `ScannerDecisionIssuer`. -/
structure ScannerDecisionIssuer where
  name : Option String
  tier : Option String
  status : String
  deriving DecidableEq, Repr

/-- `ScannerDecisionSignal`, with its message. -/
structure DecisionSignal where
  layer : String
  state : String
  message : Option String
  deriving DecidableEq, Repr

/-- `ScannerDecisionAction`. -/
structure ScannerDecisionAction where
  id : String
  label : String
  style : String
  deriving DecidableEq, Repr

/-- What a `ScannerDecisionResponse` is made of. -/
structure DecisionFields where
  decisionState : OperationalState
  openAllowed : Bool
  envelopeId : Option String
  residualVector : ResidualVector
  modelDecision : Decision
  primaryMessage : String
  issuer : ScannerDecisionIssuer
  destination : ScannerDecisionDestination
  redirectPolicy : Option String
  governance : Option GovernanceTrustProjection
  signals : List DecisionSignal
  actions : List ScannerDecisionAction
  verifierStage : String
  verifierReason : String
  requestId : Option String
  verdictSource : VerdictSource

/-- A text of the schema, with the bounds of its `Field`. -/
structure BoundedText where
  field : String
  least : Nat
  most : Nat
  value : Option String

/-- Does the text keep its bounds? -/
def BoundedText.Holds (text : BoundedText) : Prop :=
  ∀ value ∈ text.value, text.least ≤ PyString.len value ∧ PyString.len value ≤ text.most

instance (text : BoundedText) : Decidable text.Holds :=
  inferInstanceAs (Decidable (∀ value ∈ text.value,
    text.least ≤ PyString.len value ∧ PyString.len value ≤ text.most))

/-- The texts of a `ScannerDecisionGovernance`. -/
def GovernanceTrustProjection.texts (governance : GovernanceTrustProjection) : List BoundedText :=
  [ ⟨"root_program_id", 1, 256, some governance.rootProgramId⟩,
    ⟨"delegated_authority_id", 1, 256, some governance.delegatedAuthorityId⟩,
    ⟨"issuer_id", 1, 256, some governance.issuerId⟩,
    ⟨"issuer_namespace_label", 1, 768, some governance.issuerNamespaceLabel⟩,
    ⟨"issuer_display_name", 1, 256, some governance.issuerDisplayName⟩,
    ⟨"assurance_tier", 1, 128, some governance.assuranceTier⟩,
    ⟨"destination_policy_id", 1, 256, some governance.destinationPolicyId⟩,
    ⟨"cache_entry_id", 1, 256, some governance.cacheEntryId⟩,
    ⟨"cache_state_published_at", 1, 64, some governance.cacheStatePublishedAt⟩,
    ⟨"cache_generated_at", 1, 64, some governance.cacheGeneratedAt⟩,
    ⟨"cache_expires_at", 1, 64, some governance.cacheExpiresAt⟩,
    ⟨"stale_behavior", 1, 128, some governance.staleBehavior⟩ ]

/-- The texts of a signal. -/
def DecisionSignal.texts (signal : DecisionSignal) : List BoundedText :=
  [ ⟨"layer", 1, 64, some signal.layer⟩, ⟨"state", 1, 64, some signal.state⟩,
    ⟨"message", 0, 512, signal.message⟩ ]

/-- The texts of an action. -/
def ScannerDecisionAction.texts (action : ScannerDecisionAction) : List BoundedText :=
  [ ⟨"id", 1, 64, some action.id⟩, ⟨"label", 1, 128, some action.label⟩,
    ⟨"style", 1, 64, some action.style⟩ ]

/-- The texts of a decision itself. -/
def DecisionFields.ownTexts (fields : DecisionFields) : List BoundedText :=
  [ ⟨"envelope_id", 64, 64, fields.envelopeId⟩,
    ⟨"primary_message", 1, 512, some fields.primaryMessage⟩,
    ⟨"name", 0, 256, fields.issuer.name⟩,
    ⟨"tier", 0, 128, fields.issuer.tier⟩,
    ⟨"status", 1, 64, some fields.issuer.status⟩,
    ⟨"display_url", 1, 2048, some fields.destination.displayUrl⟩,
    ⟨"host", 0, 256, fields.destination.host⟩,
    ⟨"binding", 1, 64, some fields.destination.binding⟩,
    ⟨"resolver_url", 0, 2048, fields.destination.resolverUrl⟩,
    ⟨"final_url", 0, 2048, fields.destination.finalUrl⟩,
    ⟨"redirect_policy", 0, 128, fields.redirectPolicy⟩,
    ⟨"verifier_stage", 1, 64, some fields.verifierStage⟩,
    ⟨"verifier_reason", 1, 512, some fields.verifierReason⟩,
    ⟨"request_id", 0, 128, fields.requestId⟩ ]

/-- The texts of a decision and of its parts, with the bounds of the schema. -/
def DecisionFields.texts (fields : DecisionFields) : List BoundedText :=
  fields.ownTexts ++ (fields.governance.map GovernanceTrustProjection.texts).getD []
  ++ fields.signals.flatMap DecisionSignal.texts
  ++ fields.actions.flatMap ScannerDecisionAction.texts

/-- Do the fields keep the bounds of the schema? -/
def DecisionFields.WithinBounds (fields : DecisionFields) : Prop :=
  (∀ text ∈ fields.texts, text.Holds)
    ∧ ∀ governance ∈ fields.governance, 0 ≤ governance.maxStalenessSeconds

instance (fields : DecisionFields) : Decidable fields.WithinBounds :=
  inferInstanceAs (Decidable ((∀ text ∈ fields.texts, text.Holds)
    ∧ ∀ governance ∈ fields.governance, 0 ≤ governance.maxStalenessSeconds))

/-- `ScannerDecisionResponse`: pydantic makes none that is out of bounds. -/
structure ScannerDecision extends DecisionFields where
  withinBounds : toDecisionFields.WithinBounds

/-- The field that pydantic refuses. -/
def DecisionFields.refusedField (fields : DecisionFields) : String :=
  ((fields.texts.find? fun text => ¬ text.Holds).map BoundedText.field).getD
    "max_staleness_seconds"

/-- `ScannerDecisionResponse(…)`. -/
def DecisionFields.validated (fields : DecisionFields) : Except PyError ScannerDecision :=
  if h : fields.WithinBounds then .ok ⟨fields, h⟩ else .error (.valueError fields.refusedField)

/-- The level of the model decision, as the presentation ranks it. -/
def modelAttention (decision : Decision) : ScannerUx.AttentionLevel :=
  match attentionLevel decision with
  | .positive => .positive
  | .neutral => .neutral
  | .warning => .warning
  | .block => .block

/-- The decision, as its presentation reads it. -/
def DecisionFields.response (fields : DecisionFields) : ScannerDecisionResponse where
  decisionState := fields.decisionState
  openAllowed := fields.openAllowed
  modelAttention := modelAttention fields.modelDecision
  destination := fields.destination
  signals := fields.signals.map fun signal => ⟨signal.layer, signal.state⟩
  verifierStage := fields.verifierStage
  scannerUx := none

/-- `_scanner_actions`. -/
def scannerActions (decisionState : OperationalState) (openAllowed : Bool) :
    List ScannerDecisionAction :=
  match decisionState with
  | .blocked =>
      [⟨"dismiss", "Do not open", "danger"⟩,
        ⟨"copy_destination", "Copy destination", "secondary"⟩]
  | .verifiedIssuer =>
      [⟨"open_destination", "Open verified destination", "primary"⟩,
        ⟨"copy_destination", "Copy destination", "secondary"⟩]
  | _ =>
      if openAllowed then
        [⟨"continue_caution", "Continue with caution", "warning"⟩,
          ⟨"copy_destination", "Copy destination", "secondary"⟩]
      else
        [⟨"dismiss", "Do not open", "danger"⟩, ⟨"copy_payload", "Copy payload", "secondary"⟩]

/-! ## Scans -/

/-- `VerifierProfileState`. -/
inductive VerifierProfileState where
  | active
  | stale
  | revoked
  deriving DecidableEq, Repr

/-- `_strictest_verifier_profile_state`. -/
def strictestVerifierProfileState (states : List VerifierProfileState) : VerifierProfileState :=
  if .revoked ∈ states then .revoked else if .stale ∈ states then .stale else .active

/-- What scans are decided with: the host language and its libraries, the settings, and
    the state of the verifier's profile that is configured. -/
structure ScannerHost (Image Quad ρ : Type) where
  ux : UxHost
  libraries : ImageLibraries Image Quad ρ
  /-- `base64.b64decode(value, validate=True)`; `none` where it raises. -/
  b64decode : String → Option (List UInt8)
  /-- `value.isoformat()`. -/
  isoformat : Datetime → String
  /-- `model_dump_json`. -/
  dumpJson : NarrowedVerifierRequest → String
  config : BackendConfig
  artifactConfig : ArtifactConfig
  policyFile : Option PolicyFile
  verifierProfileState : VerifierProfileState

/-- `ScannerDecisionRequest`, apart from its hints: of its client, the state of the
    profile. -/
structure ScanRequest where
  qrPayload : String
  imageBase64 : Option String
  clientProfileState : Option VerifierProfileState
  requestId : Option String
  deriving DecidableEq, Repr

variable {Image Quad ρ : Type} (host : ScannerHost Image Quad ρ)

/-- `decode_envelope_from_qr_payload`, under the settings. -/
def decodeEnvelope (qrPayload : String) : Except PyError SignedQRCodeEnvelope :=
  decodeEnvelopeFromQrPayload host.ux.py host.libraries.number
    host.artifactConfig.maxQrPayloadChars qrPayload

/-- The identity of an envelope. -/
def envelopeId (envelope : SignedQRCodeEnvelope) : String :=
  computeEnvelopeId host.ux.py envelope.claims envelope.signature

/-- `value or "unreadable QR payload"`. -/
def readableOr (value : String) : String := if value = "" then "unreadable QR payload" else value

/-- `_scanner_claimed_destination_from_payload`. -/
def scannerClaimedDestinationFromPayload (qrPayload : String) : Except PyError String := do
  let trimmedPayload := PyString.strip qrPayload
  if ← looksLikeUrl host.ux.py trimmedPayload then return trimmedPayload
  match decodeEnvelope host trimmedPayload with
  | .error (.qrArtifactError _) => return readableOr trimmedPayload
  | .error exc => throw exc
  | .ok envelope => return envelope.claims.payload

/-! ## The profile of the verifier -/

/-- The signals of a profile that is not active. -/
def profileSignals (isRevoked : Bool) (destinationBinding scannerState : String) :
    List DecisionSignal :=
  [ ⟨"issuer_legitimacy", if isRevoked then "profile_revoked" else "not_checked",
      some (if isRevoked then
        "The installed verifier profile is revoked, so issuer enrollment was not trusted."
      else "The verifier profile is stale, so current issuer enrollment was not confirmed.")⟩,
    ⟨"destination_binding", destinationBinding,
      some (if isRevoked then
        "Destination binding was not evaluated because the verifier profile is revoked."
      else "A destination was read from the QR, but it was not checked against current issuer "
        ++ "policy.")⟩,
    ⟨"runtime_safety", "not_evaluated",
      some (if isRevoked then "Runtime safety is not evaluated with a revoked verifier profile."
      else "Current destination safety was not evaluated because the verifier profile is "
        ++ "stale.")⟩,
    ⟨"scanner_decision", scannerState, none⟩ ]

/-- The message about a profile that is not active. -/
def profileMessage (isRevoked hasUrlDestination : Bool) : String :=
  if isRevoked then
    "This scanner's verifier profile has been revoked. Do not rely on this QR result until a "
      ++ "trusted profile is installed."
  else if hasUrlDestination then
    "This scanner's verifier profile is stale. A destination was found, but current issuer and "
      ++ "destination trust were not confirmed."
  else
    "This scanner's verifier profile is stale, and this QR did not expose a safe destination to "
      ++ "review."

/-- The response to a profile that is not active. -/
def profileFields (isRevoked hasUrlDestination : Bool) (destination : ScannerDecisionDestination)
    (wire : ResidualVector × Decision) (requestId : Option String) : DecisionFields :=
  let decisionState := if isRevoked then .profileRevoked else .profileStale
  let openAllowed := hasUrlDestination && !isRevoked
  { decisionState := decisionState
    openAllowed := openAllowed
    envelopeId := none
    residualVector := wire.1
    modelDecision := wire.2
    primaryMessage := profileMessage isRevoked hasUrlDestination
    issuer := ⟨none, none, if isRevoked then "profile_revoked" else "profile_stale"⟩
    destination := destination
    redirectPolicy := none
    governance := none
    signals := profileSignals isRevoked destination.binding
      (if isRevoked then "blocked" else if hasUrlDestination then "caution" else "blocked")
    actions := scannerActions decisionState openAllowed
    verifierStage := "verifier_profile"
    verifierReason :=
      if isRevoked then "Verifier profile is revoked" else "Verifier profile is stale"
    requestId := requestId
    verdictSource := .computed }

/-- `_verifier_profile_state_decision`. -/
def verifierProfileStateDecision (request : ScanRequest) :
    Except PyError (Option ScannerDecision) := do
  let profileState := strictestVerifierProfileState
    [host.verifierProfileState, request.clientProfileState.getD .active]
  if profileState = .active then return none
  let destination ← scannerClaimedDestinationFromPayload host request.qrPayload
  let hasUrlDestination ← looksLikeUrl host.ux.py destination
  let isRevoked : Bool := profileState = .revoked
  let vector := uncheckedVector (entry "not-checked") (entry "pass")
  let (_, decision) ← applyTrustResidualGate host.ux.py
    (if isRevoked then .profileRevoked else .profileStale) vector
  let destination ← scannerDestination host.ux.py destination
    (if isRevoked then "not_evaluated" else "unverified") none
  let decision ← (profileFields isRevoked hasUrlDestination destination
    (residualPayload vector decision []) request.requestId).validated
  return some decision

/-! ## The image -/

/-- What follows the first comma of a text. -/
def afterComma (value : String) : String :=
  String.ofList ((value.toList.dropWhile (· ≠ ',')).drop 1)

/-- `decode_image_base64`. -/
def decodeImageBase64 (imageBase64 : String) : Except PyError (List UInt8) :=
  let stripped := PyString.strip imageBase64
  if stripped = "" then
    .error (.qrArtifactError "Image payload must be a non-empty base64 string")
  else
    let normalized :=
      if ',' ∈ stripped.toList ∧ PyString.startswith (host.ux.py.lower stripped) "data:image/" then
        afterComma stripped
      else stripped
    match host.b64decode normalized with
    | none => .error (.qrArtifactError "Image payload must be valid base64 image data")
    | some imageBytes =>
        if host.artifactConfig.maxDecodeImageBytes < imageBytes.length then
          .error (.qrArtifactError ("Image exceeds the maximum supported size of "
            ++ toString host.artifactConfig.maxDecodeImageBytes ++ " bytes"))
        else .ok imageBytes

/-- `_scanner_artifact_analysis_for_request`. -/
def scannerArtifactAnalysisForRequest (request : ScanRequest) :
    Except PyError (Option (QRArtifactAnalysis ρ)) :=
  match request.imageBase64 with
  | none => .ok none
  | some imageBase64 => do
      let imageBytes ← decodeImageBase64 host imageBase64
      return some (← analyzeQrArtifactFromPngBytes host.ux.py host.artifactConfig host.libraries
        imageBytes)

/-- `_scanner_artifact_signal`. -/
def scannerArtifactSignal (artifact : QRArtifactAnalysis ρ) (forceBlock : Bool) : DecisionSignal :=
  if forceBlock then
    ⟨"artifact_integrity", "block",
      some "The decoded image artifact and submitted scanner payload do not match."⟩
  else if artifact.artifactIntegrity = "pass" then
    ⟨"artifact_integrity", "pass", some "QR artifact inspection found no structural warning."⟩
  else
    let indicators := PyString.join ", " artifact.tamperIndicators
    ⟨"artifact_integrity", "warn",
      some ("QR artifact inspection reported: "
        ++ (if indicators = "" then "artifact warning" else indicators) ++ ".")⟩

/-- The response to a payload that is not the payload of its image. -/
def mismatchFields (artifact : QRArtifactAnalysis ρ) (destination : ScannerDecisionDestination)
    (wire : ResidualVector × Decision) (requestId : Option String) : DecisionFields where
  decisionState := .blocked
  openAllowed := false
  envelopeId := none
  residualVector := wire.1
  modelDecision := wire.2
  primaryMessage := "The submitted scanner payload does not match the QR image artifact. "
    ++ "Do not open this destination."
  issuer := ⟨none, none, "not_evaluated"⟩
  destination := destination
  redirectPolicy := none
  governance := none
  signals :=
    [ ⟨"issuer_legitimacy", "not_evaluated",
        some "Issuer trust was not evaluated because artifact integrity failed."⟩,
      ⟨"destination_binding", "not_evaluated",
        some "Destination binding was not evaluated because artifact integrity failed."⟩,
      ⟨"runtime_safety", "not_evaluated",
        some "Runtime safety was not evaluated because artifact integrity failed."⟩,
      scannerArtifactSignal artifact true,
      ⟨"scanner_decision", "blocked", none⟩ ]
  actions := scannerActions .blocked false
  verifierStage := "artifact_integrity"
  verifierReason := "QR image artifact payload does not match submitted scanner payload"
  requestId := requestId
  verdictSource := .computed

/-- `_artifact_payload_mismatch_decision`. -/
def artifactPayloadMismatchDecision (requestPayload : String) (artifact : QRArtifactAnalysis ρ)
    (requestId : Option String) : Except PyError ScannerDecision := do
  let destination ← scannerClaimedDestinationFromPayload host artifact.payload
  let vector := uncheckedVector (entry "not-checked") ⟨"block", some "container-mismatch"⟩
  let (_, decision) ← applyTrustResidualGate host.ux.py .blocked vector
  let destination ← scannerDestination host.ux.py
    (if destination = "" then readableOr requestPayload else destination) "not_evaluated" none
  (mismatchFields artifact destination (residualPayload vector decision []) requestId).validated

/-! ## Payloads without an envelope -/

/-- The response to a payload without an envelope. -/
def unverifiedFields (hasUrlDestination : Bool) (reason : String)
    (destination : ScannerDecisionDestination) (wire : ResidualVector × Decision)
    (requestId : Option String) : DecisionFields where
  decisionState := .unverified
  openAllowed := hasUrlDestination
  envelopeId := none
  residualVector := wire.1
  modelDecision := wire.2
  primaryMessage :=
    if hasUrlDestination then
      "No recognized trust signal is available for this QR. Review the destination before "
        ++ "continuing."
    else "This QR does not contain a scanner-verifiable URL or signed trust envelope."
  issuer := ⟨none, none, "none"⟩
  destination := destination
  redirectPolicy := none
  governance := none
  signals :=
    [ ⟨"issuer_legitimacy", "none", some "No signed trust path was found."⟩,
      ⟨"destination_binding", "unverified",
        some (if hasUrlDestination then
          "This is a regular URL QR. No issuer-approved destination binding was available."
        else "This payload is neither a URL nor a signed QR Trust envelope.")⟩,
      ⟨"runtime_safety", "not_evaluated",
        some "Runtime safety is not evaluated without a trust path."⟩,
      ⟨"scanner_decision", if hasUrlDestination then "caution" else "blocked", none⟩ ]
  actions := scannerActions .unverified hasUrlDestination
  verifierStage := "qr_decode"
  verifierReason :=
    if hasUrlDestination then "Plain URL QR without a signed QR Trust envelope" else reason
  requestId := requestId
  verdictSource := .computed

/-- `_unverified_scanner_decision`. -/
def unverifiedScannerDecision (payload reason : String) (requestId : Option String)
    (cause : String) (extraReasonCodes : List String) : Except PyError ScannerDecision := do
  let trimmedPayload := PyString.strip payload
  let hasUrlDestination ← looksLikeUrl host.ux.py trimmedPayload
  let vector := unverifiedResidualVector ⟨"no-issuer", some cause⟩
  let (_, decision) ← applyTrustResidualGate host.ux.py .unverified vector
  let destination ← scannerDestination host.ux.py (readableOr trimmedPayload) "unverified" none
  (unverifiedFields hasUrlDestination reason destination
    (residualPayload vector decision extraReasonCodes) requestId).validated

/-- The decision about a payload that does not decode, with the text of the error. -/
def undecodedDecision (qrPayload reason : String) (requestId : Option String) :
    Except PyError ScannerDecision := do
  if PyString.startswith reason "Field 'version' must be exactly" then
    unverifiedScannerDecision host qrPayload reason requestId "invalid-trust-claim"
      ["unsupported_claims_version"]
  else if ← looksLikeUrl host.ux.py qrPayload then
    unverifiedScannerDecision host qrPayload reason requestId "no-trust-claim"
      ["no_signed_envelope"]
  else
    unverifiedScannerDecision host qrPayload reason requestId "invalid-trust-claim"
      ["unsupported_envelope"]

/-! ## Envelopes without a verdict -/

/-- The response to an envelope of an issuer that is not enrolled. -/
def unknownIssuerFields (envelope : SignedQRCodeEnvelope) (openAllowed : Bool)
    (destination : ScannerDecisionDestination) (wire : ResidualVector × Decision)
    (requestId : Option String) : DecisionFields where
  decisionState := .signedUnknownIssuer
  openAllowed := openAllowed
  envelopeId := some (envelopeId host envelope)
  residualVector := wire.1
  modelDecision := wire.2
  primaryMessage := "The QR uses the signed-envelope format, but this verifier has no registered "
    ++ "issuer state for its certificate reference."
  issuer := ⟨none, none, "unknown"⟩
  destination := destination
  redirectPolicy := none
  governance := none
  signals :=
    [ ⟨"issuer_legitimacy", "unknown",
        some ("No trust record for " ++ envelope.claims.certificateRef ++ ".")⟩,
      ⟨"destination_binding", "unknown", some "Destination policy was not available."⟩,
      ⟨"runtime_safety", "not_evaluated", none⟩,
      ⟨"scanner_decision", "caution", none⟩ ]
  actions := scannerActions .signedUnknownIssuer openAllowed
  verifierStage := "issuer_lookup"
  verifierReason := "Signed envelope issuer is not enrolled in this verifier instance"
  requestId := requestId
  verdictSource := .computed

/-- `_signed_unknown_issuer_decision`. -/
def signedUnknownIssuerDecision (envelope : SignedQRCodeEnvelope) (requestId : Option String) :
    Except PyError ScannerDecision := do
  let vector := unverifiedResidualVector (entry "unaccepted-issuer")
  let (_, decision) ← applyTrustResidualGate host.ux.py .signedUnknownIssuer vector
  let openAllowed ← looksLikeUrl host.ux.py envelope.claims.payload
  let destination ← scannerDestination host.ux.py envelope.claims.payload "unknown" none
  (unknownIssuerFields host envelope openAllowed destination (residualPayload vector decision [])
    requestId).validated

/-- The response to a projection that is not fresh. -/
def governanceFields (envelope : SignedQRCodeEnvelope)
    (record : ScannerTrustRecord GovernanceTrustProjection)
    (governance : GovernanceTrustProjection) (freshnessState : CacheFreshnessState)
    (openAllowed : Bool) (destination : ScannerDecisionDestination)
    (wire : ResidualVector × Decision) (requestId : Option String) : DecisionFields :=
  let isExpired : Bool := freshnessState = .expired
  let decisionState := if isExpired then .blocked else .staleTrustState
  { decisionState := decisionState
    openAllowed := openAllowed
    envelopeId := some (envelopeId host envelope)
    residualVector := wire.1
    modelDecision := wire.2
    primaryMessage :=
      if isExpired then
        "Required trust state has expired. Ask for a fresh or trusted QR before continuing."
      else
        "The QR is signed by a previously recognized issuer, but the verifier's trust cache is "
          ++ "stale. Review before opening or refresh trust state."
    issuer :=
      ⟨some record.certificate.issuerName, some governance.assuranceTier, freshnessState.text⟩
    destination := destination
    redirectPolicy := none
    governance := some governance
    signals :=
      [ ⟨"issuer_legitimacy", freshnessState.text,
          some ("The issuer namespace is known, but its required verifier cache entry is "
            ++ freshnessState.text ++ ".")⟩,
        ⟨"destination_binding", "not_evaluated",
          some ("Destination binding is not trusted because required governance cache state is "
            ++ freshnessState.text ++ ".")⟩,
        ⟨"runtime_safety", "not_evaluated",
          some "Runtime safety is not evaluated without fresh required trust state."⟩,
        ⟨"scanner_decision", if isExpired then "blocked" else "caution", none⟩ ]
    actions := scannerActions decisionState openAllowed
    verifierStage := "governance_cache"
    verifierReason :=
      if isExpired then "Required governance cache state is expired"
      else "Required governance cache state is stale"
    requestId := requestId
    verdictSource := .computed }

/-- `not is_expired and _looks_like_url(envelope.claims.payload)`. -/
def governanceOpenAllowed (freshnessState : CacheFreshnessState) (payload : String) :
    Except PyError Bool :=
  if freshnessState = .expired then .ok false else looksLikeUrl host.ux.py payload

/-- `_governance_cache_blocking_decision`. -/
def governanceCacheBlockingDecision (envelope : SignedQRCodeEnvelope)
    (record : ScannerTrustRecord GovernanceTrustProjection) (now : Int)
    (requestId : Option String) : Except PyError (Option ScannerDecision) :=
  match record.governance with
  | none => .ok none
  | some governance => do
      let freshnessState ← governance.cacheFreshnessState host.ux.py now
      if freshnessState = .fresh then return none
      let isExpired : Bool := freshnessState = .expired
      let openAllowed ← governanceOpenAllowed host freshnessState envelope.claims.payload
      let vector := uncheckedVector (entry (if isExpired then "block" else "warn")) (entry "pass")
      let (_, decision) ← applyTrustResidualGate host.ux.py
        (if isExpired then .blocked else .staleTrustState) vector
      let destination ← scannerDestination host.ux.py envelope.claims.payload "not_evaluated" none
      let decision ← (governanceFields host envelope record governance freshnessState openAllowed
        destination (residualPayload vector decision []) requestId).validated
      return some decision

end ScannerPipeline
