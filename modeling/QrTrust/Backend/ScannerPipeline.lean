import QrTrust.Backend.ScannerDecisions

/-! # The decision of a scan

    `_run_scanner_decision`: the profile of the verifier, the image, the envelope, the
    record of the trust store, the age of its governance projection, the narrowed
    verifier, and what redirects and runtime safety make of its result.  The first of
    them that settles the scan decides it, and the residual model is asked about every
    decision. -/

namespace RedirectPolicy.RedirectPolicyVerdict

/-- `is_redirect_flow`. -/
def isRedirectFlow (verdict : RedirectPolicyVerdict) : Bool := verdict.resolverUrl.isSome

/-- `is_blocked`. -/
def isBlocked (verdict : RedirectPolicyVerdict) : Bool := !verdict.openAllowed

end RedirectPolicy.RedirectPolicyVerdict

namespace ScannerPipeline

open TrustResiduals SignedSchema TrustStore ScannerRecord QrArtifact RedirectPolicy
open ProjectionFreshness (Freshness)
open TrustProjection (TrustStateToken)
open ScannerUx (OperationalState ScannerDecisionDestination)
open VerdictCache (Entries Handled NarrowedVerifierRequest NarrowedVerifierResponse
  CertificateRecordInput IssuerVerificationStateInput)

/-! ## The residual vector of a result -/

/-- `_RUNTIME_SAFETY_RESIDUAL_TIERS`. -/
def runtimeSafetyResidualTiers : List (String × String) :=
  [("clean", "pass"), ("risky", "warn"), ("blocked", "block"), ("expired", "stale"),
    ("stale", "stale"), ("unavailable", "unavailable")]

/-- `_RUNTIME_SAFETY_RESIDUAL_CAUSES`. -/
def runtimeSafetyResidualCauses : List (String × String) :=
  [("risky", "verdict-warn"), ("blocked", "verdict-block"), ("expired", "verdict-expired"),
    ("stale", "verdict-stale"), ("unavailable", "provider-unavailable")]

/-- `_ARTIFACT_INDICATOR_CAUSES`. -/
def artifactIndicatorCauses : List (String × String) :=
  [("conflicting_qr_payloads", "conflicting-symbols"),
    ("colored_overlay_frame", "overlay-suspected"),
    ("multiple_qr_symbols", "framed-symbol-anomaly"),
    ("low_quiet_zone", "framed-symbol-anomaly"),
    ("perspective_distortion", "framed-symbol-anomaly")]

/-- `_TRUST_FAILURE_STAGES`. -/
def trustFailureStages : List String := ["issuer_status", "key_status"]

/-- `_FAILED_STAGE_RESIDUALS`. -/
def failedStageResiduals : List (String × ResidualFamily × String) :=
  [("signed_schema", .issuerChain, "invalid-managed-claim"),
    ("issuer_status", .issuerChain, "revoked-issuer"),
    ("key_status", .issuerChain, "revoked-issuer"),
    ("payload_revalidation", .destinationPolicy, "fail"),
    ("time_window", .freshness, "block")]

section
variable (py : PyRuntime)

/-- `_stage_cause`. -/
def stageCause (result : NarrowedVerifierResponse) : Except PyError String :=
  match result.cause with
  | some cause => .ok cause
  | none =>
      if result.stage = "signed_schema" then
        .ok (if PyString.startswith result.reason "Field 'version' must be exactly" then
          "invalid-trust-claim" else "invalid-signature")
      else if result.stage = "payload_revalidation" then .ok "destination-not-authorized"
      else .error (.valueError ("verifier stage " ++ py.repr result.stage
        ++ " has no protocol cause"))

/-- `_artifact_residual_cause`. -/
def artifactResidualCause {ρ : Type} (analysis : QRArtifactAnalysis ρ) :
    Except PyError (Option String) :=
  if analysis.artifactIntegrity = "pass" then .ok none
  else
    match artifactIndicatorCauses.find? fun pair => pair.1 ∈ analysis.tamperIndicators with
    | some pair => .ok (some pair.2)
    | none => .error (.valueError ("artifact analysis has no protocol cause for indicators "
        ++ py.reprList ((sortedSet analysis.tamperIndicators).map .str)))

/-- The entry of a stage that refused, with its family. -/
def failedStageEntry (result : NarrowedVerifierResponse) :
    Except PyError (Option (ResidualFamily × ResidualEntry)) :=
  if result.allowed then .ok none
  else
    match failedStageResiduals.find? fun row => row.1 = result.stage with
    | none => .ok none
    | some row => do
        let cause ← stageCause py result
        return some (row.2.1, ⟨row.2.2, some cause⟩)

/-- The entry of the redirect flow. -/
def redirectEntry (redirect : Option RedirectPolicyVerdict) : Except PyError ResidualEntry :=
  match redirect with
  | none => .ok (entry "not-applicable")
  | some redirect =>
      if !redirect.isRedirectFlow then .ok (entry "not-applicable")
      else if redirect.state = "unknown" then .ok ⟨"unavailable", some "resolution-unavailable"⟩
      else if redirect.isBlocked then
        match redirect.cause with
        | none => .error (.valueError "blocked redirect verdict is missing a protocol cause")
        | some cause => .ok ⟨"fail", some cause⟩
      else .ok (entry "pass")

/-- The entry of runtime safety; a state that nothing maps stands for itself. -/
def runtimeEntry (runtime : Option RuntimeSafetyVerdict) : Except PyError ResidualEntry :=
  match runtime with
  | none => .ok (entry "not-checked")
  | some runtime =>
      let tier := (runtimeSafetyResidualTiers.lookup runtime.state).getD runtime.state
      if tier = "pass" then .ok (entry tier)
      else
        match runtimeSafetyResidualCauses.lookup runtime.state with
        | some cause => .ok ⟨tier, some cause⟩
        | none => .error (.valueError ("runtime verdict " ++ py.repr runtime.state
            ++ " has no protocol cause"))

/-- The entry of the artifact; a scan without an image has none to hold against it. -/
def artifactEntry {ρ : Type} (artifact : Option (QRArtifactAnalysis ρ)) :
    Except PyError ResidualEntry :=
  match artifact with
  | none => .ok (entry "pass")
  | some analysis => do
      let cause ← artifactResidualCause py analysis
      return ⟨analysis.artifactIntegrity, cause⟩

/-- `_residual_vector_for_result`. -/
def residualVectorForResult {ρ : Type} (result : NarrowedVerifierResponse)
    (redirect : Option RedirectPolicyVerdict) (runtime : Option RuntimeSafetyVerdict)
    (artifact : Option (QRArtifactAnalysis ρ)) : Except PyError ResidualVector := do
  let failed ← failedStageEntry py result
  let redirectFlow ← redirectEntry redirect
  let runtimeSafety ← runtimeEntry py runtime
  let artifactIntegrity ← artifactEntry py artifact
  let found (family : ResidualFamily) (otherwise : String) : ResidualEntry :=
    ((failed.filter fun pair => pair.1 = family).map Prod.snd).getD (entry otherwise)
  return fun
    | .issuerChain => found .issuerChain "pass"
    | .destinationPolicy =>
        found .destinationPolicy (if result.allowed then "pass" else "not-applicable")
    | .redirectFlow => redirectFlow
    | .runtimeSafety => runtimeSafety
    | .freshness => found .freshness (if result.allowed then "pass" else "not-applicable")
    | .artifactIntegrity => artifactIntegrity

end

/-! ## What is said of a result -/

/-- `_scanner_issuer_legitimacy_message`. -/
def scannerIssuerLegitimacyMessage (record : ScannerTrustRecord GovernanceTrustProjection) :
    String :=
  match record.governance with
  | none => "Issuer record resolved in verifier trust state."
  | some governance =>
      "Issuer resolved through fixture governance namespace "
        ++ governance.issuerNamespaceLabel ++ "."

/-- `_scanner_destination_binding_message`. -/
def scannerDestinationBindingMessage (redirect : Option RedirectPolicyVerdict) : String :=
  match redirect.filter RedirectPolicyVerdict.isRedirectFlow with
  | some redirect => redirect.reason
  | none => "Destination matches issuer policy."

/-- The message about a code that the verifier allowed. -/
def allowedMessage {ρ : Type} (redirect : Option RedirectPolicyVerdict)
    (runtime : Option RuntimeSafetyVerdict) (artifact : Option (QRArtifactAnalysis ρ)) : String :=
  let flow := redirect.filter RedirectPolicyVerdict.isRedirectFlow
  let runtimeState := runtime.map RuntimeSafetyVerdict.state
  if flow.any fun redirect => redirect.state = "unknown" then
    "Resolver unresolved. The final destination of the redirect flow was not observed."
  else if flow.any RedirectPolicyVerdict.isBlocked then
    "Resolver mismatch. The final destination is not approved by the issuer."
  else if runtimeState = some "risky" then
    "Verified issuer, but destination risk was detected at scan time. Review before opening."
  else if runtimeState = some "blocked" then
    "Verified issuer, but runtime safety blocked this destination."
  else if runtimeState = some "expired" then
    "Verified issuer, but the runtime safety verdict has expired. "
      ++ "This destination is blocked until a fresh verdict is available."
  else if runtimeState = some "unavailable" then
    "Verified issuer and destination, but runtime safety could not be checked "
      ++ "right now. Continue only if you trust the context."
  else if runtimeState = some "stale" then
    "Verified issuer and destination, but runtime safety data is stale. Review before opening."
  else if flow.isSome then
    "Verified resolver QR. The final destination is still approved by the issuer."
  else if artifact.any fun artifact => artifact.artifactIntegrity = "warn" then
    "Verified issuer and destination, but the QR artifact has visual "
      ++ "or structural warnings. Review before opening."
  else "Verified signed QR. This destination is still approved by the issuer."

/-- `_scanner_primary_message`. -/
def scannerPrimaryMessage {ρ : Type} (result : NarrowedVerifierResponse)
    (redirect : Option RedirectPolicyVerdict) (runtime : Option RuntimeSafetyVerdict)
    (artifact : Option (QRArtifactAnalysis ρ)) : String :=
  if result.allowed then allowedMessage redirect runtime artifact
  else if result.stage = "payload_revalidation" then
    "Destination mismatch. The signed QR no longer points to an issuer-approved destination."
  else if result.stage = "time_window" then
    "Expired or not-yet-valid QR. The scanner stopped before destination evaluation."
  else if result.stage = "issuer_status" then
    "Issuer credential is inactive or revoked in the verifier state."
  else if result.stage = "key_status" then
    "The signing key behind this code is revoked or was not in force when the code was signed."
  else if result.stage = "signed_schema" then
    "Signature verification failed for the canonical signed claims."
  else result.reason

/-- `_scanner_binding_for_stage`. -/
def scannerBindingForStage (stage : String) (allowed : Bool) : String :=
  if allowed then "bound"
  else if stage = "payload_revalidation" then "mismatch"
  else "not_evaluated"

/-- `_with_artifact_signal`: the artifact stands before the scanner's decision. -/
def withArtifactSignal {ρ : Type} (signals : List DecisionSignal)
    (artifact : Option (QRArtifactAnalysis ρ)) : List DecisionSignal :=
  match artifact with
  | none => signals
  | some artifact =>
      signals.takeWhile (fun signal => signal.layer ≠ "scanner_decision")
        ++ scannerArtifactSignal artifact false
          :: signals.dropWhile (fun signal => signal.layer ≠ "scanner_decision")

/-- The signals of a code that the verifier allowed. -/
def allowedSignals (record : ScannerTrustRecord GovernanceTrustProjection)
    (redirect : Option RedirectPolicyVerdict) (runtime : Option RuntimeSafetyVerdict) :
    List DecisionSignal :=
  let recognized : DecisionSignal :=
    ⟨"issuer_legitimacy", "recognized", some (scannerIssuerLegitimacyMessage record)⟩
  let bound : DecisionSignal :=
    ⟨"destination_binding", "bound", some (scannerDestinationBindingMessage redirect)⟩
  match redirect.filter fun redirect => redirect.isRedirectFlow
      && (redirect.state = "unknown" || redirect.isBlocked) with
  | some redirect =>
      if redirect.state = "unknown" then
        [recognized,
          ⟨"destination_binding", "redirect_unobserved", some redirect.reason⟩,
          ⟨"runtime_safety", "not_opened",
            some ("Runtime safety is not evaluated because the redirect "
              ++ "destination was not observed.")⟩,
          ⟨"scanner_decision", "unknown", none⟩]
      else
        [recognized,
          ⟨"destination_binding", "redirect_mismatch", some redirect.reason⟩,
          ⟨"runtime_safety", "not_opened", some ("Runtime safety is not evaluated because "
            ++ "redirect policy blocked the final destination.")⟩,
          ⟨"scanner_decision", "blocked", none⟩]
  | none =>
      match runtime.filter fun runtime => !runtime.isClean with
      | some runtime =>
          [recognized, bound, ⟨"runtime_safety", runtime.state, some runtime.reason⟩,
            ⟨"scanner_decision", runtime.decisionState.text, none⟩]
      | none =>
          [recognized, bound,
            ⟨"runtime_safety", "clean", some "Signature and validity checks passed."⟩,
            ⟨"scanner_decision", "verified_issuer", none⟩]

/-- The signals of a code that the verifier refused. -/
def refusedSignals (result : NarrowedVerifierResponse)
    (record : ScannerTrustRecord GovernanceTrustProjection) : List DecisionSignal :=
  if result.cause = some "trust-state-unavailable" then
    [⟨"issuer_legitimacy", "unknown", some ("The verifier cannot confirm issuer and key status "
        ++ "because durable trust state is unavailable.")⟩,
      ⟨"destination_binding", "not_evaluated", none⟩, ⟨"runtime_safety", "not_evaluated", none⟩,
      ⟨"scanner_decision", "blocked", none⟩]
  else if result.stage = "payload_revalidation" then
    [⟨"issuer_legitimacy", "recognized", some (scannerIssuerLegitimacyMessage record)⟩,
      ⟨"destination_binding", "mismatch", some result.reason⟩,
      ⟨"runtime_safety", "not_opened", some "The destination is blocked before opening."⟩,
      ⟨"scanner_decision", "blocked", none⟩]
  else if result.stage ∈ trustFailureStages then
    [⟨"issuer_legitimacy", "revoked", some result.reason⟩,
      ⟨"destination_binding", "not_evaluated", none⟩, ⟨"runtime_safety", "not_evaluated", none⟩,
      ⟨"scanner_decision", "blocked", none⟩]
  else
    [⟨"issuer_legitimacy", if result.stage = "signed_schema" then "failed" else "recognized",
        some (if result.stage = "signed_schema" then result.reason
          else scannerIssuerLegitimacyMessage record)⟩,
      ⟨"destination_binding", "not_evaluated", none⟩,
      ⟨"runtime_safety", result.stage, some result.reason⟩,
      ⟨"scanner_decision", "blocked", none⟩]

/-- `_scanner_signals_for_result`. -/
def scannerSignalsForResult {ρ : Type} (result : NarrowedVerifierResponse)
    (record : ScannerTrustRecord GovernanceTrustProjection)
    (redirect : Option RedirectPolicyVerdict) (runtime : Option RuntimeSafetyVerdict)
    (artifact : Option (QRArtifactAnalysis ρ)) : List DecisionSignal :=
  withArtifactSignal
    (if result.allowed then allowedSignals record redirect runtime
      else refusedSignals result record)
    artifact

/-! ## The decision of a result -/

/-- What `_scanner_decision_from_result` assigns step by step. -/
structure Draft where
  decisionState : OperationalState
  openAllowed : Bool
  verifierStage : String
  verifierReason : String
  primaryMessage : String
  destinationBinding : String
  deriving DecidableEq, Repr

/-- The draft that a result starts with. -/
def draftOf (result : NarrowedVerifierResponse) (primaryMessage : String) : Draft where
  decisionState := if result.allowed then .verifiedIssuer else .blocked
  openAllowed := result.allowed
  verifierStage := result.stage
  verifierReason := result.reason
  primaryMessage := primaryMessage
  destinationBinding := scannerBindingForStage result.stage result.allowed

/-- What a redirect flow changes. -/
def Draft.withRedirect (draft : Draft) (redirect : Option RedirectPolicyVerdict) : Draft :=
  match redirect.filter RedirectPolicyVerdict.isRedirectFlow with
  | none => draft
  | some redirect =>
      if redirect.state = "unknown" then
        { draft with
          decisionState := .unknown
          openAllowed := false
          verifierStage := "redirect_policy"
          verifierReason := redirect.reason
          destinationBinding := "redirect_unobserved" }
      else if redirect.isBlocked then
        { draft with
          decisionState := .blocked
          openAllowed := false
          verifierStage := "redirect_policy"
          verifierReason := redirect.reason
          destinationBinding := "redirect_mismatch" }
      else { draft with destinationBinding := "bound" }

/-- What a verdict on runtime safety changes. -/
def Draft.withRuntime (draft : Draft) (runtime : Option RuntimeSafetyVerdict) : Draft :=
  match runtime with
  | none => draft
  | some runtime =>
      { draft with
        decisionState := runtime.decisionState
        openAllowed := runtime.openAllowed
        verifierStage := if runtime.isClean then draft.verifierStage else "runtime_safety"
        verifierReason := if runtime.isClean then draft.verifierReason else runtime.reason }

/-- What the residual gate changes. -/
def Draft.gated (draft : Draft) (gatedState : OperationalState) (modelDecision : Decision) :
    Draft :=
  if gatedState = draft.decisionState then draft
  else
    { draft with
      decisionState := gatedState
      verifierStage := "trust_residuals"
      verifierReason := "Residual evidence outside positive-eligible tiers: "
        ++ PyString.join ", " modelDecision.reasonCodes
      primaryMessage := "Verification evidence is incomplete for this QR code. "
        ++ "Proceed only with caution." }

/-- What an outage of the trust state changes. -/
def Draft.withOutage (draft : Draft) (cause : Option String) : Draft :=
  if cause = some "trust-state-unavailable" then
    { draft with
      decisionState := .unknown
      openAllowed := false
      primaryMessage := "The verifier cannot confirm issuer and key status right now. "
        ++ "Do not open this destination until verification is available." }
  else draft

/-- The status of the issuer of a result. -/
def issuerStatusOf (result : NarrowedVerifierResponse) : String :=
  if result.cause = some "trust-state-unavailable" then "unknown"
  else if result.stage ∈ trustFailureStages then "revoked"
  else "recognized"

section
variable {Image Quad ρ Defect : Type} (host : ScannerHost Image Quad ρ)

/-- The redirect verdict of a result. -/
def redirectVerdictOf (envelope : SignedQRCodeEnvelope) (result : NarrowedVerifierResponse) :
    Except PyError (Option RedirectPolicyVerdict) :=
  if result.allowed then
    (evaluateUnobservedRedirectPolicy host.ux.py host.policyFile envelope.claims.payload).map some
  else .ok none

/-- The verdict on runtime safety of a result. -/
def runtimeVerdictOf (effectiveDestination : String) (result : NarrowedVerifierResponse)
    (redirect : Option RedirectPolicyVerdict) : Except PyError (Option RuntimeSafetyVerdict) :=
  if result.allowed && !redirect.any RedirectPolicyVerdict.isBlocked then
    (evaluateRuntimeSafety host.ux.py effectiveDestination).map some
  else .ok none

/-- The response to a result. -/
def resultFields (envelope : SignedQRCodeEnvelope) (result : NarrowedVerifierResponse)
    (record : ScannerTrustRecord GovernanceTrustProjection)
    (redirect : Option RedirectPolicyVerdict) (draft : Draft)
    (destination : ScannerDecisionDestination) (signals : List DecisionSignal)
    (wire : ResidualVector × Decision) (requestId : Option String) : DecisionFields where
  decisionState := draft.decisionState
  openAllowed := draft.openAllowed
  envelopeId := some (envelopeId host envelope)
  residualVector := wire.1
  modelDecision := wire.2
  primaryMessage := draft.primaryMessage
  issuer :=
    ⟨some record.certificate.issuerName,
      some ((record.governance.map GovernanceTrustProjection.assuranceTier).getD "demo"),
      issuerStatusOf result⟩
  destination := destination
  redirectPolicy := redirect.bind RedirectPolicyVerdict.policyLabel
  governance := record.governance
  signals := signals
  actions := scannerActions draft.decisionState draft.openAllowed
  verifierStage := draft.verifierStage
  verifierReason := draft.verifierReason
  requestId := requestId
  verdictSource := result.verdictSource

/-- `_scanner_decision_from_result`. -/
def scannerDecisionFromResult (envelope : SignedQRCodeEnvelope)
    (result : NarrowedVerifierResponse) (record : ScannerTrustRecord GovernanceTrustProjection)
    (requestId : Option String) (artifact : Option (QRArtifactAnalysis ρ)) :
    Except PyError ScannerDecision := do
  let redirect ← redirectVerdictOf host envelope result
  let effectiveDestination :=
    (redirect.map RedirectPolicyVerdict.effectiveUrl).getD envelope.claims.payload
  let runtime ← runtimeVerdictOf host effectiveDestination result redirect
  let primaryMessage := scannerPrimaryMessage result redirect runtime artifact
  let draft := ((draftOf result primaryMessage).withRedirect redirect).withRuntime runtime
  let residualVector ← residualVectorForResult host.ux.py result redirect runtime artifact
  let (gatedState, modelDecision) ← applyTrustResidualGate host.ux.py draft.decisionState
    residualVector
  let draft := (draft.gated gatedState modelDecision).withOutage result.cause
  let destination ← scannerDestination host.ux.py effectiveDestination draft.destinationBinding
    redirect
  (resultFields host envelope result record redirect draft destination
    (scannerSignalsForResult result record redirect runtime artifact)
    (residualPayload residualVector modelDecision []) requestId).validated

/-! ## The run -/

/-- What a scan finds: the store after its first refresh and the clock then; what its
    second refresh returns, the token and the clock after it, and what the budgets say;
    and the verdict cache. -/
structure ScanTrust (Defect : Type) where
  store : ScannerTrustStore GovernanceTrustProjection Defect
  observedAt : Int
  projectionState : Freshness
  token : Option TrustStateToken
  now : Int
  envelopeBudget : Bool
  issuerBudget : Bool
  cache : Entries

/-- What the verifier is asked about. -/
structure ScannedCode (ρ : Type) where
  qrPayload : String
  envelope : SignedQRCodeEnvelope
  record : ScannerTrustRecord GovernanceTrustProjection
  artifact : Option (QRArtifactAnalysis ρ)

/-- A scan that is settled, or what is asked of the verifier. -/
inductive BeforeVerifier (ρ : Type) where
  | decided (decision : ScannerDecision)
  | asks (code : ScannedCode ρ)

/-- `except QRArtifactError as exc: raise HTTPException(status_code=400, …)`. -/
def asBadRequest : PyError → PyError
  | .qrArtifactError text => .httpException 400 text
  | exc => exc

/-- The steps over an envelope, up to the verifier. -/
def enrolledCode (trust : ScanTrust Defect) (request : ScanRequest)
    (envelope : SignedQRCodeEnvelope) (artifact : Option (QRArtifactAnalysis ρ)) :
    Except PyError (BeforeVerifier ρ) := do
  match ← scannerRecordFor host.ux.py host.isoformat trust.store
      envelope.claims.certificateRef with
  | none => return .decided (← signedUnknownIssuerDecision host envelope request.requestId)
  | some record =>
      match ← governanceCacheBlockingDecision host envelope record trust.observedAt
          request.requestId with
      | some decision => return .decided decision
      | none => return .asks ⟨PyString.strip request.qrPayload, envelope, record, artifact⟩

/-- The steps over a payload, up to the verifier. -/
def readPayload (trust : ScanTrust Defect) (request : ScanRequest)
    (artifact : Option (QRArtifactAnalysis ρ)) : Except PyError (BeforeVerifier ρ) :=
  match decodeEnvelope host (PyString.strip request.qrPayload) with
  | .ok envelope => enrolledCode host trust request envelope artifact
  | .error exc =>
      match exc.asValueError with
      | none => .error exc
      | some reason =>
          (undecodedDecision host (PyString.strip request.qrPayload) reason request.requestId).map
            .decided

/-- The steps over an image, up to the verifier. -/
def readImage (trust : ScanTrust Defect) (request : ScanRequest) :
    Except PyError (BeforeVerifier ρ) := do
  let artifact ← (scannerArtifactAnalysisForRequest host request).mapError asBadRequest
  match artifact.filter fun artifact =>
      PyString.strip artifact.payload ≠ PyString.strip request.qrPayload with
  | some artifact =>
      return .decided (← artifactPayloadMismatchDecision host (PyString.strip request.qrPayload)
        artifact request.requestId)
  | none => readPayload host trust request artifact

/-- `_run_scanner_decision`, up to the verifier. -/
def beforeVerifier (trust : ScanTrust Defect) (request : ScanRequest) :
    Except PyError (BeforeVerifier ρ) := do
  match ← verifierProfileStateDecision host request with
  | some decision => return .decided decision
  | none => readImage host trust request

/-- `ScannedVerifierRequest`. -/
structure ScannedVerifierRequest where
  qrPayload : String
  certificate : CertificateRecordInput
  issuerState : IssuerVerificationStateInput

/-- `ScannedVerifierRequest(…)`; its parts have been checked. -/
def scannedVerifierRequest (request : ScannedVerifierRequest) :
    Except PyError ScannedVerifierRequest := do
  boundedField "qr_payload" 1 8192 request.qrPayload
  return request

/-- `SignedEnvelopeInput(…)`, of an envelope. -/
def signedEnvelopeInput (envelope : SignedQRCodeEnvelope) :
    Except PyError VerdictCache.SignedEnvelopeInput := do
  boundedField "version" 1 8 envelope.claims.version
  boundedField "certificate_ref" 1 trustRefMaxLength envelope.claims.certificateRef
  boundedField "issued_at" 1 64 envelope.claims.issuedAt
  boundedOptionalField "expires_at" 1 64 envelope.claims.expiresAt
  boundedField "payload" 1 2048 envelope.claims.payload
  boundedField "signature" 1 8192 envelope.signature
  boundedOptionalField "code_algorithm_id" 0 64 envelope.codeAlgorithmId
  return { claims :=
             { version := envelope.claims.version
               certificateRef := envelope.claims.certificateRef
               issuedAt := envelope.claims.issuedAt
               expiresAt := envelope.claims.expiresAt
               payload := envelope.claims.payload }
           signature := envelope.signature
           codeAlgorithmId := envelope.codeAlgorithmId }

/-- What `_run_scanned_verifier` asks the narrowed verifier. -/
def translatedRequest (request : ScannedVerifierRequest) :
    Except PyError NarrowedVerifierRequest := do
  let envelope ← (decodeEnvelope host request.qrPayload).mapError asBadRequest
  let envelope ← signedEnvelopeInput envelope
  return ⟨envelope, request.certificate, request.issuerState⟩

/-- `_run_scanned_verifier`. -/
def runScannedVerifier (trust : ScanTrust Defect) (request : ScannedVerifierRequest) : Handled :=
  match translatedRequest host request with
  | .error exc => ⟨.error exc, trust.cache, .unused⟩
  | .ok request =>
      VerdictCache.runNarrowedVerifier host.ux.py host.dumpJson
        ⟨host.config, host.policyFile, trust.token⟩ trust.cache
        ⟨request, trust.now, trust.projectionState, trust.envelopeBudget, trust.issuerBudget⟩

/-- The verifier over a scanned code. -/
def verifyScanned (trust : ScanTrust Defect) (code : ScannedCode ρ) : Handled :=
  match scannedVerifierRequest ⟨code.qrPayload, code.record.certificate,
      code.record.issuerState⟩ with
  | .error exc => ⟨.error exc, trust.cache, .unused⟩
  | .ok request => runScannedVerifier host trust request

/-- `_run_scanner_decision`: the decision, and the verdict cache after it. -/
def runScannerDecision (trust : ScanTrust Defect) (request : ScanRequest) :
    Except PyError ScannerDecision × Entries :=
  match beforeVerifier host trust request with
  | .error exc => (.error exc, trust.cache)
  | .ok (.decided decision) => (.ok decision, trust.cache)
  | .ok (.asks code) =>
      let handled := verifyScanned host trust code
      (handled.answer.bind fun result =>
          scannerDecisionFromResult host code.envelope result code.record request.requestId
            code.artifact,
        handled.cache)

end

end ScannerPipeline
