import QrTrust.Lib.Fallible
import QrTrust.Backend.ScannerPipeline
import QrTrust.Backend.ScannerUxProofs
import QrTrust.Backend.TrustResidualsProofs
import QrTrust.Backend.VerdictCacheProofs

/-! # What a scan can end in

    A scan ends in one of six ways (`Settled`), each with its conditions and with the
    response that it gives.  What holds of every decision is shown of the six. -/

namespace ScannerPipeline

open TrustResiduals SignedSchema TrustStore ScannerRecord QrArtifact RedirectPolicy
open DecisionList Fallible
open ScannerUx (OperationalState ScannerDecisionDestination ScannerDecisionResponse
  ScannerDecisionRequest ScannerDecisionUX UxError Risk decisionRisk stateRisk artifactRisk
  signalState scannerUxForResponse withScannerUx presentation riskLevel modelAttentionRank
  scannerUxAttentionRank)
open VerdictCache (Entries Handled NarrowedVerifierResponse)

/-! ## The residual model -/

/-- The residual model's decision about a vector. -/
def modelOf (vector : ResidualVector) : Decision :=
  firstAnswer (decideArms (tiers vector) runtimeDecisionProfile [])
    (positiveTerminal (tiers vector) runtimeDecisionProfile)

/-- The state that the gate makes of a state. -/
def gatedState (decisionState : OperationalState) (vector : ResidualVector) : OperationalState :=
  if decisionState = .verifiedIssuer ∧ (modelOf vector).primaryState ≠ .verifiedIssuer then
    .unverified
  else decisionState

/-- The gate never fails: its profile is known, and no family is mandatory. -/
theorem gate_eq (py : PyRuntime) (decisionState : OperationalState) (vector : ResidualVector) :
    applyTrustResidualGate py decisionState vector
      = .ok (gatedState decisionState vector, modelOf vector) := by
  have hmodel : TrustResiduals.decide (tiers vector) runtimeDecisionProfile []
      = .ok (modelOf vector) :=
    decide_eq_ok _ (by decide) (fun m hm => absurd hm List.not_mem_nil)
  rw [applyTrustResidualGate, hmodel, gatedState]
  show (if _ then _ else _) = _
  split
  · rfl
  · rfl

theorem modelAttention_positive_iff {decision : Decision} :
    modelAttention decision = .positive ↔
      decision.primaryState = .verifiedIssuer ∧ decision.annotations = [] := by
  rw [← attentionLevel_positive_iff, modelAttention]
  cases attentionLevel decision <;> simp

theorem modelAttention_block_iff {decision : Decision} :
    modelAttention decision = .block ↔ decision.primaryState = .blocked := by
  obtain ⟨state, annotations, reasons⟩ := decision
  cases state <;> cases annotations <;> simp [modelAttention, attentionLevel]

/-! ## Risk and attention -/

theorem Risk.score_le_addIf (risk : Risk) (condition : Bool) (points : Nat) (reason : String) :
    risk.score ≤ (risk.addIf condition points reason).score := by
  cases condition with
  | false => exact Nat.le_refl _
  | true => exact Nat.le_add_right _ _

/-- The hosts of a destination, and the hints about them, only add. -/
theorem score_le_hostRisk {host : ScannerUx.UxHost} {response : ScannerDecisionResponse}
    {request : Option ScannerDecisionRequest} {identities : List String} {risk risk' : Risk}
    (h : ScannerUx.hostRisk host response request identities risk = .ok risk') :
    risk.score ≤ risk'.score := by
  obtain ⟨captions, -, h⟩ := bind_eq_ok_iff.mp h
  obtain ⟨knownBad, -, h⟩ := bind_eq_ok_iff.mp h
  obtain ⟨newly, -, h⟩ := bind_eq_ok_iff.mp h
  obtain ⟨new, -, h⟩ := bind_eq_ok_iff.mp h
  obtain ⟨net, -, h⟩ := bind_eq_ok_iff.mp h
  obtain rfl := Except.ok.inj h
  exact (Risk.score_le_addIf _ _ _ _).trans ((Risk.score_le_addIf _ _ _ _).trans
    ((Risk.score_le_addIf _ _ _ _).trans (Risk.score_le_addIf _ _ _ _)))

/-- So do its URLs. -/
theorem score_le_urlRisk {host : ScannerUx.UxHost} {response : ScannerDecisionResponse}
    {risk risk' : Risk} (h : ScannerUx.urlRisk host response risk = .ok risk') :
    risk.score ≤ risk'.score := by
  obtain ⟨httpsAbsent, -, h⟩ := bind_eq_ok_iff.mp h
  obtain ⟨credentials, -, h⟩ := bind_eq_ok_iff.mp h
  obtain rfl := Except.ok.inj h
  exact (Risk.score_le_addIf _ _ _ _).trans (Risk.score_le_addIf _ _ _ _)

/-- **AT LEAST THE DECISION**: what is shown is the presentation of a risk that is at
    least the risk of the decision by itself. -/
theorem scannerUx_eq_presentation {host : ScannerUx.UxHost} {response : ScannerDecisionResponse}
    {request : Option ScannerDecisionRequest} {ux : ScannerDecisionUX}
    (h : scannerUxForResponse host response request = .ok ux) :
    ∃ risk : Risk, (decisionRisk response).score ≤ risk.score
      ∧ ux = presentation host response risk := by
  obtain ⟨risk, hrisk, h⟩ := bind_eq_ok_iff.mp h
  obtain ⟨hosts, -, h⟩ := bind_eq_ok_iff.mp h
  obtain ⟨identities, -, h⟩ := bind_eq_ok_iff.mp h
  obtain ⟨risk', hrisk', h⟩ := bind_eq_ok_iff.mp h
  exact ⟨risk', (score_le_urlRisk hrisk).trans (score_le_hostRisk hrisk'),
    (Except.ok.inj h).symm⟩

/-- The artifact signal adds to the state of the decision, and the rest adds to both. -/
theorem artifactRisk_le_decisionRisk (response : ScannerDecisionResponse) :
    (artifactRisk response (stateRisk response)).score ≤ (decisionRisk response).score :=
  Risk.score_le_addIf ⟨(artifactRisk response (stateRisk response)).score,
    ScannerUx.stageReasons response (artifactRisk response (stateRisk response)).reasonCodes⟩ _ _ _

theorem stateRisk_le_artifactRisk (response : ScannerDecisionResponse) (risk : Risk) :
    risk.score ≤ (artifactRisk response risk).score := by
  rw [artifactRisk]
  split
  · exact Nat.le_refl _
  · split
    · exact Nat.le_add_right _ _
    · split
      · exact Nat.le_add_right _ _
      · exact Nat.le_refl _

/-- Is there as much risk in the decision as the residual model asks attention for? -/
structure Attentive (response : ScannerDecisionResponse) : Prop where
  amber : response.modelAttention ≠ .positive → 30 ≤ (decisionRisk response).score
  red : response.modelAttention = .block → 60 ≤ (decisionRisk response).score

/-- **RANKS**: such a decision is shown with at least the attention of the model. -/
theorem Attentive.rank_le {host : ScannerUx.UxHost} {response : ScannerDecisionResponse}
    {request : Option ScannerDecisionRequest} {ux : ScannerDecisionUX} (h : Attentive response)
    (hux : scannerUxForResponse host response request = .ok ux) :
    modelAttentionRank response.modelAttention ≤ scannerUxAttentionRank ux.riskLevel := by
  obtain ⟨risk, hle, rfl⟩ := scannerUx_eq_presentation hux
  show _ ≤ scannerUxAttentionRank (riskLevel (min risk.score 100))
  have hred : response.modelAttention = .block → 60 ≤ min risk.score 100 := by
    intro hblock
    have := h.red hblock
    omega
  have hamber : response.modelAttention ≠ .positive → 30 ≤ min risk.score 100 := by
    intro hpositive
    have := h.amber hpositive
    omega
  cases hattention : response.modelAttention with
  | positive => exact Nat.zero_le _
  | neutral =>
      exact Nat.le_trans (by decide : 1 ≤ 2)
        (ScannerUx.riskLevel_mono (hamber (by rw [hattention]; decide)))
  | warning => exact ScannerUx.riskLevel_mono (hamber (by rw [hattention]; decide))
  | block => exact ScannerUx.riskLevel_mono (hred hattention)

/-- **HOLD**: where the model's decision is not positive, an open needs a hold. -/
theorem Attentive.hold {host : ScannerUx.UxHost} {response : ScannerDecisionResponse}
    {request : Option ScannerDecisionRequest} {ux : ScannerDecisionUX} (h : Attentive response)
    (hux : scannerUxForResponse host response request = .ok ux)
    (hopen : response.openAllowed = true) (hpositive : response.modelAttention ≠ .positive) :
    ux.holdRequired = true := by
  obtain ⟨risk, hle, rfl⟩ := scannerUx_eq_presentation hux
  have := h.amber hpositive
  rw [presentation, hopen, Bool.true_and, decide_eq_true_iff]
  omega

/-! ## The six ways -/

theorem validated_eq_ok_iff {fields : DecisionFields} {decision : ScannerDecision} :
    fields.validated = .ok decision ↔ decision.toDecisionFields = fields := by
  rw [DecisionFields.validated]
  constructor
  · intro h
    split at h
    · obtain rfl := Except.ok.inj h
      rfl
    · exact nomatch h
  · rintro rfl
    rw [dif_pos decision.withinBounds]

section
variable {Image Quad ρ Defect : Type} (host : ScannerHost Image Quad ρ)

/-- The state of the profile that a scan is decided under. -/
def profileState (request : ScanRequest) : VerifierProfileState :=
  strictestVerifierProfileState [host.verifierProfileState, request.clientProfileState.getD .active]

/-- The vector of a scan under a profile that is not active. -/
def profileVector : ResidualVector := uncheckedVector (entry "not-checked") (entry "pass")

/-- The vector of a payload that is not the payload of its image. -/
def mismatchVector : ResidualVector :=
  uncheckedVector (entry "not-checked") ⟨"block", some "container-mismatch"⟩

/-- The vector of a projection that is not fresh. -/
def governanceVector (freshnessState : CacheFreshnessState) : ResidualVector :=
  uncheckedVector (entry (if freshnessState = .expired then "block" else "warn")) (entry "pass")

/-- The wire form of a vector and its model decision. -/
def wireOf (vector : ResidualVector) (codes : List String) : ResidualVector × Decision :=
  residualPayload vector (modelOf vector) codes

/-- The draft of a result, before the gate. -/
def draftBefore (result : NarrowedVerifierResponse) (redirect : Option RedirectPolicyVerdict)
    (runtime : Option RuntimeSafetyVerdict) (artifact : Option (QRArtifactAnalysis ρ)) : Draft :=
  ((draftOf result (scannerPrimaryMessage result redirect runtime artifact)).withRedirect
    redirect).withRuntime runtime

/-- The draft of a result, gated by its vector. -/
def finalDraft (result : NarrowedVerifierResponse) (redirect : Option RedirectPolicyVerdict)
    (runtime : Option RuntimeSafetyVerdict) (artifact : Option (QRArtifactAnalysis ρ))
    (vector : ResidualVector) : Draft :=
  ((draftBefore result redirect runtime artifact).gated
    (gatedState (draftBefore result redirect runtime artifact).decisionState vector)
    (modelOf vector)).withOutage result.cause

/-- The destination of a result. -/
def effectiveDestination (envelope : SignedQRCodeEnvelope)
    (redirect : Option RedirectPolicyVerdict) : String :=
  (redirect.map RedirectPolicyVerdict.effectiveUrl).getD envelope.claims.payload

/-- What the decision of a result is made of. -/
structure Resulted (envelope : SignedQRCodeEnvelope) (result : NarrowedVerifierResponse)
    (redirect : Option RedirectPolicyVerdict) (runtime : Option RuntimeSafetyVerdict)
    (artifact : Option (QRArtifactAnalysis ρ)) (vector : ResidualVector)
    (destination : ScannerDecisionDestination) : Prop where
  redirected : redirectVerdictOf host envelope result = .ok redirect
  looked : runtimeVerdictOf host (effectiveDestination envelope redirect) result redirect
    = .ok runtime
  weighed : residualVectorForResult host.ux.py result redirect runtime artifact = .ok vector
  shown : scannerDestination host.ux.py (effectiveDestination envelope redirect)
    (finalDraft result redirect runtime artifact vector).destinationBinding redirect
      = .ok destination

/-- **RESULTS**: a decision is that of a result where the redirect, runtime safety, the
    vector and the destination can be had. -/
theorem scannerDecisionFromResult_iff {envelope : SignedQRCodeEnvelope}
    {result : NarrowedVerifierResponse} {record : ScannerTrustRecord GovernanceTrustProjection}
    {requestId : Option String} {artifact : Option (QRArtifactAnalysis ρ)}
    {decision : ScannerDecision} :
    scannerDecisionFromResult host envelope result record requestId artifact = .ok decision ↔
      ∃ redirect runtime vector destination,
        Resulted host envelope result redirect runtime artifact vector destination
        ∧ decision.toDecisionFields = resultFields host envelope result record redirect
            (finalDraft result redirect runtime artifact vector) destination
            (scannerSignalsForResult result record redirect runtime artifact)
            (wireOf vector []) requestId := by
  constructor
  · intro h
    obtain ⟨redirect, hredirect, h⟩ := bind_eq_ok_iff.mp h
    obtain ⟨runtime, hruntime, h⟩ := bind_eq_ok_iff.mp h
    obtain ⟨vector, hvector, h⟩ := bind_eq_ok_iff.mp h
    obtain ⟨gated, hgated, h⟩ := bind_eq_ok_iff.mp h
    rw [gate_eq] at hgated
    obtain rfl := Except.ok.inj hgated
    obtain ⟨destination, hdestination, h⟩ := bind_eq_ok_iff.mp h
    exact ⟨redirect, runtime, vector, destination, ⟨hredirect, hruntime, hvector, hdestination⟩,
      validated_eq_ok_iff.mp h⟩
  · rintro ⟨redirect, runtime, vector, destination, h, hfields⟩
    refine bind_eq_ok_iff.mpr ⟨redirect, h.redirected, bind_eq_ok_iff.mpr ⟨runtime, h.looked,
      bind_eq_ok_iff.mpr ⟨vector, h.weighed, bind_eq_ok_iff.mpr ⟨_, gate_eq _ _ _,
        bind_eq_ok_iff.mpr ⟨destination, h.shown, ?_⟩⟩⟩⟩⟩
    exact validated_eq_ok_iff.mpr hfields

/-- What a code has passed that the verifier is asked about. -/
structure Asked (trust : ScanTrust Defect) (request : ScanRequest) (code : ScannedCode ρ) :
    Prop where
  profile : profileState host request = .active
  image : scannerArtifactAnalysisForRequest host request = .ok code.artifact
  samePayload : ∀ artifact ∈ code.artifact,
    PyString.strip artifact.payload = PyString.strip request.qrPayload
  qrPayload : code.qrPayload = PyString.strip request.qrPayload
  envelope : decodeEnvelope host (PyString.strip request.qrPayload) = .ok code.envelope
  record : scannerRecordFor host.ux.py host.isoformat trust.store
    code.envelope.claims.certificateRef = .ok (some code.record)
  fresh : ∀ governance ∈ code.record.governance,
    governance.cacheFreshnessState host.ux.py trust.observedAt = .ok .fresh

/-- The decisions that need no verifier, with their conditions. -/
inductive Decided (trust : ScanTrust Defect) (request : ScanRequest) : DecisionFields → Prop where
  | profile {claimed : String} {hasUrlDestination : Bool}
      {destination : ScannerDecisionDestination} (hstate : profileState host request ≠ .active)
      (hurl : looksLikeUrl host.ux.py claimed = .ok hasUrlDestination)
      (hdestination : scannerDestination host.ux.py claimed
        (if profileState host request = .revoked then "not_evaluated" else "unverified") none
          = .ok destination) :
      Decided trust request (profileFields (profileState host request = .revoked)
        hasUrlDestination destination (wireOf profileVector []) request.requestId)
  | mismatch {artifact : QRArtifactAnalysis ρ} {destination : ScannerDecisionDestination}
      (himage : scannerArtifactAnalysisForRequest host request = .ok (some artifact))
      (hpayload : PyString.strip artifact.payload ≠ PyString.strip request.qrPayload) :
      Decided trust request (mismatchFields artifact destination (wireOf mismatchVector [])
        request.requestId)
  | unverified {exc : PyError} {reason cause : String} {codes : List String}
      {hasUrlDestination : Bool} {destination : ScannerDecisionDestination}
      (hdecode : decodeEnvelope host (PyString.strip request.qrPayload) = .error exc)
      (hreason : exc.asValueError = some reason)
      (hurl : looksLikeUrl host.ux.py (PyString.strip (PyString.strip request.qrPayload))
        = .ok hasUrlDestination)
      (hdestination : scannerDestination host.ux.py
        (readableOr (PyString.strip (PyString.strip request.qrPayload))) "unverified" none
          = .ok destination) :
      Decided trust request (unverifiedFields hasUrlDestination reason destination
        (wireOf (unverifiedResidualVector ⟨"no-issuer", some cause⟩) codes) request.requestId)
  | unknownIssuer {envelope : SignedQRCodeEnvelope} {openAllowed : Bool}
      {destination : ScannerDecisionDestination}
      (hdecode : decodeEnvelope host (PyString.strip request.qrPayload) = .ok envelope)
      (hrecord : scannerRecordFor host.ux.py host.isoformat trust.store
        envelope.claims.certificateRef = .ok none)
      (hurl : looksLikeUrl host.ux.py envelope.claims.payload = .ok openAllowed)
      (hdestination : scannerDestination host.ux.py envelope.claims.payload "unknown" none
        = .ok destination) :
      Decided trust request (unknownIssuerFields host envelope openAllowed destination
        (wireOf (unverifiedResidualVector (entry "unaccepted-issuer")) []) request.requestId)
  | governance {envelope : SignedQRCodeEnvelope}
      {record : ScannerTrustRecord GovernanceTrustProjection}
      {governance : GovernanceTrustProjection} {freshnessState : CacheFreshnessState}
      {openAllowed : Bool} {destination : ScannerDecisionDestination}
      (hdecode : decodeEnvelope host (PyString.strip request.qrPayload) = .ok envelope)
      (hgovernance : record.governance = some governance)
      (hstate : governance.cacheFreshnessState host.ux.py trust.observedAt = .ok freshnessState)
      (hfresh : freshnessState ≠ .fresh)
      (hurl : openAllowed = true → freshnessState ≠ .expired
        ∧ looksLikeUrl host.ux.py envelope.claims.payload = .ok true)
      (hdestination : scannerDestination host.ux.py envelope.claims.payload "not_evaluated" none
        = .ok destination) :
      Decided trust request (governanceFields host envelope record governance freshnessState
        openAllowed destination (wireOf (governanceVector freshnessState) []) request.requestId)

variable {host} {trust : ScanTrust Defect} {request : ScanRequest}

theorem profileDecision_none_iff :
    verifierProfileStateDecision host request = .ok none ↔ profileState host request = .active := by
  rw [verifierProfileStateDecision]
  by_cases hstate : profileState host request = .active
  · refine iff_of_true ?_ hstate
    show (if profileState host request = .active then _ else _) = _
    rw [if_pos hstate]
    rfl
  · refine iff_of_false (fun h => ?_) hstate
    change (if profileState host request = .active then _ else _) = _ at h
    rw [if_neg hstate] at h
    obtain ⟨claimed, -, h⟩ := bind_eq_ok_iff.mp h
    obtain ⟨hasUrl, -, h⟩ := bind_eq_ok_iff.mp h
    obtain ⟨gated, -, h⟩ := bind_eq_ok_iff.mp h
    obtain ⟨destination, -, h⟩ := bind_eq_ok_iff.mp h
    obtain ⟨decision, -, h⟩ := bind_eq_ok_iff.mp h
    exact nomatch h

theorem decided_of_profile {decision : ScannerDecision}
    (h : verifierProfileStateDecision host request = .ok (some decision)) :
    Decided host trust request decision.toDecisionFields := by
  rw [verifierProfileStateDecision] at h
  change (if profileState host request = .active then _ else _) = _ at h
  by_cases hstate : profileState host request = .active
  · rw [if_pos hstate] at h
    exact nomatch h
  · rw [if_neg hstate] at h
    obtain ⟨claimed, -, h⟩ := bind_eq_ok_iff.mp h
    obtain ⟨hasUrl, hurl, h⟩ := bind_eq_ok_iff.mp h
    obtain ⟨gated, hgated, h⟩ := bind_eq_ok_iff.mp h
    rw [gate_eq] at hgated
    obtain rfl := Except.ok.inj hgated
    obtain ⟨destination, hdestination, h⟩ := bind_eq_ok_iff.mp h
    obtain ⟨decision', hfields, h⟩ := bind_eq_ok_iff.mp h
    obtain rfl := Option.some.inj (Except.ok.inj h)
    rw [validated_eq_ok_iff.mp hfields]
    simp only [decide_eq_true_eq] at hdestination
    exact .profile hstate hurl hdestination

theorem decided_of_mismatch {artifact : QRArtifactAnalysis ρ} {decision : ScannerDecision}
    (himage : scannerArtifactAnalysisForRequest host request = .ok (some artifact))
    (hpayload : PyString.strip artifact.payload ≠ PyString.strip request.qrPayload)
    (h : artifactPayloadMismatchDecision host (PyString.strip request.qrPayload) artifact
      request.requestId = .ok decision) :
    Decided host trust request decision.toDecisionFields := by
  obtain ⟨claimed, -, h⟩ := bind_eq_ok_iff.mp h
  obtain ⟨gated, hgated, h⟩ := bind_eq_ok_iff.mp h
  rw [gate_eq] at hgated
  obtain rfl := Except.ok.inj hgated
  obtain ⟨destination, -, h⟩ := bind_eq_ok_iff.mp h
  rw [validated_eq_ok_iff.mp h]
  exact .mismatch himage hpayload

/-- Which cause and which code an undecoded payload gets is the only thing that the
    text of the error decides. -/
theorem undecodedDecision_eq {payload reason : String} {requestId : Option String}
    {decision : ScannerDecision}
    (h : undecodedDecision host payload reason requestId = .ok decision) :
    ∃ cause codes, unverifiedScannerDecision host payload reason requestId cause codes
      = .ok decision := by
  rw [undecodedDecision] at h
  split at h
  · exact ⟨_, _, h⟩
  · obtain ⟨isUrl, -, h⟩ := bind_eq_ok_iff.mp h
    cases isUrl with
    | true => exact ⟨_, _, h⟩
    | false => exact ⟨_, _, h⟩

theorem decided_of_undecoded {exc : PyError} {reason : String} {decision : ScannerDecision}
    (hdecode : decodeEnvelope host (PyString.strip request.qrPayload) = .error exc)
    (hreason : exc.asValueError = some reason)
    (h : undecodedDecision host (PyString.strip request.qrPayload) reason request.requestId
      = .ok decision) :
    Decided host trust request decision.toDecisionFields := by
  obtain ⟨cause, codes, h⟩ := undecodedDecision_eq h
  obtain ⟨hasUrl, hurl, h⟩ := bind_eq_ok_iff.mp h
  obtain ⟨gated, hgated, h⟩ := bind_eq_ok_iff.mp h
  rw [gate_eq] at hgated
  obtain rfl := Except.ok.inj hgated
  obtain ⟨destination, hdestination, h⟩ := bind_eq_ok_iff.mp h
  rw [validated_eq_ok_iff.mp h]
  exact .unverified hdecode hreason hurl hdestination

theorem decided_of_unknownIssuer {envelope : SignedQRCodeEnvelope} {decision : ScannerDecision}
    (hdecode : decodeEnvelope host (PyString.strip request.qrPayload) = .ok envelope)
    (hrecord : scannerRecordFor host.ux.py host.isoformat trust.store
      envelope.claims.certificateRef = .ok none)
    (h : signedUnknownIssuerDecision host envelope request.requestId = .ok decision) :
    Decided host trust request decision.toDecisionFields := by
  obtain ⟨gated, hgated, h⟩ := bind_eq_ok_iff.mp h
  rw [gate_eq] at hgated
  obtain rfl := Except.ok.inj hgated
  obtain ⟨openAllowed, hurl, h⟩ := bind_eq_ok_iff.mp h
  obtain ⟨destination, hdestination, h⟩ := bind_eq_ok_iff.mp h
  rw [validated_eq_ok_iff.mp h]
  exact .unknownIssuer hdecode hrecord hurl hdestination

theorem governanceDecision_none_iff {envelope : SignedQRCodeEnvelope}
    {record : ScannerTrustRecord GovernanceTrustProjection} {now : Int}
    {requestId : Option String} :
    governanceCacheBlockingDecision host envelope record now requestId = .ok none ↔
      ∀ governance ∈ record.governance,
        governance.cacheFreshnessState host.ux.py now = .ok .fresh := by
  rw [governanceCacheBlockingDecision]
  cases hgovernance : record.governance with
  | none =>
      refine iff_of_true rfl (fun governance hmem => ?_)
      exact nomatch hmem
  | some governance =>
      simp only [Option.mem_some_iff, forall_eq']
      constructor
      · intro h
        obtain ⟨freshnessState, hstate, h⟩ := bind_eq_ok_iff.mp h
        by_cases hfresh : freshnessState = .fresh
        · rw [hstate, hfresh]
        · rw [if_neg hfresh] at h
          obtain ⟨openAllowed, -, h⟩ := bind_eq_ok_iff.mp h
          obtain ⟨gated, -, h⟩ := bind_eq_ok_iff.mp h
          obtain ⟨destination, -, h⟩ := bind_eq_ok_iff.mp h
          obtain ⟨decision, -, h⟩ := bind_eq_ok_iff.mp h
          exact nomatch h
      · intro hstate
        refine bind_eq_ok_iff.mpr ⟨.fresh, hstate, ?_⟩
        rw [if_pos rfl]
        rfl

theorem decided_of_governance {envelope : SignedQRCodeEnvelope}
    {record : ScannerTrustRecord GovernanceTrustProjection} {decision : ScannerDecision}
    (hdecode : decodeEnvelope host (PyString.strip request.qrPayload) = .ok envelope)
    (h : governanceCacheBlockingDecision host envelope record trust.observedAt request.requestId
      = .ok (some decision)) :
    Decided host trust request decision.toDecisionFields := by
  rw [governanceCacheBlockingDecision] at h
  cases hgovernance : record.governance with
  | none =>
      rw [hgovernance] at h
      exact nomatch h
  | some governance =>
      rw [hgovernance] at h
      obtain ⟨freshnessState, hstate, h⟩ := bind_eq_ok_iff.mp h
      by_cases hfresh : freshnessState = .fresh
      · rw [if_pos hfresh] at h
        exact nomatch h
      · rw [if_neg hfresh] at h
        obtain ⟨openAllowed, hopen, h⟩ := bind_eq_ok_iff.mp h
        obtain ⟨gated, hgated, h⟩ := bind_eq_ok_iff.mp h
        rw [gate_eq] at hgated
        obtain rfl := Except.ok.inj hgated
        obtain ⟨destination, hdestination, h⟩ := bind_eq_ok_iff.mp h
        obtain ⟨decision', hfields, h⟩ := bind_eq_ok_iff.mp h
        obtain rfl := Option.some.inj (Except.ok.inj h)
        rw [validated_eq_ok_iff.mp hfields]
        have hurl : openAllowed = true → freshnessState ≠ .expired
            ∧ looksLikeUrl host.ux.py envelope.claims.payload = .ok true := by
          rintro rfl
          rw [governanceOpenAllowed] at hopen
          by_cases hexpired : freshnessState = .expired
          · rw [if_pos hexpired] at hopen
            exact nomatch hopen
          · rw [if_neg hexpired] at hopen
            exact ⟨hexpired, hopen⟩
        simp only [decide_eq_true_eq]
        exact .governance hdecode hgovernance hstate hfresh hurl hdestination

/-- `mapError` leaves the successes as they are. -/
theorem mapError_eq_ok_iff {ε ε' α : Type} {f : ε → ε'} {x : Except ε α} {a : α} :
    x.mapError f = .ok a ↔ x = .ok a := by
  cases x with
  | error exc => exact iff_of_false (fun h => nomatch h) (fun h => nomatch h)
  | ok value =>
      constructor
      · intro h
        obtain rfl := Except.ok.inj h
        rfl
      · intro h
        obtain rfl := Except.ok.inj h
        rfl

theorem map_eq_ok_iff {ε α β : Type} {f : α → β} {x : Except ε α} {b : β} :
    x.map f = .ok b ↔ ∃ a, x = .ok a ∧ f a = b := by
  cases x with
  | error exc => exact iff_of_false (fun h => nomatch h) (by rintro ⟨a, h, -⟩; exact nomatch h)
  | ok value =>
      constructor
      · intro h
        exact ⟨value, rfl, Except.ok.inj h⟩
      · rintro ⟨a, h, rfl⟩
        obtain rfl := Except.ok.inj h
        rfl

/-- What the steps over an envelope come to: a decision, or a code with a record whose
    projection is fresh. -/
theorem enrolledCode_cases {envelope : SignedQRCodeEnvelope}
    {artifact : Option (QRArtifactAnalysis ρ)} {answer : BeforeVerifier ρ}
    (hdecode : decodeEnvelope host (PyString.strip request.qrPayload) = .ok envelope)
    (h : enrolledCode host trust request envelope artifact = .ok answer) :
    (∃ decision, answer = .decided decision
      ∧ Decided host trust request decision.toDecisionFields)
    ∨ ∃ record, answer = .asks ⟨PyString.strip request.qrPayload, envelope, record, artifact⟩
      ∧ scannerRecordFor host.ux.py host.isoformat trust.store envelope.claims.certificateRef
        = .ok (some record)
      ∧ ∀ governance ∈ record.governance,
        governance.cacheFreshnessState host.ux.py trust.observedAt = .ok .fresh := by
  obtain ⟨found, hrecord, h⟩ := bind_eq_ok_iff.mp h
  cases found with
  | none =>
      obtain ⟨decision, hdecision, h⟩ := bind_eq_ok_iff.mp h
      exact .inl ⟨decision, (Except.ok.inj h).symm,
        decided_of_unknownIssuer hdecode hrecord hdecision⟩
  | some record =>
      obtain ⟨blocking, hblocking, h⟩ := bind_eq_ok_iff.mp h
      cases blocking with
      | none =>
          exact .inr ⟨record, (Except.ok.inj h).symm, hrecord,
            governanceDecision_none_iff.mp hblocking⟩
      | some decision =>
          exact .inl ⟨decision, (Except.ok.inj h).symm, decided_of_governance hdecode hblocking⟩

theorem readPayload_cases {artifact : Option (QRArtifactAnalysis ρ)} {answer : BeforeVerifier ρ}
    (h : readPayload host trust request artifact = .ok answer) :
    (∃ decision, answer = .decided decision
      ∧ Decided host trust request decision.toDecisionFields)
    ∨ ∃ envelope record,
      answer = .asks ⟨PyString.strip request.qrPayload, envelope, record, artifact⟩
      ∧ decodeEnvelope host (PyString.strip request.qrPayload) = .ok envelope
      ∧ scannerRecordFor host.ux.py host.isoformat trust.store envelope.claims.certificateRef
        = .ok (some record)
      ∧ ∀ governance ∈ record.governance,
        governance.cacheFreshnessState host.ux.py trust.observedAt = .ok .fresh := by
  rw [readPayload] at h
  cases hdecode : decodeEnvelope host (PyString.strip request.qrPayload) with
  | ok envelope =>
      rw [hdecode] at h
      rcases enrolledCode_cases hdecode h with hdecided | ⟨record, hanswer, hrecord⟩
      · exact .inl hdecided
      · exact .inr ⟨envelope, record, hanswer, rfl, hrecord⟩
  | error exc =>
      rw [hdecode] at h
      cases hreason : exc.asValueError with
      | none =>
          simp only [hreason] at h
          exact nomatch h
      | some reason =>
          simp only [hreason] at h
          obtain ⟨decision, hdecision, hanswer⟩ := map_eq_ok_iff.mp h
          exact .inl ⟨decision, hanswer.symm, decided_of_undecoded hdecode hreason hdecision⟩

/-- **BEFORE THE VERIFIER**: a scan is decided in one of the five ways, or it asks about
    a code that has passed everything before. -/
theorem beforeVerifier_cases {answer : BeforeVerifier ρ}
    (h : beforeVerifier host trust request = .ok answer) :
    (∃ decision, answer = .decided decision
      ∧ Decided host trust request decision.toDecisionFields)
    ∨ ∃ code, answer = .asks code ∧ Asked host trust request code := by
  obtain ⟨byProfile, hprofile, h⟩ := bind_eq_ok_iff.mp h
  cases byProfile with
  | some decision => exact .inl ⟨decision, (Except.ok.inj h).symm, decided_of_profile hprofile⟩
  | none =>
      obtain ⟨artifact, hartifact, h⟩ := bind_eq_ok_iff.mp h
      have himage := mapError_eq_ok_iff.mp hartifact
      by_cases hsame : ∀ image ∈ artifact,
          PyString.strip image.payload = PyString.strip request.qrPayload
      · have hfilter : (artifact.filter fun image =>
            PyString.strip image.payload ≠ PyString.strip request.qrPayload) = none := by
          rw [Option.filter_eq_none_iff]
          intro image hmem
          simpa using hsame image hmem
        rw [hfilter] at h
        rcases readPayload_cases h with hdecided | ⟨envelope, record, rfl, hdecode, hrecord, hfresh⟩
        · exact .inl hdecided
        · exact .inr ⟨_, rfl, profileDecision_none_iff.mp hprofile, himage, hsame, rfl, hdecode,
            hrecord, hfresh⟩
      · obtain ⟨image, hsame⟩ := not_forall.mp hsame
        obtain ⟨hmem, hpayload⟩ := Classical.not_imp.mp hsame
        obtain rfl := Option.mem_def.mp hmem
        have hfilter : ((some image).filter fun image =>
            PyString.strip image.payload ≠ PyString.strip request.qrPayload) = some image := by
          rw [Option.filter_some, if_pos (by simpa using hpayload)]
        rw [hfilter] at h
        obtain ⟨decision, hdecision, h⟩ := bind_eq_ok_iff.mp h
        exact .inl ⟨decision, (Except.ok.inj h).symm,
          decided_of_mismatch himage hpayload hdecision⟩

/-- A code that has passed everything is asked about. -/
theorem beforeVerifier_of_asked {code : ScannedCode ρ} (h : Asked host trust request code) :
    beforeVerifier host trust request = .ok (.asks code) := by
  have hfilter : (code.artifact.filter fun image =>
      PyString.strip image.payload ≠ PyString.strip request.qrPayload) = none := by
    rw [Option.filter_eq_none_iff]
    intro image hmem
    simpa using h.samePayload image hmem
  refine bind_eq_ok_iff.mpr ⟨none, profileDecision_none_iff.mpr h.profile,
    bind_eq_ok_iff.mpr ⟨code.artifact, mapError_eq_ok_iff.mpr h.image, ?_⟩⟩
  rw [hfilter]
  show readPayload host trust request code.artifact = _
  rw [readPayload, h.envelope]
  refine bind_eq_ok_iff.mpr ⟨some code.record, h.record,
    bind_eq_ok_iff.mpr ⟨none, governanceDecision_none_iff.mpr h.fresh, ?_⟩⟩
  rw [← h.qrPayload]
  rfl

/-- **THE SIX WAYS**: a decision needed no verifier, or it is that of the verifier's
    result about the code that the scan asked about. -/
theorem run_cases {decision : ScannerDecision} {cache : Entries}
    (h : runScannerDecision host trust request = (.ok decision, cache)) :
    Decided host trust request decision.toDecisionFields
    ∨ ∃ code result, Asked host trust request code
      ∧ (verifyScanned host trust code).answer = .ok result
      ∧ scannerDecisionFromResult host code.envelope result code.record request.requestId
          code.artifact = .ok decision := by
  rw [runScannerDecision] at h
  cases hbefore : beforeVerifier host trust request with
  | error exc =>
      rw [hbefore] at h
      exact nomatch congrArg Prod.fst h
  | ok answer =>
      rw [hbefore] at h
      rcases beforeVerifier_cases hbefore with ⟨decided, rfl, hdecided⟩ | ⟨code, rfl, hasked⟩
      · obtain rfl := Except.ok.inj (congrArg Prod.fst h)
        exact .inl hdecided
      · obtain ⟨result, hresult, hdecision⟩ := bind_eq_ok_iff.mp (congrArg Prod.fst h)
        exact .inr ⟨code, result, hasked, hresult, hdecision⟩

/-! ## Results that the verifier allowed -/

/-- What the analyzer can say of an image: nothing against it, or an indicator that has
    a cause. -/
structure Inspected (artifact : QRArtifactAnalysis ρ) : Prop where
  tier : artifact.artifactIntegrity = "pass" ∨ artifact.artifactIntegrity = "warn"
  cause : artifact.artifactIntegrity ≠ "pass" →
    ∃ pair ∈ artifactIndicatorCauses, pair.1 ∈ artifact.tamperIndicators

theorem tamperSignals_known {libraries : ImageLibraries Image Quad ρ} {image : Image}
    {polygons : List Quad} {count : Nat} {payloads : List String}
    {bounds reportedBounds : Option (QRArtifactBounds ρ)} {signal : String × Nat × Bool}
    (h : signal ∈ tamperSignals libraries image polygons count payloads bounds reportedBounds) :
    ∃ pair ∈ artifactIndicatorCauses, pair.1 = signal.1 := by
  simp only [tamperSignals, List.mem_cons, List.not_mem_nil, or_false] at h
  rcases h with rfl | rfl | rfl | rfl | rfl <;> simp [artifactIndicatorCauses]

/-- **ANALYZER**: an image that is not clean raises an indicator, and every indicator
    has a cause. -/
theorem inspected_of_analyze {py : PyRuntime} {config : ArtifactConfig}
    {libraries : ImageLibraries Image Quad ρ} {bytes : List UInt8} {artifact : QRArtifactAnalysis ρ}
    (h : analyzeQrArtifactFromPngBytes py config libraries bytes = .ok artifact) :
    Inspected artifact := by
  obtain ⟨image, -, h⟩ := bind_eq_ok_iff.mp h
  simp only [] at h
  split at h
  · exact nomatch h
  · obtain ⟨payload, -, h⟩ := bind_eq_ok_iff.mp h
    obtain ⟨payloadType, -, h⟩ := bind_eq_ok_iff.mp h
    obtain rfl := Except.ok.inj h
    constructor
    · exact ite_eq_or_eq _ _ _
    · intro hwarn
      have hraised := fun hnil => hwarn (if_pos hnil)
      obtain ⟨signal, hsignal⟩ := List.exists_mem_of_ne_nil _ hraised
      obtain ⟨pair, hpair, heq⟩ := tamperSignals_known (List.mem_of_mem_filter hsignal)
      exact ⟨pair, hpair, List.mem_map.mpr ⟨signal, hsignal, heq.symm⟩⟩

/-- An image of a request has been analyzed. -/
theorem inspected_of_request {artifact : QRArtifactAnalysis ρ}
    (h : scannerArtifactAnalysisForRequest host request = .ok (some artifact)) :
    Inspected artifact := by
  rw [scannerArtifactAnalysisForRequest] at h
  cases himage : request.imageBase64 with
  | none =>
      rw [himage] at h
      exact nomatch h
  | some imageBase64 =>
      rw [himage] at h
      obtain ⟨bytes, -, h⟩ := bind_eq_ok_iff.mp h
      obtain ⟨analysis, hanalysis, h⟩ := bind_eq_ok_iff.mp h
      obtain rfl := Option.some.inj (Except.ok.inj h)
      exact inspected_of_analyze hanalysis

/-- The redirect policy knows two verdicts on a payload. -/
theorem evaluateRedirect_cases {py : PyRuntime} {policyFile : Option PayloadRevalidation.PolicyFile}
    {payload : String} {verdict : RedirectPolicyVerdict}
    (h : evaluateUnobservedRedirectPolicy py policyFile payload = .ok verdict) :
    (∃ reason, verdict = notApplicable payload reason)
      ∨ ∃ base maxHops, verdict = unobserved payload base maxHops := by
  obtain ⟨policy, -, h⟩ := bind_eq_ok_iff.mp h
  obtain ⟨resolverBaseUrl, -, h⟩ := bind_eq_ok_iff.mp h
  split at h
  · obtain ⟨urls, -, h⟩ := bind_eq_ok_iff.mp h
    split at h
    · exact .inr ⟨_, _, (Except.ok.inj h).symm⟩
    · exact .inl ⟨_, (Except.ok.inj h).symm⟩
  · exact .inl ⟨_, (Except.ok.inj h).symm⟩

/-- What the runtime provider can answer: clean, something to say about a code that may
    be opened all the same, or a block. -/
inductive RuntimeOutcome (verdict : RuntimeSafetyVerdict) : Prop where
  | clean (state : verdict.state = "clean")
      (decisionState : verdict.decisionState = .verifiedIssuer)
      (openAllowed : verdict.openAllowed = true)
  | caution
      (state : verdict.state = "risky" ∨ verdict.state = "unavailable" ∨ verdict.state = "stale")
      (decisionState : verdict.decisionState = .verifiedIssuerDestinationRisky)
      (openAllowed : verdict.openAllowed = true)
  | block (state : verdict.state = "blocked" ∨ verdict.state = "expired")
      (decisionState : verdict.decisionState = .blocked) (openAllowed : verdict.openAllowed = false)

theorem runtimeVerdict_outcome (marker path : String) :
    RuntimeOutcome (runtimeVerdict marker path) := by
  rw [runtimeVerdict]
  split
  · exact .caution (.inl rfl) rfl rfl
  · split
    · exact .block (.inl rfl) rfl rfl
    · split
      · exact .block (.inr rfl) rfl rfl
      · split
        · exact .caution (.inr (.inl rfl)) rfl rfl
        · split
          · exact .caution (.inr (.inr rfl)) rfl rfl
          · exact .clean rfl rfl rfl

theorem evaluateRuntimeSafety_outcome {py : PyRuntime} {destination : String}
    {verdict : RuntimeSafetyVerdict} (h : evaluateRuntimeSafety py destination = .ok verdict) :
    RuntimeOutcome verdict := by
  obtain ⟨parsed, -, h⟩ := bind_eq_ok_iff.mp h
  obtain rfl := Except.ok.inj h
  exact runtimeVerdict_outcome _ _

/-- **ALLOWED**: the redirect of an allowed code was not observed, or there is none and
    runtime safety has been looked at. -/
theorem Resulted.allowed_cases {envelope : SignedQRCodeEnvelope}
    {result : NarrowedVerifierResponse} {redirect : Option RedirectPolicyVerdict}
    {runtime : Option RuntimeSafetyVerdict} {artifact : Option (QRArtifactAnalysis ρ)}
    {vector : ResidualVector} {destination : ScannerDecisionDestination}
    (h : Resulted host envelope result redirect runtime artifact vector destination)
    (hallowed : result.allowed = true) :
    (∃ base maxHops, redirect = some (unobserved envelope.claims.payload base maxHops)
      ∧ runtime = none)
    ∨ ∃ reason verdict, redirect = some (notApplicable envelope.claims.payload reason)
      ∧ runtime = some verdict
      ∧ evaluateRuntimeSafety host.ux.py envelope.claims.payload = .ok verdict := by
  have hredirect := h.redirected
  rw [redirectVerdictOf, if_pos hallowed] at hredirect
  obtain ⟨verdict, hverdict, rfl⟩ := map_eq_ok_iff.mp hredirect
  have hruntime := h.looked
  rcases evaluateRedirect_cases hverdict with ⟨reason, rfl⟩ | ⟨base, maxHops, rfl⟩
  · rw [runtimeVerdictOf, if_pos (by rw [hallowed]; rfl)] at hruntime
    obtain ⟨runtimeVerdict, hruntimeVerdict, rfl⟩ := map_eq_ok_iff.mp hruntime
    exact .inr ⟨reason, runtimeVerdict, rfl, rfl, hruntimeVerdict⟩
  · rw [runtimeVerdictOf, if_neg (by rw [hallowed]; exact Bool.false_ne_true)] at hruntime
    exact .inl ⟨base, maxHops, rfl, (Except.ok.inj hruntime).symm⟩

/-- The tier of runtime safety that a state of the provider gives. -/
def runtimeTier (state : String) : String := (runtimeSafetyResidualTiers.lookup state).getD state

/-- The tier of the artifact of a scan. -/
def artifactTier (artifact : Option (QRArtifactAnalysis ρ)) : String :=
  (artifact.map QRArtifactAnalysis.artifactIntegrity).getD "pass"

/-- The tiers of an allowed code without a redirect. -/
def allowedTiers (runtimeSafety artifactIntegrity : String) : Residuals
  | .issuerChain => "pass"
  | .destinationPolicy => "pass"
  | .redirectFlow => "not-applicable"
  | .runtimeSafety => runtimeSafety
  | .freshness => "pass"
  | .artifactIntegrity => artifactIntegrity

theorem runtimeEntry_tier {py : PyRuntime} {verdict : RuntimeSafetyVerdict} {found : ResidualEntry}
    (h : runtimeEntry py (some verdict) = .ok found) : found.tier = runtimeTier verdict.state := by
  rw [runtimeEntry] at h
  split at h
  · obtain rfl := Except.ok.inj h
    rfl
  · split at h
    · obtain rfl := Except.ok.inj h
      rfl
    · exact nomatch h

theorem artifactEntry_tier {py : PyRuntime} {artifact : Option (QRArtifactAnalysis ρ)}
    {found : ResidualEntry} (h : artifactEntry py artifact = .ok found) :
    found.tier = artifactTier artifact := by
  cases artifact with
  | none =>
      obtain rfl := Except.ok.inj h
      rfl
  | some analysis =>
      obtain ⟨cause, -, h⟩ := bind_eq_ok_iff.mp h
      obtain rfl := Except.ok.inj h
      rfl

/-- **TIERS**: only runtime safety and the artifact can speak against an allowed code
    without a redirect. -/
theorem tiers_of_allowed {py : PyRuntime} {result : NarrowedVerifierResponse}
    {payload reason : String} {verdict : RuntimeSafetyVerdict}
    {artifact : Option (QRArtifactAnalysis ρ)} {vector : ResidualVector}
    (hallowed : result.allowed = true)
    (h : residualVectorForResult py result (some (notApplicable payload reason)) (some verdict)
      artifact = .ok vector) :
    tiers vector = allowedTiers (runtimeTier verdict.state) (artifactTier artifact) := by
  obtain ⟨failed, hfailed, h⟩ := bind_eq_ok_iff.mp h
  rw [failedStageEntry, if_pos hallowed] at hfailed
  obtain rfl := Except.ok.inj hfailed
  obtain ⟨redirectFlow, hredirect, h⟩ := bind_eq_ok_iff.mp h
  obtain rfl := Except.ok.inj hredirect
  obtain ⟨runtimeSafety, hruntime, h⟩ := bind_eq_ok_iff.mp h
  obtain ⟨artifactIntegrity, hartifact, h⟩ := bind_eq_ok_iff.mp h
  obtain rfl := Except.ok.inj h
  funext family
  cases family with
  | issuerChain => rfl
  | destinationPolicy =>
      show (entry (if result.allowed = true then "pass" else "not-applicable")).tier = "pass"
      rw [if_pos hallowed]
      rfl
  | redirectFlow => rfl
  | runtimeSafety => exact runtimeEntry_tier hruntime
  | freshness =>
      show (entry (if result.allowed = true then "pass" else "not-applicable")).tier = "pass"
      rw [if_pos hallowed]
      rfl
  | artifactIntegrity => exact artifactEntry_tier hartifact

/-- The residual model's decision about these tiers. -/
def allowedModel (runtimeSafety artifactIntegrity : String) : Decision :=
  firstAnswer (decideArms (allowedTiers runtimeSafety artifactIntegrity) runtimeDecisionProfile [])
    (positiveTerminal (allowedTiers runtimeSafety artifactIntegrity) runtimeDecisionProfile)

/-- A clean code is positive, with a warning where the artifact has one. -/
theorem allowedModel_clean {artifactIntegrity : String}
    (htier : artifactIntegrity = "pass" ∨ artifactIntegrity = "warn") :
    (allowedModel (runtimeTier "clean") artifactIntegrity).primaryState = .verifiedIssuer
      ∧ ((allowedModel (runtimeTier "clean") artifactIntegrity).annotations = []
        ↔ artifactIntegrity = "pass") := by
  rcases htier with rfl | rfl
  · exact ⟨rfl, iff_of_true rfl rfl⟩
  · exact ⟨rfl, iff_of_false (by decide) (by decide)⟩

/-- A code that may be opened although runtime safety has something to say is not
    blocked by the model. -/
theorem allowedModel_open {state artifactIntegrity : String}
    (hstate : state = "risky" ∨ state = "unavailable" ∨ state = "stale")
    (htier : artifactIntegrity = "pass" ∨ artifactIntegrity = "warn") :
    (allowedModel (runtimeTier state) artifactIntegrity).primaryState ≠ .blocked := by
  rcases hstate with rfl | rfl | rfl <;> rcases htier with rfl | rfl <;> decide

/-! ## What a result comes to -/

/-- An outage of the trust state leaves nothing open, whatever the draft says. -/
theorem withOutage_cases (draft : Draft) (cause : Option String) :
    (cause = some "trust-state-unavailable" ∧ (draft.withOutage cause).decisionState = .unknown
        ∧ (draft.withOutage cause).openAllowed = false)
      ∨ (cause ≠ some "trust-state-unavailable" ∧ draft.withOutage cause = draft) := by
  rw [Draft.withOutage]
  by_cases hcause : cause = some "trust-state-unavailable"
  · rw [if_pos hcause]
    exact .inl ⟨hcause, rfl, rfl⟩
  · rw [if_neg hcause]
    exact .inr ⟨hcause, rfl⟩

/-- The gate leaves a state alone that is not positive, or that the model agrees with. -/
theorem gatedState_eq {decisionState : OperationalState} {vector : ResidualVector}
    (h : decisionState = .verifiedIssuer → (modelOf vector).primaryState = .verifiedIssuer) :
    gatedState decisionState vector = decisionState :=
  if_neg (fun hboth => hboth.2 (h hboth.1))

theorem gated_self (draft : Draft) (modelDecision : Decision) :
    draft.gated draft.decisionState modelDecision = draft := if_pos rfl

/-- A result that leaves nothing to open. -/
structure ShutDraft (draft : Draft) : Prop where
  state : draft.decisionState = .blocked ∨ draft.decisionState = .unknown
  shut : draft.openAllowed = false

/-- A shut draft stays shut. -/
theorem ShutDraft.final {draft : Draft} (h : ShutDraft draft) (vector : ResidualVector)
    (cause : Option String) :
    ShutDraft ((draft.gated (gatedState draft.decisionState vector) (modelOf vector)).withOutage
      cause) := by
  have hgated : gatedState draft.decisionState vector = draft.decisionState := by
    refine gatedState_eq (fun hpositive => ?_)
    rcases h.state with hstate | hstate
    · exact nomatch hpositive.symm.trans hstate
    · exact nomatch hpositive.symm.trans hstate
  rw [hgated, gated_self]
  rcases withOutage_cases draft cause with ⟨-, hstate, hshut⟩ | ⟨-, heq⟩
  · exact ⟨.inr hstate, hshut⟩
  · rw [heq]
    exact h

variable (host) in
/-- What the verifier, the redirect policy and runtime safety let through. -/
structure LetThrough (envelope : SignedQRCodeEnvelope) (result : NarrowedVerifierResponse)
    (redirect : Option RedirectPolicyVerdict) (runtime : Option RuntimeSafetyVerdict)
    (artifact : Option (QRArtifactAnalysis ρ)) (vector : ResidualVector)
    (verdict : RuntimeSafetyVerdict) : Prop where
  allowed : result.allowed = true
  inForce : result.cause ≠ some "trust-state-unavailable"
  noRedirect : ∃ reason, redirect = some (notApplicable envelope.claims.payload reason)
  runtimeVerdict : runtime = some verdict
  looked : evaluateRuntimeSafety host.ux.py envelope.claims.payload = .ok verdict
  model : modelOf vector = allowedModel (runtimeTier verdict.state) (artifactTier artifact)
  decisionState : (finalDraft result redirect runtime artifact vector).decisionState
    = verdict.decisionState
  openAllowed : (finalDraft result redirect runtime artifact vector).openAllowed
    = verdict.openAllowed

theorem artifactTier_inspected {artifact : Option (QRArtifactAnalysis ρ)}
    (h : ∀ image ∈ artifact, Inspected image) :
    artifactTier artifact = "pass" ∨ artifactTier artifact = "warn" := by
  cases artifact with
  | none => exact .inl rfl
  | some image => exact (h image rfl).tier

/-- An allowed code without a redirect is let through with what runtime safety says of
    it, unless the trust state is out; the gate never has to step in. -/
theorem Resulted.letThrough {envelope : SignedQRCodeEnvelope} {result : NarrowedVerifierResponse}
    {reason : String} {runtime : Option RuntimeSafetyVerdict}
    {artifact : Option (QRArtifactAnalysis ρ)} {vector : ResidualVector}
    {destination : ScannerDecisionDestination}
    (h : Resulted host envelope result (some (notApplicable envelope.claims.payload reason)) runtime
      artifact vector destination)
    (hallowed : result.allowed = true) (hcause : result.cause ≠ some "trust-state-unavailable")
    (hinspected : ∀ image ∈ artifact, Inspected image) :
    ∃ verdict, LetThrough host envelope result
      (some (notApplicable envelope.claims.payload reason)) runtime artifact vector verdict := by
  rcases h.allowed_cases hallowed with ⟨base, maxHops, hredirect, -⟩
    | ⟨reason', verdict, -, rfl, hlooked⟩
  · exact Bool.noConfusion
      (congrArg RedirectPolicyVerdict.openAllowed (Option.some.inj hredirect))
  · have hmodel : modelOf vector
        = allowedModel (runtimeTier verdict.state) (artifactTier artifact) := by
      rw [modelOf, tiers_of_allowed hallowed h.weighed]
      rfl
    have hstate : (draftBefore result (some (notApplicable envelope.claims.payload reason))
        (some verdict) artifact).decisionState = verdict.decisionState := rfl
    have hgated : gatedState verdict.decisionState vector = verdict.decisionState := by
      refine gatedState_eq (fun hpositive => ?_)
      rcases evaluateRuntimeSafety_outcome hlooked with ⟨hclean, -, -⟩ | ⟨-, hrisky, -⟩
        | ⟨-, hblocked, -⟩
      · rw [hmodel, hclean]
        exact (allowedModel_clean (artifactTier_inspected hinspected)).1
      · exact nomatch hpositive.symm.trans hrisky
      · exact nomatch hpositive.symm.trans hblocked
    have hfinal : finalDraft result (some (notApplicable envelope.claims.payload reason))
        (some verdict) artifact vector = draftBefore result
          (some (notApplicable envelope.claims.payload reason)) (some verdict) artifact := by
      rw [finalDraft, hstate, hgated, ← hstate, gated_self, Draft.withOutage, if_neg hcause]
    refine ⟨verdict, hallowed, hcause, ⟨reason, rfl⟩, rfl, hlooked, hmodel, ?_, ?_⟩
    · rw [hfinal]
      rfl
    · rw [hfinal]
      rfl

/-- **RESULTS**: a result leaves nothing to open, or it is let through. -/
theorem Resulted.outcome {envelope : SignedQRCodeEnvelope} {result : NarrowedVerifierResponse}
    {redirect : Option RedirectPolicyVerdict} {runtime : Option RuntimeSafetyVerdict}
    {artifact : Option (QRArtifactAnalysis ρ)} {vector : ResidualVector}
    {destination : ScannerDecisionDestination}
    (h : Resulted host envelope result redirect runtime artifact vector destination)
    (hinspected : ∀ image ∈ artifact, Inspected image) :
    ShutDraft (finalDraft result redirect runtime artifact vector)
      ∨ ∃ verdict, LetThrough host envelope result redirect runtime artifact vector verdict := by
  by_cases hcause : result.cause = some "trust-state-unavailable"
  · left
    rw [finalDraft, Draft.withOutage, if_pos hcause]
    exact ⟨.inr rfl, rfl⟩
  · by_cases hallowed : result.allowed = true
    · rcases h.allowed_cases hallowed with ⟨base, maxHops, rfl, rfl⟩
          | ⟨reason, verdict, rfl, rfl, -⟩
      · exact .inl (ShutDraft.final ⟨.inr rfl, rfl⟩ _ _)
      · exact .inr (h.letThrough hallowed hcause hinspected)
    · have hredirect := h.redirected
      rw [redirectVerdictOf, if_neg hallowed] at hredirect
      obtain rfl := Except.ok.inj hredirect
      have hruntime := h.looked
      rw [Bool.not_eq_true] at hallowed
      rw [runtimeVerdictOf, hallowed] at hruntime
      obtain rfl := Except.ok.inj hruntime
      refine .inl (ShutDraft.final ⟨.inl ?_, hallowed⟩ _ _)
      show (if result.allowed = true then OperationalState.verifiedIssuer else .blocked) = .blocked
      rw [hallowed]
      rfl

/-! ## Attention -/

theorem stateRisk_le_decisionRisk (response : ScannerDecisionResponse) :
    (stateRisk response).score ≤ (decisionRisk response).score :=
  (stateRisk_le_artifactRisk response (stateRisk response)).trans
    (artifactRisk_le_decisionRisk response)

/-- Blocked and unknown decisions are red by themselves. -/
theorem attentive_of_shut {response : ScannerDecisionResponse}
    (h : response.decisionState = .blocked ∨ response.decisionState = .unknown) :
    Attentive response := by
  have hsixty : 60 ≤ (decisionRisk response).score := by
    refine Nat.le_trans ?_ (stateRisk_le_decisionRisk response)
    rw [stateRisk]
    rcases h with h | h
    · rw [h]
    · rw [h]
  exact ⟨fun _ => Nat.le_trans (by decide) hsixty, fun _ => hsixty⟩

/-- A decision that is amber by itself is enough for a model that does not block. -/
theorem attentive_of_amber {response : ScannerDecisionResponse}
    (hscore : 30 ≤ (stateRisk response).score) (hmodel : response.modelAttention ≠ .block) :
    Attentive response :=
  ⟨fun _ => hscore.trans (stateRisk_le_decisionRisk response), fun h => absurd h hmodel⟩

/-- The states that are amber by themselves. -/
theorem thirty_le_stateRisk {response : ScannerDecisionResponse}
    (h : response.decisionState ≠ .verifiedIssuer) : 30 ≤ (stateRisk response).score := by
  rw [stateRisk]
  cases hstate : response.decisionState with
  | verifiedIssuer => exact absurd hstate h
  | verifiedIssuerDestinationRisky =>
      show 30 ≤ (if _ then (⟨35, _⟩ : Risk) else ⟨35, _⟩).score
      split
      · show 30 ≤ 35
        decide
      · show 30 ≤ 35
        decide
  | unverified => exact Nat.le_refl 30
  | signedUnknownIssuer => show 30 ≤ 35; decide
  | staleTrustState => show 30 ≤ 40; decide
  | profileStale => show 30 ≤ 40; decide
  | profileRevoked => show 30 ≤ 80; decide
  | unknown => show 30 ≤ 60; decide
  | blocked => show 30 ≤ 60; decide

/-- The signal of the artifact is the first of its layer, where no other signal has it. -/
theorem signalState_withArtifactSignal {fields : DecisionFields} {signals : List DecisionSignal}
    {image : QRArtifactAnalysis ρ}
    (hsignals : fields.signals = withArtifactSignal signals (some image))
    (hlayers : ∀ signal ∈ signals, signal.layer ≠ "artifact_integrity") :
    signalState fields.response "artifact_integrity"
      = some (scannerArtifactSignal image false).state := by
  have hlayer : (scannerArtifactSignal image false).layer = "artifact_integrity" := by
    rw [scannerArtifactSignal, if_neg Bool.false_ne_true]
    split
    · rfl
    · rfl
  have hbefore : (signals.takeWhile fun signal => signal.layer ≠ "scanner_decision").find?
      (fun signal => signal.layer = "artifact_integrity") = none := by
    rw [List.find?_eq_none]
    intro signal hsignal
    have hmem := (List.takeWhile_sublist _).subset hsignal
    simpa using hlayers signal hmem
  show Option.map _ ((fields.signals.map _).find? _) = _
  rw [hsignals, List.find?_map, withArtifactSignal]
  show Option.map _ (Option.map _ (List.find? (fun signal : DecisionSignal =>
    decide (signal.layer = "artifact_integrity")) _)) = _
  rw [List.find?_append, hbefore, Option.none_or, List.find?_cons_of_pos (by simpa using hlayer)]
  rfl

theorem layer_of_allowedSignals {record : ScannerTrustRecord GovernanceTrustProjection}
    {redirect : Option RedirectPolicyVerdict} {runtime : Option RuntimeSafetyVerdict}
    {signal : DecisionSignal} (h : signal ∈ allowedSignals record redirect runtime) :
    signal.layer ≠ "artifact_integrity" := by
  rw [allowedSignals] at h
  repeat' split at h
  all_goals
    simp only [List.mem_cons, List.not_mem_nil, or_false] at h
    rcases h with rfl | rfl | rfl | rfl <;> simp

/-- An allowed code whose artifact has a warning says so in a signal. -/
theorem signalState_of_warn {envelope : SignedQRCodeEnvelope} {result : NarrowedVerifierResponse}
    {record : ScannerTrustRecord GovernanceTrustProjection} {requestId : Option String}
    {redirect : Option RedirectPolicyVerdict} {runtime : Option RuntimeSafetyVerdict}
    {artifact : Option (QRArtifactAnalysis ρ)} {draft : Draft} {wire : ResidualVector × Decision}
    {destination : ScannerDecisionDestination} (hallowed : result.allowed = true)
    (hwarn : artifactTier artifact = "warn") :
    signalState (resultFields host envelope result record redirect draft destination
      (scannerSignalsForResult result record redirect runtime artifact) wire requestId).response
      "artifact_integrity" = some "warn" := by
  cases artifact with
  | none => exact absurd hwarn (show "pass" ≠ "warn" by decide)
  | some image =>
      have hintegrity : image.artifactIntegrity = "warn" := hwarn
      have hsignals : (resultFields host envelope result record redirect draft destination
          (scannerSignalsForResult result record redirect runtime (some image)) wire
          requestId).signals = withArtifactSignal (allowedSignals record redirect runtime) (some image) := by
        show scannerSignalsForResult result record redirect runtime (some image) = _
        rw [scannerSignalsForResult, if_pos hallowed]
      have hstate := signalState_withArtifactSignal hsignals (fun signal => layer_of_allowedSignals)
      rw [scannerArtifactSignal, if_neg Bool.false_ne_true, hintegrity] at hstate
      exact hstate

/-- A warning of the artifact adds to the state of the decision. -/
theorem artifact_adds {fields : DecisionFields}
    (h : signalState fields.response "artifact_integrity" = some "warn") :
    30 ≤ (decisionRisk fields.response).score := by
  refine Nat.le_trans ?_ (artifactRisk_le_decisionRisk fields.response)
  rw [artifactRisk, h]
  show 30 ≤ (if "warn" = "warn" then _ else _ : Risk).score
  rw [if_pos rfl]
  exact Nat.le_add_left _ _

/-- What the presentation needs of a decision: enough risk for what the model says, and
    a positive model decision only where the state is positive too. -/
structure Presentable (fields : DecisionFields) : Prop where
  attentive : Attentive fields.response
  positive : modelAttention fields.modelDecision = .positive →
    fields.openAllowed = true → fields.decisionState = .verifiedIssuer

/-- An amber state with a model decision that warns, or that has nothing to say. -/
theorem presentable_of_amber {fields : DecisionFields}
    (hstate : fields.decisionState ≠ .verifiedIssuer)
    (hblock : modelAttention fields.modelDecision ≠ .block)
    (hpositive : modelAttention fields.modelDecision ≠ .positive) : Presentable fields :=
  ⟨attentive_of_amber (thirty_le_stateRisk hstate) hblock, fun h => absurd h hpositive⟩

theorem presentable_of_shut {fields : DecisionFields}
    (hstate : fields.decisionState = .blocked ∨ fields.decisionState = .unknown)
    (hshut : fields.openAllowed = false) : Presentable fields :=
  ⟨attentive_of_shut hstate, fun _ hopen => absurd (hshut.symm.trans hopen) Bool.false_ne_true⟩

theorem Decided.presentable {fields : DecisionFields} (h : Decided host trust request fields) :
    Presentable fields := by
  cases h with
  | profile hstate hurl hdestination =>
      refine presentable_of_amber ?_ ?_ ?_
      · show (if _ then OperationalState.profileRevoked else .profileStale) ≠ _
        split
        · exact fun h => nomatch h
        · exact fun h => nomatch h
      · show modelAttention (modelOf profileVector) ≠ .block
        decide
      · show modelAttention (modelOf profileVector) ≠ .positive
        decide
  | mismatch himage hpayload => exact presentable_of_shut (.inl rfl) rfl
  | @unverified exc reason cause codes =>
      refine presentable_of_amber (fun h => nomatch h) ?_ ?_
      · show modelAttention (modelOf (unverifiedResidualVector ⟨"no-issuer", some cause⟩)) ≠ .block
        exact fun h => nomatch h
      · show modelAttention (modelOf (unverifiedResidualVector ⟨"no-issuer", some cause⟩))
          ≠ .positive
        exact fun h => nomatch h
  | unknownIssuer hdecode hrecord hurl hdestination =>
      refine presentable_of_amber (fun h => nomatch h) ?_ ?_
      · show modelAttention (modelOf (unverifiedResidualVector (entry "unaccepted-issuer")))
          ≠ .block
        decide
      · show modelAttention (modelOf (unverifiedResidualVector (entry "unaccepted-issuer")))
          ≠ .positive
        decide
  | @governance envelope record governance freshnessState openAllowed destination hdecode
      hgovernance hstate hfresh hurl hdestination =>
      cases freshnessState with
      | fresh => exact absurd rfl hfresh
      | stale =>
          refine presentable_of_amber (fun h => nomatch h) ?_ ?_
          · show modelAttention (modelOf (governanceVector .stale)) ≠ .block
            decide
          · show modelAttention (modelOf (governanceVector .stale)) ≠ .positive
            decide
      | expired =>
          have hshut : openAllowed = false := by
            rw [← Bool.not_eq_true]
            exact fun hopen => (hurl hopen).1 rfl
          exact presentable_of_shut (.inl rfl) hshut

/-- Only the model's decision on a clean code is positive. -/
theorem allowedModel_positive {state artifactIntegrity : String}
    (hstate : state = "risky" ∨ state = "unavailable" ∨ state = "stale")
    (htier : artifactIntegrity = "pass" ∨ artifactIntegrity = "warn") :
    modelAttention (allowedModel (runtimeTier state) artifactIntegrity) ≠ .positive := by
  rcases hstate with rfl | rfl | rfl <;> rcases htier with rfl | rfl <;> decide

theorem Resulted.presentable {envelope : SignedQRCodeEnvelope} {result : NarrowedVerifierResponse}
    {record : ScannerTrustRecord GovernanceTrustProjection} {requestId : Option String}
    {redirect : Option RedirectPolicyVerdict} {runtime : Option RuntimeSafetyVerdict}
    {artifact : Option (QRArtifactAnalysis ρ)} {vector : ResidualVector}
    {destination : ScannerDecisionDestination}
    (h : Resulted host envelope result redirect runtime artifact vector destination)
    (hinspected : ∀ image ∈ artifact, Inspected image) :
    Presentable (resultFields host envelope result record redirect
      (finalDraft result redirect runtime artifact vector) destination
      (scannerSignalsForResult result record redirect runtime artifact) (wireOf vector [])
      requestId) := by
  have htier := artifactTier_inspected hinspected
  rcases h.outcome hinspected with hshut | ⟨verdict, hthrough⟩
  · exact presentable_of_shut hshut.state hshut.shut
  · have hmodel : modelAttention (wireOf vector []).2
        = modelAttention (allowedModel (runtimeTier verdict.state) (artifactTier artifact)) := by
      rw [← hthrough.model]
      rfl
    rcases evaluateRuntimeSafety_outcome hthrough.looked with ⟨hstate, hdecision, -⟩
      | ⟨hstate, hdecision, -⟩ | ⟨-, hdecision, hopen⟩
    · refine ⟨⟨fun hpositive => ?_, fun hblock => ?_⟩, fun _ _ => ?_⟩
      · have hwarn : artifactTier artifact = "warn" := by
          refine htier.resolve_left (fun hpass => hpositive ?_)
          show modelAttention (wireOf vector []).2 = .positive
          rw [hmodel, hstate, modelAttention_positive_iff, (allowedModel_clean htier).1,
            (allowedModel_clean htier).2]
          exact ⟨rfl, hpass⟩
        exact artifact_adds (signalState_of_warn hthrough.allowed hwarn)
      · have hblocked := modelAttention_block_iff.mp (hmodel.symm.trans hblock)
        rw [hstate, (allowedModel_clean htier).1] at hblocked
        exact nomatch hblocked
      · exact hthrough.decisionState.trans hdecision
    · refine presentable_of_amber ?_ ?_ ?_
      · intro hpositive
        exact nomatch (hthrough.decisionState.trans hdecision).symm.trans hpositive
      · intro hblock
        exact allowedModel_open hstate htier
          (modelAttention_block_iff.mp (hmodel.symm.trans hblock))
      · intro hpositive
        exact allowedModel_positive hstate htier (hmodel.symm.trans hpositive)
    · exact presentable_of_shut (.inl (hthrough.decisionState.trans hdecision))
        (hthrough.openAllowed.trans hopen)

/-- **SIX WAYS, ONE PRESENTATION**: whichever way a scan ended in, its decision can be
    presented. -/
theorem presentable_of_run {decision : ScannerDecision} {cache : Entries}
    (h : runScannerDecision host trust request = (.ok decision, cache)) :
    Presentable decision.toDecisionFields := by
  rcases run_cases h with hdecided | ⟨code, result, hasked, -, hdecision⟩
  · exact hdecided.presentable
  · obtain ⟨redirect, runtime, vector, destination, hresulted, hfields⟩ :=
      (scannerDecisionFromResult_iff host).mp hdecision
    rw [hfields]
    refine hresulted.presentable (fun image himage => ?_)
    have hartifact := hasked.image
    rw [Option.mem_def.mp himage] at hartifact
    exact inspected_of_request hartifact

/-- **CONFORMANCE**: whatever a scan finds and whatever its client hints at, its decision
    is shown with at least the attention that the residual model asks for, so the
    assertion about it never fails; and it may be opened without a hold only where the
    decision and the model are both positive and the model has nothing to annotate. -/
theorem scan_conforms {decision : ScannerDecision} {cache : Entries}
    (h : runScannerDecision host trust request = (.ok decision, cache))
    (hints : Option ScannerDecisionRequest) :
    withScannerUx host.ux decision.response hints
        = (scannerUxForResponse host.ux decision.response hints).map
          (fun ux => { decision.response with scannerUx := some ux })
      ∧ ∀ ux, scannerUxForResponse host.ux decision.response hints = .ok ux →
          modelAttentionRank decision.response.modelAttention
              ≤ scannerUxAttentionRank ux.riskLevel
            ∧ (decision.openAllowed = true → ux.holdRequired = false →
                decision.decisionState = .verifiedIssuer
                  ∧ decision.modelDecision.primaryState = .verifiedIssuer
                  ∧ decision.modelDecision.annotations = []) := by
  have hpresentable := presentable_of_run h
  constructor
  · rw [withScannerUx]
    cases hux : scannerUxForResponse host.ux decision.response hints with
    | error exc => rfl
    | ok ux =>
        have hrank := hpresentable.attentive.rank_le hux
        show (ScannerUx.assertScannerConformanceMapping _ _ _ >>= fun _ => _) = _
        rw [ScannerUx.assertScannerConformanceMapping, if_neg (Nat.not_lt.mpr hrank)]
        rfl
  · intro ux hux
    refine ⟨hpresentable.attentive.rank_le hux, fun hopen hhold => ?_⟩
    have hpositive : modelAttention decision.modelDecision = .positive := by
      by_contra hne
      rw [hpresentable.attentive.hold hux hopen hne] at hhold
      exact Bool.noConfusion hhold
    exact ⟨hpresentable.positive hpositive hopen, modelAttention_positive_iff.mp hpositive⟩

end

/-! ## A scan under a revoked profile -/

/-- Libraries that see no image. -/
def sampleLibraries : ImageLibraries Unit Unit Unit where
  openImage := fun _ => none
  width := fun _ => 0
  height := fun _ => 0
  convertRgb := id
  detectAndDecodeMulti := fun _ => none
  detectAndDecode := fun _ => none
  readBarcodes := fun _ => none
  summarizeBounds := fun _ _ _ => none
  summarizeDarkPixelBounds := fun _ => none
  hasColoredOverlayFrame := fun _ _ => false
  quadCorroboratesInk := fun _ _ _ _ => false
  isLowQuietZone := fun _ => false
  isUneven := fun _ => false
  urlparse := fun _ => .error ""
  number := fun _ => none

/-- A deployment without a policy file, over the runtime of the verifier's sample; a text
    that it does not know is no URL. -/
def sampleHost : ScannerHost Unit Unit Unit where
  ux :=
    { py :=
        { VerdictCache.sampleRuntime with
          urlparse := fun url =>
            if url = "https://acme.example/pay" then VerdictCache.sampleRuntime.urlparse url
            else .ok ⟨"", none, none, none, .ok none, url, ""⟩ }
      isdigit := fun _ => false
      domainTexts := fun _ => []
      iterate := id }
  libraries := sampleLibraries
  b64decode := fun _ => none
  isoformat := fun _ => "2026-01-01T00:00:00+00:00"
  dumpJson := fun _ => ""
  config := ⟨"", 300, 30⟩
  artifactConfig := ⟨8192, 8000000, 1000000, 10⟩
  policyFile := none
  verifierProfileState := .active

/-- The issuer of the sample and its key, projected from the governance database. -/
def sampleStore : ScannerTrustStore GovernanceTrustProjection Unit where
  issuers := .ofList
    [("acme", ⟨"acme", "Acme", "root", .active, .utc 63902822400000000, none,
      .ofList [("acme.example", none)], false, .projection⟩)]
  keys := .ofList
    [("cert:acme", ⟨"cert:acme", "acme", "rsa-pss-sha256-v1", some "pem", .active,
      .utc 63902822400000000, none, none, none, .projection⟩)]
  governance := .empty
  projectionDefects := []

/-- What a scan finds, a number of seconds into the year 2026. -/
def sampleTrust (seconds : Int) (projectionState : ProjectionFreshness.Freshness) :
    ScanTrust Unit where
  store := sampleStore
  observedAt := 63902822400000000 + seconds * 1000000
  projectionState := projectionState
  token := some ⟨"epoch", 7⟩
  now := 63902822400000000 + seconds * 1000000
  envelopeBudget := true
  issuerBudget := true
  cache := .empty

/-- A URL, scanned by a client whose profile is revoked. -/
def revokedScan : ScanRequest := ⟨"https://acme.example/pay", none, some .revoked, none⟩

theorem exists_answer {run : Except PyError ScannerDecision × Entries} (h : run.1.isOk = true) :
    ∃ decision cache, run = (.ok decision, cache) := by
  obtain ⟨answer, cache⟩ := run
  obtain ⟨decision, rfl⟩ := exists_ok_of_isOk h
  exact ⟨decision, cache, rfl⟩

theorem scan_conforms_revoked :
    ∃ decision cache,
      runScannerDecision sampleHost (sampleTrust 5 .fresh) revokedScan = (.ok decision, cache)
        ∧ withScannerUx sampleHost.ux decision.response none
          = (scannerUxForResponse sampleHost.ux decision.response none).map
            (fun ux => { decision.response with scannerUx := some ux }) := by
  have hanswered : (runScannerDecision sampleHost (sampleTrust 5 .fresh) revokedScan).1.isOk
      = true := by
    decide +kernel
  obtain ⟨decision, cache, h⟩ := exists_answer hanswered
  exact ⟨decision, cache, h, (scan_conforms h none).1⟩

end ScannerPipeline
