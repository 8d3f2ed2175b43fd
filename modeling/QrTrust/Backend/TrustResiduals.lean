import Mathlib.Tactic.Common
import QrTrust.Lib.DecisionList

/-! # The trust-residual decision core

    The decision function Δ = decide(R, P) shared by the offline corpus
    evaluation and the runtime scanner path.  A residual vector `R` gives each
    of the six families a tier; tiers are plain strings, so a vector may carry
    any tier at all, also one the vocabulary does not know.  The profile and
    the mandatory families are strings too, and `decide` refuses those outside
    their closed vocabularies.

    The early returns of the source are the arms of one decision list, in
    source order: `decideArms`.  An arm is named after the rule of the source
    it stands for (D3, D6–D9, D11, D13, D1/D2, D14, D5, D15). -/

namespace TrustResiduals

open DecisionList

/-! ## The vocabulary -/

/-- `PrimaryState`. -/
inductive PrimaryState where
  | unverified
  | signedUnacceptedIssuer
  | verifiedIssuer
  | verifiedIssuerDestinationRisky
  | blocked
  deriving DecidableEq, Repr

/-- `ANNOTATIONS`. -/
inductive AnnotationKind where
  | artifactWarning
  | staleOfflineWarning
  | limitedRuntimeSafetyVisibility
  | redirectVariationWarning
  | invalidTrustClaimWarning
  | policyProfileWarning
  | incompleteVerificationWarning
  deriving DecidableEq, Repr

/-- The six residual families. -/
inductive ResidualFamily where
  | issuerChain
  | destinationPolicy
  | redirectFlow
  | runtimeSafety
  | freshness
  | artifactIntegrity
  deriving DecidableEq, Repr

open ResidualFamily

/-- The key under which a vector files the family. -/
def ResidualFamily.name : ResidualFamily → String
  | issuerChain => "issuer_chain"
  | destinationPolicy => "destination_policy"
  | redirectFlow => "redirect_flow"
  | runtimeSafety => "runtime_safety"
  | freshness => "freshness"
  | artifactIntegrity => "artifact_integrity"

/-- `family.replace('_', '-')`, as the reason codes spell it. -/
def ResidualFamily.dashed : ResidualFamily → String
  | issuerChain => "issuer-chain"
  | destinationPolicy => "destination-policy"
  | redirectFlow => "redirect-flow"
  | runtimeSafety => "runtime-safety"
  | freshness => "freshness"
  | artifactIntegrity => "artifact-integrity"

/-- `KNOWN_PROFILES`. -/
def knownProfiles : List String :=
  ["strict-online", "bounded-online", "bounded-offline", "production-trusted",
    "reference-testing"]

/-- `RESIDUAL_FAMILIES`. -/
def residualFamilies : List ResidualFamily :=
  [issuerChain, destinationPolicy, redirectFlow, runtimeSafety, freshness,
    artifactIntegrity]

/-- `POSITIVE_ELIGIBLE_RESIDUALS`: the only tiers that can end positive. -/
def positiveEligibleResiduals : ResidualFamily → List String
  | issuerChain => ["pass"]
  | destinationPolicy => ["pass", "not-applicable"]
  | redirectFlow => ["pass", "warn", "not-applicable"]
  | runtimeSafety => ["pass", "unavailable"]
  | freshness => ["pass", "warn", "not-applicable"]
  | artifactIntegrity => ["pass", "warn"]

/-- `INSUFFICIENCY_TIERS`: tiers that report missing evidence. -/
def insufficiencyTiers : ResidualFamily → List String
  | runtimeSafety => ["unavailable", "not-checked", "stale"]
  | _ => []

/-- A residual vector: one tier, any string, for each family. -/
abbrev Residuals := ResidualFamily → String

/-- `Decision`.  The check of `__post_init__` is the type of the first field. -/
structure Decision where
  primaryState : PrimaryState
  annotations : List AnnotationKind := []
  reasonCodes : List String := []
  deriving DecidableEq, Repr

/-- `AttentionLevel`. -/
inductive AttentionLevel where
  | positive
  | neutral
  | warning
  | block
  deriving DecidableEq, Repr

/-- `attention_level`. -/
def attentionLevel (d : Decision) : AttentionLevel :=
  if d.primaryState = .blocked then .block
  else if d.primaryState = .signedUnacceptedIssuer
      ∨ d.primaryState = .verifiedIssuerDestinationRisky
      ∨ d.annotations ≠ [] then .warning
  else if d.primaryState = .unverified then .neutral
  else .positive

/-- The rank an attention level has in the attention lattice. -/
def AttentionLevel.rank : AttentionLevel → Nat
  | .positive => 0
  | .neutral => 1
  | .warning => 2
  | .block => 3

/-- `attention_rank`. -/
def attentionRank (d : Decision) : Nat := (attentionLevel d).rank

/-- The errors `decide` can raise. -/
inductive DecideError where
  | unknownProfile (profile : String)
  | unknownResidualFamilies (families : List String)
  deriving DecidableEq, Repr

/-! ## The arms, in source order -/

/-- The tiers that block: `{"fail", "block"}`. -/
def blockingTiers : List String := ["fail", "block"]

/-- D3: an invalid managed claim.  Reference testing reports it, every other
    profile blocks. -/
def invalidManagedClaim (R : Residuals) (profile : String) : Option Decision :=
  if R issuerChain = "invalid-managed-claim" then
    if profile = "reference-testing" then
      some
        { primaryState := .unverified
          annotations := [.invalidTrustClaimWarning, .policyProfileWarning]
          reasonCodes := ["invalid-managed-trust-claim", "reference-testing-profile"] }
    else
      some { primaryState := .blocked, reasonCodes := ["invalid-managed-trust-claim"] }
  else none

/-- A revoked issuer blocks. -/
def revokedIssuer (R : Residuals) : Option Decision :=
  if R issuerChain = "revoked-issuer" then
    some { primaryState := .blocked, reasonCodes := ["issuer-revoked"] }
  else none

/-- D6/D7/D8 and the block tier of D9: adverse evidence in a family blocks
    before the neutral issuer rules can capture the case. -/
def adverseEvidence (R : Residuals) (family : ResidualFamily) (reason : String) :
    Option Decision :=
  if R family ∈ blockingTiers then
    some { primaryState := .blocked, reasonCodes := [reason] }
  else none

/-- D9, strict arm: strict online refuses stale freshness evidence. -/
def strictFreshness (R : Residuals) (profile : String) : Option Decision :=
  if profile = "strict-online" ∧ R freshness = "warn" then
    some { primaryState := .blocked, reasonCodes := ["freshness-stale"] }
  else none

/-- An artifact-integrity block. -/
def artifactBlock (R : Residuals) : Option Decision :=
  if R artifactIntegrity = "block" then
    some { primaryState := .blocked, reasonCodes := ["artifact-integrity-block"] }
  else none

/-- D11: an artifact-integrity failure blocks where the family is mandatory and
    otherwise only removes positive trust. -/
def artifactFailure (R : Residuals) (mandatory : List String) : Option Decision :=
  if R artifactIntegrity = "fail" then
    if artifactIntegrity.name ∈ mandatory then
      some { primaryState := .blocked, reasonCodes := ["artifact-integrity-failed"] }
    else
      some
        { primaryState := .unverified
          annotations := [.artifactWarning]
          reasonCodes := ["artifact-integrity-failed"] }
  else none

/-- A caution carrying one reason, and the block strict online makes of it. -/
def cautionOrBlock (profile reason : String) : Decision :=
  if profile = "strict-online" then
    { primaryState := .blocked, reasonCodes := [reason] }
  else
    { primaryState := .unverified
      annotations := [.incompleteVerificationWarning]
      reasonCodes := [reason] }

/-- D13: contradictory verdicts across accepted roots. -/
def crossRootContradiction (R : Residuals) (profile : String) : Option Decision :=
  if R issuerChain = "cross-root-contradiction" then
    some (cautionOrBlock profile "cross-root-contradiction")
  else none

/-- D1: no issuer path. -/
def noIssuer (R : Residuals) : Option Decision :=
  if R issuerChain = "no-issuer" then
    some { primaryState := .unverified, reasonCodes := ["no-issuer-path"] }
  else none

/-- D2: signed by an issuer nobody accepted. -/
def unacceptedIssuer (R : Residuals) : Option Decision :=
  if R issuerChain = "unaccepted-issuer" then
    some
      { primaryState := .signedUnacceptedIssuer
        reasonCodes := ["signed-by-unaccepted-issuer"] }
  else none

/-- D14: an expired runtime verdict. -/
def runtimeStale (R : Residuals) (profile : String) : Option Decision :=
  if R runtimeSafety = "stale" then
    some (cautionOrBlock profile "runtime-safety-stale")
  else none

/-- D14: strict online requires a runtime verdict. -/
def strictRuntimeMissing (R : Residuals) (profile : String) : Option Decision :=
  if profile = "strict-online"
      ∧ (R runtimeSafety = "unavailable" ∨ R runtimeSafety = "not-checked") then
    some
      { primaryState := .blocked
        reasonCodes :=
          [if R runtimeSafety = "unavailable" then "runtime-safety-unavailable"
            else "runtime-safety-not-checked"] }
  else none

/-- D14, non-strict arm: a check that was never requested. -/
def runtimeNotChecked (R : Residuals) : Option Decision :=
  if R runtimeSafety = "not-checked" then
    some
      { primaryState := .unverified
        annotations := [.incompleteVerificationWarning]
        reasonCodes := ["runtime-safety-not-checked"] }
  else none

/-- The cautions a surviving vector carries, each with its reason code. -/
def cautions (R : Residuals) (profile : String) : List (AnnotationKind × String) :=
  (if R freshness = "warn" then [(.staleOfflineWarning, "freshness-warning")] else [])
  ++ (if R runtimeSafety = "unavailable" then
        [(.limitedRuntimeSafetyVisibility, "runtime-safety-unavailable")] else [])
  ++ (if R artifactIntegrity = "warn" then
        [(.artifactWarning, "artifact-integrity-warning")] else [])
  ++ (if R redirectFlow = "warn" then
        [(.redirectVariationWarning, "redirect-variation-warning")] else [])
  ++ (if profile = "reference-testing" then
        [(.policyProfileWarning, "reference-testing-profile")] else [])

/-- Is the tier of the family positive-eligible? -/
def PositiveEligible (R : Residuals) (family : ResidualFamily) : Prop :=
  R family ∈ positiveEligibleResiduals family

instance (R : Residuals) (family : ResidualFamily) :
    Decidable (PositiveEligible R family) :=
  inferInstanceAs (Decidable (_ ∈ _))

/-- D5: a risky runtime verdict, every other family positive-eligible. -/
def runtimeRisky (R : Residuals) (profile : String) : Option Decision :=
  if R runtimeSafety = "warn"
      ∧ ∀ family ∈ residualFamilies, family ≠ runtimeSafety → PositiveEligible R family then
    some
      { primaryState := .verifiedIssuerDestinationRisky
        annotations := (cautions R profile).map Prod.fst
        reasonCodes := (cautions R profile).map Prod.snd ++ ["runtime-safety-warning"] }
  else none

/-- Does a mandatory family lack decision-grade evidence?  A risky runtime
    verdict is evidence and does not. -/
def EvidenceMissing (R : Residuals) (mandatory : List String)
    (family : ResidualFamily) : Prop :=
  family.name ∈ mandatory
    ∧ ¬ (R family ∉ insufficiencyTiers family ∧ PositiveEligible R family)
    ∧ ¬ (family = runtimeSafety ∧ R family = "warn")

instance (R : Residuals) (mandatory : List String) (family : ResidualFamily) :
    Decidable (EvidenceMissing R mandatory family) :=
  inferInstanceAs (Decidable (_ ∧ _ ∧ _))

/-- D14, general arm: the first mandatory family without evidence. -/
def requiredEvidence (R : Residuals) (profile : String) (mandatory : List String) :
    Option Decision :=
  (residualFamilies.find? fun family => EvidenceMissing R mandatory family).map
    fun family => cautionOrBlock profile (family.dashed ++ "-required-evidence-missing")

/-- D15: some family is outside its positive-eligible set. -/
def unmodeledCombination (R : Residuals) : Option Decision :=
  if ∃ family ∈ residualFamilies, ¬ PositiveEligible R family then
    some
      { primaryState := .unverified
        annotations := [.incompleteVerificationWarning]
        reasonCodes := ["unmodeled-residual-combination"] }
  else none

/-- D4: the positive terminal. -/
def positiveTerminal (R : Residuals) (profile : String) : Decision :=
  { primaryState := .verifiedIssuer
    annotations := (cautions R profile).map Prod.fst
    reasonCodes := (cautions R profile).map Prod.snd }

/-! ## The decision function -/

/-- The mandatory block class: D3, D6–D8, D10 and the strict arm of D9. -/
def blockArms (R : Residuals) (profile : String) : List (Option Decision) :=
  [ invalidManagedClaim R profile,
    revokedIssuer R,
    adverseEvidence R destinationPolicy "destination-policy-failed",
    adverseEvidence R redirectFlow "redirect-flow-failed",
    adverseEvidence R runtimeSafety "runtime-safety-block",
    adverseEvidence R freshness "freshness-block",
    strictFreshness R profile,
    artifactBlock R ]

/-- D13, the neutral capture D1/D2, the runtime arms of D14, and D5. -/
def captureArms (R : Residuals) (profile : String) : List (Option Decision) :=
  [ crossRootContradiction R profile,
    noIssuer R,
    unacceptedIssuer R,
    runtimeStale R profile,
    strictRuntimeMissing R profile,
    runtimeNotChecked R,
    runtimeRisky R profile ]

/-- All arms of the decision, in source order. -/
def decideArms (R : Residuals) (profile : String) (mandatory : List String) :
    List (Option Decision) :=
  blockArms R profile
    ++ artifactFailure R mandatory :: captureArms R profile
    ++ [requiredEvidence R profile mandatory, unmodeledCombination R]

/-- `decide`: refuse an unknown profile or mandatory name, then take the first
    arm that applies, the positive terminal last. -/
def decide (R : Residuals) (profile : String) (mandatory : List String) :
    Except DecideError Decision :=
  if profile ∉ knownProfiles then .error (.unknownProfile profile)
  else
    let unknownFamilies := mandatory.filter (· ∉ residualFamilies.map ResidualFamily.name)
    if unknownFamilies ≠ [] then .error (.unknownResidualFamilies unknownFamilies)
    else .ok (firstAnswer (decideArms R profile mandatory) (positiveTerminal R profile))

/-! ## Where the decision list answers -/

/-- `decide` answers on every known profile and every set of family names. -/
theorem decide_eq_ok (R : Residuals) {profile : String} {mandatory : List String}
    (hprofile : profile ∈ knownProfiles)
    (hmandatory : ∀ m ∈ mandatory, m ∈ residualFamilies.map ResidualFamily.name) :
    decide R profile mandatory
      = .ok (firstAnswer (decideArms R profile mandatory) (positiveTerminal R profile)) := by
  have hnone : mandatory.filter (· ∉ residualFamilies.map ResidualFamily.name) = [] := by
    rw [List.filter_eq_nil_iff]
    intro m hm
    simpa using hmandatory m hm
  unfold decide
  rw [if_neg (not_not.mpr hprofile)]
  simp only [hnone, ne_eq, not_true_eq_false, if_false]

/-- A decision was made only for a known profile, over family names, and it is
    the answer of the list. -/
theorem decide_ok_iff {R : Residuals} {profile : String} {mandatory : List String}
    {d : Decision} :
    decide R profile mandatory = .ok d ↔
      profile ∈ knownProfiles
        ∧ (∀ m ∈ mandatory, m ∈ residualFamilies.map ResidualFamily.name)
        ∧ d = firstAnswer (decideArms R profile mandatory) (positiveTerminal R profile) := by
  constructor
  · intro h
    unfold decide at h
    by_cases hprofile : profile ∈ knownProfiles
    · rw [if_neg (not_not.mpr hprofile)] at h
      by_cases hfilter :
          mandatory.filter (· ∉ residualFamilies.map ResidualFamily.name) = []
      · have hmandatory :
            ∀ m ∈ mandatory, m ∈ residualFamilies.map ResidualFamily.name := by
          intro m hm
          have := List.filter_eq_nil_iff.mp hfilter m hm
          simpa using this
        refine ⟨hprofile, hmandatory, ?_⟩
        simp only [hfilter, ne_eq, not_true_eq_false, if_false] at h
        exact (Except.ok.inj h).symm
      · simp only [ne_eq, hfilter, not_false_eq_true, if_true] at h
        exact nomatch h
    · rw [if_pos hprofile] at h
      exact nomatch h
  · rintro ⟨hprofile, hmandatory, rfl⟩
    exact decide_eq_ok R hprofile hmandatory

end TrustResiduals
