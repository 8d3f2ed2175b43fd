import QrTrust.Lib.TopRanked
import QrTrust.Network.PublicationGateProofs

/-! # The order of the domain proofs

    The boundary decides by one proof: of the issuer's covering proofs, the
    first listed with the longest domain.  When a proof was verified is on the
    record and not read, so where proofs of one domain disagree, their order in
    the list is what decides (`decidedByProofs_iff`, `stale_failure_decides`). -/

namespace DomainProof

open VerifierCache JsString

/-! ## Lengths of hosts -/

theorem codeUnits_ne_nil (c : Char) : codeUnits c ≠ [] := by
  rw [codeUnits]
  split
  · exact List.cons_ne_nil _ _
  · exact List.cons_ne_nil _ _

/-- The end of a text is no longer than the text. -/
theorem length_le_of_suffix {s t : String} (h : s.toList <:+ t.toList) :
    JsString.length s ≤ JsString.length t := by
  obtain ⟨before, hbefore⟩ := h
  rw [JsString.length, JsString.length, ← hbefore, List.flatMap_append, List.length_append]
  exact Nat.le_add_left _ _

/-- An end of a text that is as long as the text is all of it. -/
theorem eq_of_suffix_of_length {s t : String} (h : s.toList <:+ t.toList)
    (hlength : JsString.length s = JsString.length t) : s = t := by
  obtain ⟨before, hbefore⟩ := h
  rw [JsString.length, JsString.length, ← hbefore, List.flatMap_append, List.length_append]
    at hlength
  have hzero : (before.flatMap codeUnits).length = 0 := by omega
  have hnil : before = [] := by
    rw [List.length_eq_zero_iff, List.flatMap_eq_nil_iff] at hzero
    exact List.eq_nil_iff_forall_not_mem.mpr fun c hc => codeUnits_ne_nil c (hzero c hc)
  rw [hnil, List.nil_append] at hbefore
  exact String.toList_inj.mp hbefore

/-- A domain that a host is or is under is an end of the host. -/
theorem suffix_of_isOrUnder {host domain : String} (h : IsOrUnder host domain) :
    domain.toList <:+ host.toList := by
  rcases h with rfl | hunder
  · exact List.suffix_refl _
  · have hdomain : domain.toList <:+ ("." ++ domain).toList := by
      rw [String.toList_append]
      exact List.suffix_append ..
    exact hdomain.trans (endsWith_iff.mp hunder)

/-- Domains of one length above one host are one domain. -/
theorem isOrUnder_eq {host domain domain' : String} (h : IsOrUnder host domain)
    (h' : IsOrUnder host domain') (hlength : JsString.length domain = JsString.length domain') :
    domain = domain' := by
  rcases List.suffix_or_suffix_of_suffix (suffix_of_isOrUnder h) (suffix_of_isOrUnder h')
    with hsuffix | hsuffix
  · exact eq_of_suffix_of_length hsuffix hlength
  · exact (eq_of_suffix_of_length hsuffix hlength.symm).symm

/-! ## The decision of a list of proofs -/

/-- A record with the time it was verified at, which the boundary does not read. -/
structure DatedProof extends DomainProofRecord where
  verifiedAt : Option String
  deriving DecidableEq, Repr

variable (js : JsRuntime)

/-- The boundary's decision for a list of proofs. -/
def boundaryOf (input : DomainProofBoundaryInput) (proofs : List DatedProof) :
    DomainProofBoundaryDecision :=
  evaluateDomainProofBoundary js
    { input with domainProofs := proofs.map DatedProof.toDomainProofRecord }

/-- The host that the boundary decides about. -/
def destinationHost (input : DomainProofBoundaryInput) : String :=
  normalizeDomain js input.destinationUrl.hostname

/-- The boundary evaluates domain control under a rule: the issuer is active and
    its policy allows the host. -/
def EvaluatedUnder (input : DomainProofBoundaryInput) (rule : DestinationPolicyRule) : Prop :=
  input.issuer.enrollmentStatus = .active
    ∧ matchingDestinationRule js input.destinationPolicy.approvedDestinations
        (destinationHost js input) = some rule

/-- A proof of the issuer for the very host. -/
def ForHost (input : DomainProofBoundaryInput) (proof : DatedProof) : Prop :=
  proof.ns = input.issuer.ns ∧ normalizeDomain js proof.domain = destinationHost js input

/-- **ORDER-FREE AND SAFE**: the decision does not depend on the order of the
    list; a proof in force that no revocation supersedes is accepted; a latest
    proof that is revoked rejects. -/
structure DecidedByProofs (later : DatedProof → DatedProof → Prop)
    (input : DomainProofBoundaryInput) (proofs : List DatedProof) : Prop where
  ordered : ∀ proofs' : List DatedProof, proofs'.Perm proofs →
    boundaryOf js input proofs' = boundaryOf js input proofs
  accepted : ∀ rule, EvaluatedUnder js input rule → ∀ proof ∈ proofs, ForHost js input proof →
    HoldsAt proof.toDomainProofRecord input.observedAt →
    (∀ other ∈ proofs, ForHost js input other → other.verificationStatus = .revoked →
      ¬ later other proof) →
    (boundaryOf js input proofs).supportsBinding = true
  rejected : ∀ proof ∈ proofs, ForHost js input proof → proof.verificationStatus = .revoked →
    (∀ other ∈ proofs, ForHost js input other → ¬ later other proof) →
    (boundaryOf js input proofs).supportsBinding = false

/-- A covering proof of the issuer. -/
def Covers (input : DomainProofBoundaryInput) (rule : DestinationPolicyRule)
    (proof : DatedProof) : Prop :=
  proof.ns = input.issuer.ns
    ∧ proofCoversDestination js rule proof.domain (destinationHost js input) = true

instance (input : DomainProofBoundaryInput) (rule : DestinationPolicyRule) :
    DecidablePred (Covers js input rule) :=
  fun _ => inferInstanceAs (Decidable (_ ∧ _))

/-- One of the covering proofs with the longest domain. -/
def MostSpecific (input : DomainProofBoundaryInput) (rule : DestinationPolicyRule)
    (proofs : List DatedProof) (proof : DatedProof) : Prop :=
  (proof ∈ proofs ∧ Covers js input rule proof)
    ∧ ∀ other ∈ proofs, Covers js input rule other →
        JsString.length (normalizeDomain js other.domain)
          ≤ JsString.length (normalizeDomain js proof.domain)

/-- Two proofs say the same at a time. -/
def SaysTheSame (observedAt : String) (proof other : DatedProof) : Prop :=
  effectiveDomainControlStatus proof.toDomainProofRecord observedAt
      = effectiveDomainControlStatus other.toDomainProofRecord observedAt
    ∧ proof.proofMethod = other.proofMethod
    ∧ truthy proof.expiresAt = truthy other.expiresAt

/-- The most specific proofs of a host that is evaluated all say the same. -/
def Agreeing (input : DomainProofBoundaryInput) (proofs : List DatedProof) : Prop :=
  ∀ rule, EvaluatedUnder js input rule → ∀ proof other,
    MostSpecific js input rule proofs proof → MostSpecific js input rule proofs other →
    SaysTheSame input.observedAt proof other

/-! ## The proof that decides -/

/-- The rank of a proof: the length of its domain. -/
def specificity (proof : DatedProof) : Nat := JsString.length (normalizeDomain js proof.domain)

/-- What the boundary decides by a proof. -/
def proofDecision (observedAt : String) (proof : DatedProof) : DomainProofBoundaryDecision :=
  let status := effectiveDomainControlStatus proof.toDomainProofRecord observedAt
  { issuerActive := true
    domainControl := .proof status
    supportsBinding := status = .verified
    reasonCodes :=
      [.domainControlNotIdentity, .issuerActive, .destinationPolicyHostApproved,
        .domainProof status]
    matchedDomain := some (normalizeDomain js proof.domain)
    proofMethod := some proof.proofMethod
    proofExpiresAt := truthy proof.expiresAt }

/-- What the boundary decides without a proof. -/
def missingDecision (rule : DestinationPolicyRule) (host : String) :
    DomainProofBoundaryDecision where
  issuerActive := true
  domainControl := .missing
  supportsBinding := false
  reasonCodes :=
    [.domainControlNotIdentity, .issuerActive, .destinationPolicyHostApproved]
      ++ (if isSubdomainOfAnyAllowedHost js rule host && !rule.allowSubdomains then
          [.subdomainRequiresExplicitPolicy] else [])
      ++ [.domainProofMissing]

variable {js} {input : DomainProofBoundaryInput} {rule : DestinationPolicyRule}
  {proofs proofs' : List DatedProof} {proof other : DatedProof}

/-- The covering proof that decides, as the first of a stable sort by rank. -/
theorem mostSpecificDomainProof_map :
    mostSpecificDomainProof js
        { input with domainProofs := proofs.map DatedProof.toDomainProofRecord } rule
        (destinationHost js input)
      = (TopRanked.top (specificity js) (proofs.filter fun proof =>
          Covers js input rule proof)).map DatedProof.toDomainProofRecord := by
  have hsort := List.map_insertionSort
    (fun left right => specificity js right ≤ specificity js left)
    (fun left right : DomainProofRecord =>
      JsString.length (normalizeDomain js right.domain)
        ≤ JsString.length (normalizeDomain js left.domain))
    DatedProof.toDomainProofRecord (proofs.filter fun proof => Covers js input rule proof)
    fun _ _ _ _ => Iff.rfl
  rw [mostSpecificDomainProof, TopRanked.top, ← List.head?_map, hsort]
  congr 2
  rw [List.filter_map, List.filter_map, List.filter_filter]
  congr 1
  refine List.filter_congr fun proof _ => ?_
  rw [Function.comp_apply, Function.comp_apply]
  refine Bool.eq_iff_iff.mpr ?_
  rw [Bool.and_eq_true, decide_eq_true_iff, decide_eq_true_iff]
  exact and_comm

/-- **ONE PROOF**: the deciding proof's decision, or that of a missing proof. -/
theorem boundaryOf_eq (h : EvaluatedUnder js input rule) (proofs : List DatedProof) :
    boundaryOf js input proofs
      = ((TopRanked.top (specificity js) (proofs.filter fun proof =>
          Covers js input rule proof)).map (proofDecision js input.observedAt)).getD
          (missingDecision js rule (destinationHost js input)) := by
  obtain ⟨hactive, hrule⟩ := h
  rw [boundaryOf, evaluateDomainProofBoundary, if_neg (not_not_intro hactive)]
  simp only
  rw [destinationHost] at hrule
  rw [hrule]
  simp only
  have hproof := @mostSpecificDomainProof_map js input rule proofs
  rw [destinationHost] at hproof
  rw [hproof, destinationHost]
  cases TopRanked.top (specificity js) (proofs.filter fun proof =>
    Covers js input rule proof) with
  | none => rfl
  | some proof => rfl

/-- Where domain control is not evaluated, the proofs are not read. -/
theorem boundaryOf_of_not_evaluated (h : ∀ rule, ¬ EvaluatedUnder js input rule)
    (proofs proofs' : List DatedProof) :
    boundaryOf js input proofs = boundaryOf js input proofs'
      ∧ (boundaryOf js input proofs).supportsBinding = false := by
  rw [boundaryOf, boundaryOf, evaluateDomainProofBoundary, evaluateDomainProofBoundary]
  by_cases hactive : input.issuer.enrollmentStatus = .active
  · have hnone : matchingDestinationRule js input.destinationPolicy.approvedDestinations
        (destinationHost js input) = none :=
      Option.eq_none_iff_forall_ne_some.mpr fun rule hrule => h rule ⟨hactive, hrule⟩
    rw [destinationHost] at hnone
    rw [if_neg (not_not_intro hactive), if_neg (not_not_intro hactive)]
    simp only
    rw [hnone]
    exact ⟨rfl, rfl⟩
  · rw [if_pos hactive, if_pos hactive]
    exact ⟨rfl, rfl⟩

theorem isTop_iff :
    TopRanked.IsTop (specificity js) (proofs.filter fun proof => Covers js input rule proof) proof
      ↔ MostSpecific js input rule proofs proof := by
  rw [TopRanked.IsTop, MostSpecific, List.mem_filter, decide_eq_true_iff]
  refine and_congr_right fun _ => ⟨fun h other hmem hcovers => ?_, fun h other hmem => ?_⟩
  · exact h other (List.mem_filter.mpr ⟨hmem, decide_eq_true hcovers⟩)
  · obtain ⟨hlisted, hcovers⟩ := List.mem_filter.mp hmem
    exact h other hlisted (of_decide_eq_true hcovers)

/-- The most specific proofs are for one domain. -/
theorem MostSpecific.domain_eq (h : MostSpecific js input rule proofs proof)
    (h' : MostSpecific js input rule proofs other) :
    normalizeDomain js proof.domain = normalizeDomain js other.domain :=
  isOrUnder_eq (isOrUnder_of_hostMatches h.1.2.2) (isOrUnder_of_hostMatches h'.1.2.2)
    ((isTop_iff.mpr h).rank_eq (isTop_iff.mpr h'))

/-- A proof for the very host is one of the most specific. -/
theorem mostSpecific_of_forHost (hmem : proof ∈ proofs) (h : ForHost js input proof) :
    MostSpecific js input rule proofs proof := by
  refine ⟨⟨hmem, h.1, ?_⟩, fun other _ hcovers => ?_⟩
  · rw [proofCoversDestination, hostMatches, h.2, decide_eq_true rfl, Bool.true_or]
  · rw [h.2]
    exact length_le_of_suffix (suffix_of_isOrUnder (isOrUnder_of_hostMatches hcovers.2))

/-- Two proofs lead to one decision when they are for one domain and say the
    same. -/
theorem proofDecision_eq_iff {observedAt : String} :
    proofDecision js observedAt proof = proofDecision js observedAt other
      ↔ normalizeDomain js proof.domain = normalizeDomain js other.domain
        ∧ SaysTheSame observedAt proof other := by
  constructor
  · intro h
    have hstatus := congrArg DomainProofBoundaryDecision.domainControl h
    have hdomain := congrArg DomainProofBoundaryDecision.matchedDomain h
    have hmethod := congrArg DomainProofBoundaryDecision.proofMethod h
    have hexpiry := congrArg DomainProofBoundaryDecision.proofExpiresAt h
    exact ⟨Option.some.inj hdomain, DomainControlStatus.proof.inj hstatus,
      Option.some.inj hmethod, hexpiry⟩
  · rintro ⟨hdomain, hstatus, hmethod, hexpiry⟩
    rw [proofDecision, proofDecision, hstatus, hdomain, hmethod, hexpiry]

/-- A decision by a proof is never that of a missing proof. -/
theorem proofDecision_ne_missing {observedAt host : String} :
    proofDecision js observedAt proof ≠ missingDecision js rule host := by
  intro h
  cases congrArg DomainProofBoundaryDecision.domainControl h

/-- A verified proof not past its expiry is effectively verified. -/
theorem effective_of_holdsAt {record : DomainProofRecord} {observedAt : String}
    (h : HoldsAt record observedAt) :
    effectiveDomainControlStatus record observedAt = .verified := by
  rw [effectiveDomainControlStatus, if_neg]
  · exact h.1
  · rintro ⟨-, hpast⟩
    obtain ⟨expiry, hexpiry, hless⟩ := (Option.any_eq_true ..).mp hpast
    rw [h.2 expiry hexpiry] at hless
    cases hless

/-- Where the most specific proofs agree, each of them decides. -/
theorem boundaryOf_of_agreeing (hagree : Agreeing js input proofs)
    (heval : EvaluatedUnder js input rule) (h : MostSpecific js input rule proofs proof) :
    boundaryOf js input proofs = proofDecision js input.observedAt proof := by
  rw [boundaryOf_eq heval]
  cases htop : TopRanked.top (specificity js) (proofs.filter fun proof =>
      Covers js input rule proof) with
  | none =>
      have hmem := (isTop_iff.mpr h).1
      rw [TopRanked.top_eq_none_iff.mp htop] at hmem
      exact absurd hmem List.not_mem_nil
  | some top =>
      have htop' := isTop_iff.mp (TopRanked.isTop_of_top htop)
      rw [Option.map_some, Option.getD_some]
      exact proofDecision_eq_iff.mpr ⟨htop'.domain_eq h, hagree rule heval top proof htop' h⟩

/-! ## Order-free and safe -/

/-- **ORDER**: the decision is the same for every order of the list when the
    most specific proofs of an evaluated host say the same, and only then. -/
theorem ordered_iff :
    (∀ proofs' : List DatedProof, proofs'.Perm proofs →
        boundaryOf js input proofs' = boundaryOf js input proofs)
      ↔ Agreeing js input proofs := by
  constructor
  · intro hsame rule heval proof other hproof hother
    have hread : ∀ proofs' : List DatedProof, proofs'.Perm proofs →
        (TopRanked.top (specificity js) (proofs'.filter fun proof =>
            Covers js input rule proof)).map (proofDecision js input.observedAt)
          = (TopRanked.top (specificity js) (proofs.filter fun proof =>
            Covers js input rule proof)).map (proofDecision js input.observedAt) := by
      intro proofs' hperm
      have hdecision := hsame proofs' hperm
      rw [boundaryOf_eq heval, boundaryOf_eq heval] at hdecision
      -- the decision of a missing proof tells the two cases apart
      cases htop' : TopRanked.top (specificity js) (proofs'.filter fun proof =>
          Covers js input rule proof) with
      | none =>
          cases htop : TopRanked.top (specificity js) (proofs.filter fun proof =>
              Covers js input rule proof) with
          | none => rfl
          | some top =>
              rw [htop', htop] at hdecision
              exact absurd hdecision.symm proofDecision_ne_missing
      | some top' =>
          cases htop : TopRanked.top (specificity js) (proofs.filter fun proof =>
              Covers js input rule proof) with
          | none =>
              rw [htop', htop] at hdecision
              exact absurd hdecision proofDecision_ne_missing
          | some top =>
              rw [htop', htop] at hdecision
              exact congrArg some hdecision
    have hagree := (TopRanked.map_top_perm_iff _ _ _).mp hread proof other
      (isTop_iff.mpr hproof) (isTop_iff.mpr hother)
    exact (proofDecision_eq_iff.mp hagree).2
  · intro hagree proofs' hperm
    by_cases heval : ∃ rule, EvaluatedUnder js input rule
    · obtain ⟨rule, heval⟩ := heval
      rw [boundaryOf_eq heval, boundaryOf_eq heval]
      congr 1
      refine (TopRanked.map_top_perm_iff _ _ _).mpr ?_ proofs' hperm
      intro proof other hproof hother
      have hproof' := isTop_iff.mp hproof
      have hother' := isTop_iff.mp hother
      exact proofDecision_eq_iff.mpr
        ⟨hproof'.domain_eq hother', hagree rule heval proof other hproof' hother'⟩
    · exact (boundaryOf_of_not_evaluated (not_exists.mp heval) proofs' proofs).1

/-- **DECIDED BY THE PROOFS**: the decision is order-free and safe, whatever it
    means for a proof to be later, when the most specific proofs of an evaluated
    host say the same, and only then. -/
theorem decidedByProofs_iff (js : JsRuntime) (later : DatedProof → DatedProof → Prop)
    (input : DomainProofBoundaryInput) (proofs : List DatedProof) :
    DecidedByProofs js later input proofs ↔ Agreeing js input proofs := by
  constructor
  · intro h
    exact ordered_iff.mp h.ordered
  · intro hagree
    refine ⟨ordered_iff.mpr hagree, ?_, ?_⟩
    · intro rule heval proof hmem hhost hholds _
      rw [boundaryOf_of_agreeing hagree heval (mostSpecific_of_forHost hmem hhost)]
      exact decide_eq_true (effective_of_holdsAt hholds)
    · intro proof hmem hhost hrevoked _
      by_cases heval : ∃ rule, EvaluatedUnder js input rule
      · obtain ⟨rule, heval⟩ := heval
        rw [boundaryOf_of_agreeing hagree heval (mostSpecific_of_forHost hmem hhost)]
        have hstatus : effectiveDomainControlStatus proof.toDomainProofRecord input.observedAt
            = .revoked := by
          rw [effectiveDomainControlStatus, hrevoked, if_neg]
          rintro ⟨hverified, -⟩
          cases hverified
        rw [proofDecision, hstatus]
        rfl
      · exact (boundaryOf_of_not_evaluated (not_exists.mp heval) proofs proofs).2

/-! ## A failure that was put right -/

/-- A DNS proof of the sample issuer for its own host. -/
def sampleProof (status : DomainProofVerificationStatus) (verifiedAt : Option String) :
    DatedProof where
  ns := PublicationGate.sampleNamespace
  domain := "acme.example"
  proofMethod := .dnsTxt
  verificationStatus := status
  expiresAt := some "2027-01-01T00:00:00.000Z"
  verifiedAt := verifiedAt

/-- The boundary is asked about the sample issuer's own host. -/
def sampleBoundary : DomainProofBoundaryInput where
  issuer := ⟨PublicationGate.sampleNamespace, .active⟩
  destinationPolicy := PublicationGate.samplePolicy ["acme.example"]
  domainProofs := []
  destinationUrl := PublicationGate.plainUrl "acme.example" "/"
  observedAt := "2026-06-01T00:00:00.000Z"

/-- Later: verified at a greater time, where a proof that was never verified
    has none. -/
def verifiedLater (proof other : DatedProof) : Prop :=
  JsString.less (other.verifiedAt.getD "") (proof.verifiedAt.getD "") = true

/-- A check that failed and a later one that succeeded: listed in this order
    they reject the host, in the other they support it. -/
theorem stale_failure_decides :
    ¬ DecidedByProofs PublicationGate.sampleRuntime verifiedLater sampleBoundary
        [sampleProof .failed none, sampleProof .verified (some "2026-05-01T00:00:00.000Z")] := by
  intro h
  have hswapped := h.ordered
    [sampleProof .verified (some "2026-05-01T00:00:00.000Z"), sampleProof .failed none]
    (List.Perm.swap ..)
  exact absurd hswapped (by decide)

end DomainProof
