import Mathlib.Data.List.Sort
import QrTrust.Network.PolicyDecoding

/-! # The domain-proof boundary

    Whether an issuer's domain proofs support binding a destination to it: the
    first rule of its policy that allows the host, and the most specific proof
    that covers the host under that rule. -/

namespace DomainProof

open VerifierCache

/-- `DomainProofMethod`. -/
inductive DomainProofMethod where
  | dnsTxt
  | httpsWellKnown
  | paymentProcessor
  | enterpriseDirectory
  | manualReview
  deriving DecidableEq, Repr

/-- `DomainProofVerificationStatus`. -/
inductive DomainProofVerificationStatus where
  | pending
  | verified
  | failed
  | expired
  | revoked
  deriving DecidableEq, Repr

/-- `IssuerEnrollmentStatus`. -/
inductive IssuerEnrollmentStatus where
  | pending
  | active
  | suspended
  | revoked
  | expired
  deriving DecidableEq, Repr

/-- `DomainControlStatus`. -/
inductive DomainControlStatus where
  | proof (status : DomainProofVerificationStatus)
  | missing
  | notEvaluated
  deriving DecidableEq, Repr

/-- `DomainProofReasonCode`. -/
inductive DomainProofReasonCode where
  | issuerActive
  | issuerNotActive
  | destinationPolicyHostApproved
  | destinationPolicyHostNotApproved
  | domainProof (status : DomainProofVerificationStatus)
  | domainProofMissing
  | domainControlNotIdentity
  | subdomainRequiresExplicitPolicy
  deriving DecidableEq, Repr

/-- The fields of `IssuerEnrollmentProjection` that the boundary reads. -/
structure IssuerEnrollmentProjection where
  ns : IssuerNamespace
  enrollmentStatus : IssuerEnrollmentStatus
  deriving DecidableEq, Repr

/-- The fields of `DomainProofRecord` that the boundary reads. -/
structure DomainProofRecord where
  ns : IssuerNamespace
  domain : String
  proofMethod : DomainProofMethod
  verificationStatus : DomainProofVerificationStatus
  expiresAt : Option String
  deriving DecidableEq, Repr

/-- `DomainProofBoundaryInput`; the observation time as its ISO text. -/
structure DomainProofBoundaryInput where
  issuer : IssuerEnrollmentProjection
  destinationPolicy : DestinationPolicyProjection
  domainProofs : List DomainProofRecord
  destinationUrl : Url
  observedAt : String

/-- `DomainProofBoundaryDecision`. -/
structure DomainProofBoundaryDecision where
  issuerActive : Bool
  domainControl : DomainControlStatus
  supportsBinding : Bool
  reasonCodes : List DomainProofReasonCode
  matchedDomain : Option String := none
  proofMethod : Option DomainProofMethod := none
  proofExpiresAt : Option String := none
  deriving DecidableEq, Repr

variable (js : JsRuntime)

/-- `normalizeDomain`. -/
def normalizeDomain (domain : String) : String :=
  JsString.dropTrailingDot (js.toLowerCase (JsString.trim domain))

/-- The host is the domain, or a subdomain of it where subdomains count. -/
def hostMatches (allowSubdomains : Bool) (domain host : String) : Bool :=
  host = domain || (allowSubdomains && JsString.endsWith host ("." ++ domain))

/-- `hostMatchesAllowedHost`. -/
def hostMatchesAllowedHost (rule : DestinationPolicyRule) (allowedHost host : String) : Bool :=
  hostMatches rule.allowSubdomains (normalizeDomain js allowedHost) host

/-- `proofCoversDestination`. -/
def proofCoversDestination (rule : DestinationPolicyRule) (proofDomain host : String) : Bool :=
  hostMatches rule.allowSubdomains (normalizeDomain js proofDomain) host

/-- `matchingDestinationRule`. -/
def matchingDestinationRule (rules : List DestinationPolicyRule) (host : String) :
    Option DestinationPolicyRule :=
  rules.find? fun rule =>
    rule.allowedHosts.any fun allowedHost => hostMatchesAllowedHost js rule allowedHost host

/-- `isSubdomainOfAnyAllowedHost`. -/
def isSubdomainOfAnyAllowedHost (rule : DestinationPolicyRule) (host : String) : Bool :=
  rule.allowedHosts.any fun allowedHost =>
    JsString.endsWith host ("." ++ normalizeDomain js allowedHost)

/-- `mostSpecificDomainProof`: of the issuer's covering proofs, the first with
    the longest domain (the sort is stable). -/
def mostSpecificDomainProof (input : DomainProofBoundaryInput) (rule : DestinationPolicyRule)
    (host : String) : Option DomainProofRecord :=
  (((input.domainProofs.filter fun proof => proof.ns = input.issuer.ns).filter fun proof =>
      proofCoversDestination js rule proof.domain host).insertionSort fun left right =>
    JsString.length (normalizeDomain js right.domain)
      ≤ JsString.length (normalizeDomain js left.domain)).head?

/-- `effectiveDomainControlStatus`: a verified proof past its expiry is expired. -/
def effectiveDomainControlStatus (proof : DomainProofRecord) (observedAt : String) :
    DomainProofVerificationStatus :=
  if proof.verificationStatus = .verified
      ∧ (JsString.truthy proof.expiresAt).any (fun expiry => !JsString.less observedAt expiry)
  then .expired
  else proof.verificationStatus

/-- `evaluateDomainProofBoundary`. -/
def evaluateDomainProofBoundary (input : DomainProofBoundaryInput) :
    DomainProofBoundaryDecision :=
  if input.issuer.enrollmentStatus ≠ .active then
    { issuerActive := false
      domainControl := .notEvaluated
      supportsBinding := false
      reasonCodes := [.domainControlNotIdentity, .issuerNotActive] }
  else
    let host := normalizeDomain js input.destinationUrl.hostname
    match matchingDestinationRule js input.destinationPolicy.approvedDestinations host with
    | none =>
        { issuerActive := true
          domainControl := .notEvaluated
          supportsBinding := false
          reasonCodes :=
            [.domainControlNotIdentity, .issuerActive, .destinationPolicyHostNotApproved] }
    | some rule =>
        let approved : List DomainProofReasonCode :=
          [.domainControlNotIdentity, .issuerActive, .destinationPolicyHostApproved]
        match mostSpecificDomainProof js input rule host with
        | none =>
            { issuerActive := true
              domainControl := .missing
              supportsBinding := false
              reasonCodes := approved
                ++ (if isSubdomainOfAnyAllowedHost js rule host && !rule.allowSubdomains then
                    [.subdomainRequiresExplicitPolicy] else [])
                ++ [.domainProofMissing] }
        | some proof =>
            let status := effectiveDomainControlStatus proof input.observedAt
            { issuerActive := true
              domainControl := .proof status
              supportsBinding := status = .verified
              reasonCodes := approved ++ [.domainProof status]
              matchedDomain := some (normalizeDomain js proof.domain)
              proofMethod := some proof.proofMethod
              proofExpiresAt := JsString.truthy proof.expiresAt }

/-! ## What a supported binding rests on -/

/-- A proof that holds at a time: verified, and not past its expiry. -/
def HoldsAt (proof : DomainProofRecord) (observedAt : String) : Prop :=
  proof.verificationStatus = .verified
    ∧ ∀ expiry, JsString.truthy proof.expiresAt = some expiry →
        JsString.less observedAt expiry = true

/-- The host is the domain or under it. -/
def IsOrUnder (host domain : String) : Prop :=
  host = domain ∨ JsString.endsWith host ("." ++ domain) = true

theorem isOrUnder_of_hostMatches {allowSubdomains : Bool} {domain host : String}
    (h : hostMatches allowSubdomains domain host = true) : IsOrUnder host domain := by
  rw [hostMatches, Bool.or_eq_true, decide_eq_true_eq, Bool.and_eq_true] at h
  rcases h with heq | ⟨-, hunder⟩
  · exact .inl heq
  · exact .inr hunder

/-- A proof whose effective status is verified holds at that time. -/
theorem holdsAt_of_effective {proof : DomainProofRecord} {observedAt : String}
    (h : effectiveDomainControlStatus proof observedAt = .verified) :
    HoldsAt proof observedAt := by
  rw [effectiveDomainControlStatus] at h
  split at h
  · exact DomainProofVerificationStatus.noConfusion h
  · rename_i hnot
    refine ⟨h, fun expiry hexpiry => ?_⟩
    by_contra hless
    refine hnot ⟨h, ?_⟩
    rw [hexpiry]
    simpa using hless

/-- **SUPPORTED BINDING**: it rests on a proof of the issuer's own namespace that
    holds at the time and whose domain is the host or above it. -/
theorem supportsBinding_proof {input : DomainProofBoundaryInput}
    (h : (evaluateDomainProofBoundary js input).supportsBinding = true) :
    ∃ proof ∈ input.domainProofs, proof.ns = input.issuer.ns
      ∧ HoldsAt proof input.observedAt
      ∧ IsOrUnder (normalizeDomain js input.destinationUrl.hostname)
          (normalizeDomain js proof.domain) := by
  rw [evaluateDomainProofBoundary] at h
  split at h
  · exact Bool.noConfusion h
  · simp only at h
    split at h
    · exact Bool.noConfusion h
    · rename_i rule hrule
      split at h
      · exact Bool.noConfusion h
      · rename_i proof hproof
        have hmem := List.mem_of_head? hproof
        rw [List.mem_insertionSort, List.mem_filter, List.mem_filter] at hmem
        obtain ⟨⟨hlisted, hns⟩, hcovers⟩ := hmem
        exact ⟨proof, hlisted, of_decide_eq_true hns, holdsAt_of_effective (of_decide_eq_true h),
          isOrUnder_of_hostMatches hcovers⟩

end DomainProof
