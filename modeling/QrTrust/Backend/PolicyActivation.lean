import QrTrust.Backend.DestinationPolicies
import QrTrust.Backend.TrustProjection
import QrTrust.Lib.LikePattern

/-! # The activation gate

    What the statement of `build_destination_policy_upsert_mutation` asks of the
    trust tables before it makes a destination policy active: an active issuer,
    and for every host scope a domain proof of that issuer in force. -/

namespace PolicyActivation

open DestinationPolicies TrustProjection

/-- `issuer_ok`. -/
def issuerOk (issuers : List IssuerRow) (key : IssuerKey) : Bool :=
  issuers.any fun row => row.key = key && row.enrollmentStatus = "active"

/-- `policy_hosts.host like ('%.' || proof.domain)`. -/
def underDomain (host domain : String) : Bool :=
  LikePattern.like ('%' :: '.' :: domain.toList) host.toList

/-- The proof is verified and not past its expiry at `now()`, in microseconds. -/
def proofInForce (now : Int) (proof : DomainProofRow) : Bool :=
  proof.verified && proof.expiresAt.all fun expiry => now < expiry.instant

/-- The proof is for the host, or for a domain above it where subdomains count. -/
def proofCoversHost (proof : DomainProofRow) (scope : HostScope) : Bool :=
  proof.domain = scope.host || (scope.allowSubdomains && underDomain scope.host proof.domain)

/-- `missing_hosts`. -/
def missingHosts (proofs : List DomainProofRow) (key : IssuerKey) (now : Int)
    (scopes : List HostScope) : List HostScope :=
  scopes.filter fun scope =>
    !proofs.any fun proof =>
      proof.issuer = key && proofInForce now proof && proofCoversHost proof scope

/-- Does the statement insert or update the policy row? -/
def activates (issuers : List IssuerRow) (proofs : List DomainProofRow) (key : IssuerKey)
    (now : Int) (scopes : List HostScope) : Bool :=
  issuerOk issuers key && (missingHosts proofs key now scopes).isEmpty

/-- The statement activates when every scope has a covering proof in force. -/
theorem activates_iff {issuers : List IssuerRow} {proofs : List DomainProofRow}
    {key : IssuerKey} {now : Int} {scopes : List HostScope} :
    activates issuers proofs key now scopes = true ↔
      issuerOk issuers key = true
        ∧ ∀ scope ∈ scopes, ∃ proof ∈ proofs, proof.issuer = key
            ∧ proofInForce now proof = true ∧ proofCoversHost proof scope = true := by
  rw [activates, Bool.and_eq_true, List.isEmpty_iff, missingHosts, List.filter_eq_nil_iff]
  simp only [Bool.not_eq_true', Bool.not_eq_false, List.any_eq_true, Bool.and_eq_true,
    decide_eq_true_eq, and_assoc]

/-- A domain without pattern characters is above the hosts that end in it. -/
theorem underDomain_iff {host domain : String} (hplain : LikePattern.Plain domain.toList) :
    underDomain host domain = true ↔ JsString.endsWith host ("." ++ domain) = true := by
  have hdotted : LikePattern.Plain ('.' :: domain.toList) := by
    intro c hc
    rcases List.mem_cons.mp hc with rfl | hmem
    · decide
    · exact hplain c hmem
  rw [underDomain, LikePattern.like_percent_plain hdotted, JsString.endsWith,
    List.isSuffixOf_iff_suffix, String.toList_append]
  exact Iff.rfl

end PolicyActivation
