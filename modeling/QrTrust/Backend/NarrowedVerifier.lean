import QrTrust.Backend.PayloadRevalidation
import QrTrust.Backend.TrustStore

/-! # The narrowed verifier

    Blocking states, the signature, the time windows and the payload, in this
    order.  The first of them that refuses gives the result. -/

namespace NarrowedVerifier

open SignedSchema TrustStore PayloadRevalidation

/-- `ACCEPTED_REASON`. -/
def acceptedReason : String :=
  "Signed schema verified, artifact is inside its validity window, "
    ++ "and destination matches the issuer's current verified state"

/-- `TrustContext`. -/
structure TrustContext where
  key : KeyEntry
  issuer : IssuerRecord
  skewSeconds : Int

/-- `NarrowedVerificationResult`. -/
structure NarrowedVerificationResult where
  allowed : Bool
  stage : String
  reason : String
  canonicalClaimsSha256 : Option String
  matchedRule : Option String
  cause : Option String
  matchedDomain : Option String
  deriving DecidableEq, Repr

/-- The result of a rule of the trust store that refuses. -/
def ofTrustRule (claimsDigest : String) (result : TrustRuleResult) :
    NarrowedVerificationResult :=
  { allowed := false
    stage := result.stage
    reason := result.reason
    canonicalClaimsSha256 := some claimsDigest
    matchedRule := none
    cause := result.cause
    matchedDomain := none }

/-- The result of the payload's decision. -/
def ofMatchDecision (claimsDigest : String) (decision : MatchDecision) :
    NarrowedVerificationResult :=
  { allowed := decision.allowed
    stage := if decision.allowed then "accepted" else "payload_revalidation"
    reason := if decision.allowed then acceptedReason else decision.reason
    canonicalClaimsSha256 := some claimsDigest
    matchedRule := decision.matchedRule
    cause := if decision.allowed then none else decision.cause
    matchedDomain := decision.matchedDomain }

variable (py : PyRuntime)

/-- The time windows and the payload, once the signature has been verified. -/
def verifyInForce (policyFile : Option PolicyFile) (claims : SignedQRCodeClaims)
    (trust : TrustContext) (now : Datetime) : Except PyError NarrowedVerificationResult := do
  let claimsDigest := canonicalClaimsSha256 py claims
  let timeResult ← evaluateTimeWindows py now claims trust.key trust.issuer trust.skewSeconds
  if timeResult.allowed then
    let payloadDecision ← matchPayloadToVerifiedDomains py policyFile claims.payload
      trust.issuer.verifiedDomains trust.issuer.allowSubdomains now
    return ofMatchDecision claimsDigest payloadDecision
  else
    return ofTrustRule claimsDigest timeResult

/-- `NarrowedVerifierService.verify_presented_code`, at the clock `now`. -/
def verifyPresentedCode (config : BackendConfig) (policyFile : Option PolicyFile)
    (envelope : SignedQRCodeEnvelope) (certificate : CertificateAuthorityRecord)
    (trust : TrustContext) (now : Datetime) : Except PyError NarrowedVerificationResult :=
  let claimsDigest := canonicalClaimsSha256 py envelope.claims
  match evaluateBlockingStates trust.key trust.issuer with
  | some blocking => .ok (ofTrustRule claimsDigest blocking)
  | none =>
      if trust.key.publicKeyPem = none then
        .ok (ofTrustRule claimsDigest
          (refusal "key_status" "trust-state-unavailable"
            "Signing key has no public material available for verification"))
      else
        match verifySignedEnvelope py config envelope certificate with
        | .error exc => .error exc
        | .ok schemaDecision =>
            if schemaDecision.allowed then
              verifyInForce py policyFile envelope.claims trust now
            else
              .ok
                { allowed := false
                  stage := "signed_schema"
                  reason := schemaDecision.reason
                  canonicalClaimsSha256 := some claimsDigest
                  matchedRule := none
                  cause := none
                  matchedDomain := none }

/-! ## The verdict of a result -/

/-- What a verdict is compared by: was the code allowed, at which stage was it
    decided, and for what cause. -/
structure Verdict where
  allowed : Bool
  stage : String
  cause : Option String
  deriving DecidableEq, Repr

/-- The verdict of a result. -/
def NarrowedVerificationResult.verdict (result : NarrowedVerificationResult) : Verdict :=
  ⟨result.allowed, result.stage, result.cause⟩

end NarrowedVerifier
