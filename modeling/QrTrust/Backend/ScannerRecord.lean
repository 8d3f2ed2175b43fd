import QrTrust.Backend.VerdictCache

/-! # The record of a scan

    A scan writes the key and the issuer it resolved into the request models of
    the verifier, which check what is written, and reads the trust context back
    from them.  What `isoformat` writes is a parameter. -/

namespace TrustStore

variable (py : PyRuntime)

/-- `evaluate_trust_window`. -/
def evaluateTrustWindow (now : Datetime) (claims : SignedSchema.SignedQRCodeClaims) (key : KeyEntry)
    (issuer : IssuerRecord) (skewSeconds : Int) : Except PyError TrustRuleResult :=
  match evaluateBlockingStates key issuer with
  | some blocking => .ok blocking
  | none => evaluateTimeWindows py now claims key issuer skewSeconds

end TrustStore

namespace ScannerRecord

open SignedSchema TrustStore DestinationCanonicalization NarrowedVerifier VerdictCache

/-! ## The request models -/

/-- `TRUST_REF_MAX_LENGTH`. -/
def trustRefMaxLength : Nat := 256

/-- `TRUST_REASON_MAX_LENGTH`. -/
def trustReasonMaxLength : Nat := 512

/-- `Field(min_length=least, max_length=most)`; pydantic refuses with a `ValueError`
    that names the field. -/
def boundedField (field : String) (least most : Nat) (value : String) : Except PyError Unit :=
  if least ≤ PyString.len value ∧ PyString.len value ≤ most then .ok ()
  else .error (.valueError field)

/-- The same of a field that may be null. -/
def boundedOptionalField (field : String) (least most : Nat) (value : Option String) :
    Except PyError Unit :=
  match value with
  | none => .ok ()
  | some text => boundedField field least most text

/-- `CertificateRecordInput(…)`. -/
def certificateRecordInput (input : CertificateRecordInput) :
    Except PyError CertificateRecordInput := do
  boundedField "certificate_ref" 1 trustRefMaxLength input.certificateRef
  boundedField "issuer_name" 1 trustRefMaxLength input.issuerName
  boundedField "algorithm_id" 1 64 input.algorithmId
  boundedOptionalField "public_key_pem" 1 8192 input.publicKeyPem
  return input

variable (py : PyRuntime)

/-- `IssuerVerificationStateInput(…)`. -/
def issuerVerificationStateInput (input : IssuerVerificationStateInput) :
    Except PyError IssuerVerificationStateInput := do
  let verifiedDomains ← (canonicalizeVerifiedDomainMap py input.verifiedDomains false).mapError
    fun exc => .valueError ((exc.asValueError).getD "")
  boundedOptionalField "certificate_revocation_reason" 0 trustReasonMaxLength
    input.certificateRevocationReason
  boundedOptionalField "issuer_record_issued_at" 0 64 input.issuerRecordIssuedAt
  boundedOptionalField "issuer_record_expires_at" 0 64 input.issuerRecordExpiresAt
  boundedOptionalField "key_not_before" 0 64 input.keyNotBefore
  boundedOptionalField "key_not_after" 0 64 input.keyNotAfter
  boundedOptionalField "key_revocation_reason" 0 trustReasonMaxLength input.keyRevocationReason
  return { input with verifiedDomains := verifiedDomains }

/-! ## The record -/

/-- `ScannerTrustRecord`. -/
structure ScannerTrustRecord (Governance : Type) where
  certificate : CertificateRecordInput
  issuerState : IssuerVerificationStateInput
  governance : Option Governance

variable (isoformat : Datetime → String) {Governance Defect : Type}

/-- The certificate of a resolved key and issuer. -/
def certificateOf (key : KeyEntry) (issuer : IssuerRecord) : CertificateRecordInput where
  certificateRef := key.keyRef
  issuerName := issuer.issuerName
  algorithmId := key.algorithmId
  publicKeyPem := key.publicKeyPem

/-- The state of a resolved key and issuer. -/
def issuerStateOf (key : KeyEntry) (issuer : IssuerRecord) : IssuerVerificationStateInput where
  verifiedDomains := issuer.verifiedDomains
  allowSubdomains := issuer.allowSubdomains
  certificateActive := issuer.status = .active
  certificateRevoked := issuer.status = .revoked
  certificateRevocationReason := key.revocationReason
  issuerStatus := some issuer.status
  issuerRecordIssuedAt := some (isoformat issuer.issuedAt)
  issuerRecordExpiresAt := issuer.expiresAt.map isoformat
  keyState := some key.state
  keyNotBefore := some (isoformat key.notBefore)
  keyNotAfter := key.notAfter.map isoformat
  keyRevocationReason := key.revocationReason

/-- `_scanner_record_for`. -/
def scannerRecordFor (store : ScannerTrustStore Governance Defect) (keyRef : String) :
    Except PyError (Option (ScannerTrustRecord Governance)) :=
  match store.resolve keyRef with
  | none => .ok none
  | some (key, issuer) => do
      let certificate ← certificateRecordInput (certificateOf key issuer)
      let issuerState ← issuerVerificationStateInput py (issuerStateOf isoformat key issuer)
      return some ⟨certificate, issuerState, store.governanceFor issuer.issuerId⟩

/-- The authority record that the verifier makes of a certificate. -/
def authorityRecord (certificate : CertificateRecordInput) : CertificateAuthorityRecord where
  certificateRef := certificate.certificateRef
  issuerName := certificate.issuerName
  algorithmId := certificate.algorithmId
  publicKeyPem := certificate.publicKeyPem

/-- The trust context that a scan is decided in; `none` for an unknown issuer. -/
def scannedTrust (config : BackendConfig) (store : ScannerTrustStore Governance Defect)
    (keyRef : String) : Except PyError (Option TrustContext) := do
  match ← scannerRecordFor py isoformat store keyRef with
  | none => return none
  | some record =>
      let trust ← trustContextFromState py config (authorityRecord record.certificate)
        record.issuerState
      return some trust

end ScannerRecord
