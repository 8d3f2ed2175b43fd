import QrTrust.Backend.TrustKeyEnrolment
import QrTrust.Backend.TrustProjection

/-! # Issuer certificates

    The requests of the two certificate endpoints: the row that an enrolment asks
    for, and what a status request may do to the row it finds. -/

namespace IssuerCertificates

open TrustProjection (IssuerKey CertificateRow)
open TrustKeyEnrolment (TransitionCheck normalizeRequiredText timezoneAwareDatetime)

/-- A row of `qr_trust.issuer_certificates`, with the column that the projection
    does not read. -/
structure IssuerCertificateRow extends CertificateRow where
  publicKeyRef : String
  deriving DecidableEq, Repr

/-- `IssuerCertificateEnrollRequest`. -/
structure IssuerCertificateEnrollRequest where
  certificateId : String
  issuerId : String
  rootProgramId : String
  delegatedAuthorityId : String
  algorithmId : String
  publicKeyRef : String
  publicKeyMaterialPem : String
  notBefore : Datetime
  notAfter : Option Datetime

/-- The statuses that a status request may name. -/
inductive CertificateStatus where
  | active
  | rotated
  | suspended
  | revoked
  | expired
  deriving DecidableEq, Repr

/-- The text of a status. -/
def CertificateStatus.text : CertificateStatus → String
  | active => "active"
  | rotated => "rotated"
  | suspended => "suspended"
  | revoked => "revoked"
  | expired => "expired"

/-- `IssuerCertificateStatusRequest`. -/
structure IssuerCertificateStatusRequest where
  certificateId : String
  keyStatus : CertificateStatus
  revocationReason : Option String

/-- `IssuerCertificateMutationResponse`. -/
structure IssuerCertificateMutationResponse where
  certificateId : String
  issuerId : String
  keyStatus : String
  eventType : String
  deriving DecidableEq, Repr

/-- The settings of `config` that enrolments read. -/
structure EnrollmentConfig where
  maxCertValidityDays : Nat
  allowOpenEndedEnrollment : Bool

/-! ## Enrolment -/

/-- `timedelta(days=days)`, in microseconds. -/
def days (count : Nat) : Int := count * 86400000000

/-- The validity window that an enrolment may ask for. -/
def checkValidityWindow (config : EnrollmentConfig) (notBefore : Datetime)
    (notAfter : Option Datetime) : Except PyError Unit :=
  match notAfter with
  | none =>
      if config.allowOpenEndedEnrollment then .ok ()
      else
        .error (.httpException 422 ("open-ended certificates are disabled; provide not_after or "
          ++ "enable QR_TRUST_ALLOW_OPEN_ENDED_ENROLLMENT"))
  | some notAfter =>
      if notAfter.instant ≤ notBefore.instant then
        .error (.httpException 422 "not_after must fall after not_before")
      else if days config.maxCertValidityDays < notAfter.instant - notBefore.instant then
        .error (.httpException 422 ("validity window exceeds QR_TRUST_MAX_CERT_VALIDITY_DAYS ("
          ++ toString config.maxCertValidityDays ++ " days)"))
      else .ok ()

/-- The row an enrolment asks for, once its texts are clean and its window fits. -/
def requestedCertificate (config : EnrollmentConfig) (request : IssuerCertificateEnrollRequest) :
    Except PyError IssuerCertificateRow := do
  timezoneAwareDatetime (some request.notBefore) "not_before"
  timezoneAwareDatetime request.notAfter "not_after"
  let certificateId ← normalizeRequiredText request.certificateId "certificate_id is required"
  let issuerId ← normalizeRequiredText request.issuerId "issuer_id is required"
  let rootProgramId ← normalizeRequiredText request.rootProgramId "root_program_id is required"
  let delegatedAuthorityId ←
    normalizeRequiredText request.delegatedAuthorityId "delegated_authority_id is required"
  let algorithmId ← normalizeRequiredText request.algorithmId "algorithm_id is required"
  let publicKeyRef ← normalizeRequiredText request.publicKeyRef "public_key_ref is required"
  let publicKeyMaterialPem ←
    normalizeRequiredText request.publicKeyMaterialPem "public_key_material_pem is required"
  if !PyString.startswith certificateId "cert:acme-demo:" then
    .error (.httpException 422 "certificate id must use the 'cert:acme-demo:' demo prefix")
  else if issuerId ≠ "issuer:acme-demo" then
    .error (.httpException 422
      "certificate enrollment is scoped to issuer 'issuer:acme-demo' in this POC")
  else
    checkValidityWindow config request.notBefore request.notAfter
    return { certificateId
             issuer := ⟨rootProgramId, delegatedAuthorityId, issuerId⟩
             algorithmId
             publicKeyMaterialPem := some publicKeyMaterialPem
             keyStatus := "active"
             notBefore := request.notBefore
             notAfter := request.notAfter
             revokedAt := none
             revocationReason := none
             publicKeyRef }

/-- `str(value)` of a text or `None`. -/
def strOfOptional (value : Option String) : String := value.getD "None"

/-- `existing_identity == requested_identity`; datetimes are equal as instants. -/
def sameCertificate (existing requested : IssuerCertificateRow) : Bool :=
  existing.issuer = requested.issuer
    && existing.algorithmId = requested.algorithmId
    && existing.publicKeyRef = requested.publicKeyRef
    && strOfOptional existing.publicKeyMaterialPem = strOfOptional requested.publicKeyMaterialPem
    && existing.notBefore.instant = requested.notBefore.instant
    && existing.notAfter.map Datetime.instant = requested.notAfter.map Datetime.instant

/-- What the replay lookup of an enrolment answers, where it finds a row. -/
def replayedCertificate (existing requested : IssuerCertificateRow) :
    Except PyError IssuerCertificateMutationResponse :=
  if sameCertificate existing requested then
    .ok ⟨requested.certificateId, requested.issuer.issuerId, existing.keyStatus,
      "issuer_certificate.replayed"⟩
  else
    .error (.httpException 409 ("certificate '" ++ requested.certificateId
      ++ "' already enrolled with a different identity"))

/-! ## Status changes -/

/-- `CERTIFICATE_TRANSITIONS`. -/
def certificateTransitions : String → Option (List String)
  | "active" => some ["rotated", "suspended", "revoked", "expired"]
  | "rotated" => some ["suspended", "revoked", "expired"]
  | "suspended" => some ["active", "rotated", "revoked", "expired"]
  | "revoked" => some []
  | "expired" => some ["revoked"]
  | _ => none

/-- `check_transition`. -/
def checkTransition (transitions : String → Option (List String)) (current requested : String) :
    TransitionCheck :=
  if requested = current then .noop
  else
    match transitions current with
    | none => .disallowed ("unknown current status '" ++ current ++ "'")
    | some allowed =>
        if allowed = [] then .terminal
        else if requested ∉ allowed then
          .disallowed ("transition '" ++ current ++ "' -> '" ++ requested ++ "' is not allowed")
        else .allowed

/-- What a status request does to the row it finds. -/
inductive StatusDecision where
  | unchanged
  | change
  deriving DecidableEq, Repr

/-- What `update_issuer_certificate_status` decides over the row it has locked. -/
def decideCertificateStatus (row : IssuerCertificateRow) (requested : CertificateStatus) :
    Except PyError StatusDecision :=
  match checkTransition certificateTransitions row.keyStatus requested.text with
  | .noop => .ok .unchanged
  | .terminal => .error (.httpException 409 "revocation is terminal")
  | .disallowed detail => .error (.httpException 409 detail)
  | .allowed =>
      if requested.text ∈ ["active", "rotated"] ∧ row.publicKeyMaterialPem = none then
        .error (.httpException 409 ("certificate '" ++ row.certificateId
          ++ "' has no usable material; revoke and re-enroll"))
      else .ok .change

/-- The statement of `build_issuer_certificate_status_mutation`, on its row. -/
def certificateStatusUpdate (now : Datetime) (requested : CertificateStatus)
    (revocationReason : Option String) (row : IssuerCertificateRow) : IssuerCertificateRow :=
  if requested = .revoked then
    { row with
      keyStatus := requested.text, revokedAt := some now, revocationReason := revocationReason }
  else { row with keyStatus := requested.text }

/-- `enforce_terminal_key_status`: does the trigger raise? -/
def enforceTerminalKeyStatus (old new : String) : Bool := old = "revoked" && new ≠ "revoked"

/-! ## What a decision allows -/

/-- A transition that the check allows is one of the table. -/
theorem checkTransition_allowed {transitions : String → Option (List String)}
    {current requested : String} (h : checkTransition transitions current requested = .allowed) :
    ∃ allowed, transitions current = some allowed ∧ requested ∈ allowed := by
  rw [checkTransition] at h
  split at h
  · cases h
  · split at h
    · cases h
    · rename_i allowed hallowed
      split at h
      · cases h
      · split at h
        · cases h
        · rename_i hmem
          exact ⟨allowed, hallowed, not_not.mp hmem⟩

/-- A change is along the transitions, and a row without material is not put in
    use. -/
theorem decideCertificateStatus_change {row : IssuerCertificateRow} {requested : CertificateStatus}
    (h : decideCertificateStatus row requested = .ok .change) :
    (∃ allowed, certificateTransitions row.keyStatus = some allowed ∧ requested.text ∈ allowed)
      ∧ (row.publicKeyMaterialPem = none → requested.text ∉ ["active", "rotated"]) := by
  rw [decideCertificateStatus] at h
  split at h
  · cases h
  · cases h
  · cases h
  · rename_i hallowed
    split at h
    · cases h
    · rename_i hmaterial
      exact ⟨checkTransition_allowed hallowed, fun hpem hmem => hmaterial ⟨hmem, hpem⟩⟩

/-- An enrolment asks for a row with material. -/
theorem requestedCertificate_material {config : EnrollmentConfig}
    {request : IssuerCertificateEnrollRequest} {row : IssuerCertificateRow}
    (h : requestedCertificate config request = .ok row) : row.publicKeyMaterialPem ≠ none := by
  rw [requestedCertificate] at h
  simp only [bind, Except.bind] at h
  -- each check in turn, down to the row
  repeat (split at h; · cases h)
  obtain rfl := Except.ok.inj h
  exact Option.some_ne_none _

end IssuerCertificates
