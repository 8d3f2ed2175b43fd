import QrTrust.Lib.RowLocks
import QrTrust.Lib.Fallible
import QrTrust.Backend.IssuerCertificates

/-! # The lifecycle of keys

    The certificate and trust-key endpoints as concurrent sessions on the two key
    tables.  An enrolment looks its key up without a lock and inserts it in a later
    transaction; a status request locks the row, decides, and updates the row in
    the same transaction.  A session may leave at each point without its writes:
    its credential is refused, its idempotency key replays a result or is in use,
    a reference or the connection fails.

    Whatever the interleaving, a committed row changes along the transitions and
    in nothing else (`key_lifecycle`). -/

namespace KeyLifecycle

open IssuerCertificates TrustKeyEnrolment PostgresTrustKeys RowLocks
open TrustKeys (TrustKeyStatus)

/-! ## Sessions -/

/-- The primary key of a row of one of the two tables. -/
inductive KeyId where
  | certificate (certificateId : String)
  | trustKey (keyId : String)
  deriving DecidableEq, Repr

/-- A row of one of the two tables. -/
inductive KeyRow where
  | certificate (row : IssuerCertificateRow)
  | trustKey (row : TrustKeyRow)
  deriving DecidableEq, Repr

/-- A request, with the time its session is served at. -/
inductive KeyRequest where
  /-- `enroll_issuer_certificate` -/
  | enrollIssuerCertificate (request : IssuerCertificateEnrollRequest)
  /-- `update_issuer_certificate_status` -/
  | updateIssuerCertificateStatus (request : IssuerCertificateStatusRequest) (now : Datetime)
  /-- `upsert_trust_key` -/
  | upsertTrustKey (call : Served TrustKeyUpsertRequest)
  /-- `update_trust_key_status` -/
  | updateTrustKeyStatus (request : TrustKeyStatusUpdateRequest)

/-- Does a certificate request go on to its statement? -/
def certificateCheck (requested : CertificateStatus) : KeyRow → Bool
  | .certificate row => (decideCertificateStatus row requested).toOption = some .change
  | .trustKey _ => false

/-- The statement of a certificate request. -/
def certificateUpdate (now : Datetime) (requested : CertificateStatus)
    (revocationReason : Option String) : KeyRow → KeyRow
  | .certificate row => .certificate (certificateStatusUpdate now requested revocationReason row)
  | .trustKey row => .trustKey row

/-- `_TRUST_KEY_STATUS_LOOKUP`: the row of the key under the root. -/
def trustKeySees (rootProgramId : String) : KeyRow → Bool
  | .certificate _ => false
  | .trustKey row => row.rootProgramId = rootProgramId

/-- Does a trust-key request go on to its statement? -/
def trustKeyCheck (requested : TrustKeyStatus) : KeyRow → Bool
  | .certificate _ => false
  | .trustKey row => TrustKeyEnrolment.checkTransition row.keyStatus requested = .allowed

/-- The statement of a trust-key request. -/
def trustKeyUpdate (requested : TrustKeyStatus) : KeyRow → KeyRow
  | .certificate row => .certificate row
  | .trustKey row => .trustKey { row with keyStatus := requested }

/-- What a request is to do with one row, once its texts are in order. -/
def job (config : EnrollmentConfig) : KeyRequest → Except PyError (Job KeyId KeyRow)
  | .enrollIssuerCertificate request => do
      let row ← requestedCertificate config request
      return .insert (.certificate row.certificateId) (.certificate row)
  | .updateIssuerCertificateStatus request now => do
      let certificateId ←
        TrustKeyEnrolment.normalizeRequiredText request.certificateId "certificate_id is required"
      return .update (.certificate certificateId) (fun _ => true)
        (certificateCheck request.keyStatus)
        (certificateUpdate now request.keyStatus request.revocationReason)
  | .upsertTrustKey call => do
      let row ← requestedRow call
      return .insert (.trustKey row.keyId) (.trustKey row)
  | .updateTrustKeyStatus request => do
      let rootProgramId ←
        TrustKeyEnrolment.normalizeRequiredText request.rootProgramId "root program id is required"
      let keyId ← TrustKeyEnrolment.normalizeRequiredText request.keyId "trust key id is required"
      return .update (.trustKey keyId) (trustKeySees rootProgramId)
        (trustKeyCheck request.keyStatus) (trustKeyUpdate request.keyStatus)

/-- `enforce_terminal_key_status`, before an update of either table. -/
def terminalKeyStatus : KeyRow → KeyRow → Bool
  | .certificate old, .certificate new =>
      IssuerCertificates.enforceTerminalKeyStatus old.keyStatus new.keyStatus
  | .trustKey old, .trustKey new =>
      PostgresTrustKeys.enforceTerminalKeyStatus old.keyStatus new.keyStatus
  | _, _ => false

section Machine

variable {T : Type} [DecidableEq T]

/-- What each session is to do; a request whose texts are not in order never asks
    the database. -/
def jobs (config : EnrollmentConfig) (requests : T → KeyRequest) (t : T) :
    Option (Job KeyId KeyRow) :=
  (job config (requests t)).toOption

/-- The two tables under the sessions of some requests. -/
def machine (config : EnrollmentConfig) (requests : T → KeyRequest) :
    Runs.Machine (System T KeyId KeyRow) (Action T) (Action T) :=
  RowLocks.machine terminalKeyStatus (jobs config requests)

/-- What is committed for a key after some actions. -/
def rowAfter (config : EnrollmentConfig) (requests : T → KeyRequest)
    (committed : KeyId → Option KeyRow) (actions : List (Action T)) (key : KeyId) :
    Option KeyRow :=
  ((machine config requests).applyAll (start committed) actions).committed key

end Machine

/-! ## Changes of a row -/

/-- **SAME CERTIFICATE**: all but the status and what a revocation records. -/
def SameIdentity (old new : IssuerCertificateRow) : Prop :=
  new = { old with
    keyStatus := new.keyStatus, revokedAt := new.revokedAt
    revocationReason := new.revocationReason }

/-- A change of a certificate: along the transitions, out of `revoked` never, and
    into use only with key material. -/
structure CertificateChange (old new : IssuerCertificateRow) : Prop where
  identity : SameIdentity old new
  transition : new.keyStatus = old.keyStatus
    ∨ ∃ allowed, certificateTransitions old.keyStatus = some allowed ∧ new.keyStatus ∈ allowed
  terminal : old.keyStatus = "revoked" → new.keyStatus = "revoked"
  material : old.publicKeyMaterialPem = none →
    new.keyStatus = old.keyStatus ∨ new.keyStatus ∉ ["active", "rotated"]

/-- A change of a trust key. -/
structure TrustKeyChange (old new : TrustKeyRow) : Prop where
  identity : SameEnrolment old new
  transition : new.keyStatus = old.keyStatus ∨ new.keyStatus ∈ trustKeyTransitions old.keyStatus
  terminal : old.keyStatus = .revoked → new.keyStatus = .revoked

/-- **KEY CHANGE**: a key is enrolled, a certificate with its material, or its row
    changes as rows of its table may; no row is lost. -/
inductive KeyChange : Option KeyRow → Option KeyRow → Prop where
  | absent : KeyChange none none
  | enrolledCertificate {row : IssuerCertificateRow} (material : row.publicKeyMaterialPem ≠ none) :
      KeyChange none (some (.certificate row))
  | enrolledTrustKey (row : TrustKeyRow) : KeyChange none (some (.trustKey row))
  | certificate {old new : IssuerCertificateRow} (change : CertificateChange old new) :
      KeyChange (some (.certificate old)) (some (.certificate new))
  | trustKey {old new : TrustKeyRow} (change : TrustKeyChange old new) :
      KeyChange (some (.trustKey old)) (some (.trustKey new))

/-- **KEPT**: what an enrolled key keeps for good, its identity and a revocation. -/
inductive KeyKept : Option KeyRow → Option KeyRow → Prop where
  | absent (later : Option KeyRow) : KeyKept none later
  | certificate {old new : IssuerCertificateRow} (identity : SameIdentity old new)
      (terminal : old.keyStatus = "revoked" → new.keyStatus = "revoked") :
      KeyKept (some (.certificate old)) (some (.certificate new))
  | trustKey {old new : TrustKeyRow} (identity : SameEnrolment old new)
      (terminal : old.keyStatus = .revoked → new.keyStatus = .revoked) :
      KeyKept (some (.trustKey old)) (some (.trustKey new))

theorem SameIdentity.refl (row : IssuerCertificateRow) : SameIdentity row row := rfl

theorem SameIdentity.trans {a b c : IssuerCertificateRow} (h : SameIdentity a b)
    (h' : SameIdentity b c) : SameIdentity a c := by
  rw [SameIdentity] at h h' ⊢
  rw [h', h]

theorem CertificateChange.refl (row : IssuerCertificateRow) : CertificateChange row row :=
  ⟨.refl row, .inl rfl, id, fun _ => .inl rfl⟩

theorem TrustKeyChange.refl (row : TrustKeyRow) : TrustKeyChange row row :=
  ⟨.refl row, .inl rfl, id⟩

theorem KeyChange.refl : ∀ row, KeyChange row row
  | none => .absent
  | some (.certificate row) => .certificate (.refl row)
  | some (.trustKey row) => .trustKey (.refl row)

theorem KeyKept.refl : ∀ row, KeyKept row row
  | none => .absent none
  | some (.certificate row) => .certificate (.refl row) id
  | some (.trustKey row) => .trustKey (.refl row) id

theorem KeyKept.trans {a b c : Option KeyRow} (h : KeyKept a b) (h' : KeyKept b c) :
    KeyKept a c := by
  cases h with
  | absent later => exact .absent c
  | certificate identity terminal =>
      cases h' with
      | certificate identity' terminal' =>
          exact .certificate (identity.trans identity') fun h => terminal' (terminal h)
  | trustKey identity terminal =>
      cases h' with
      | trustKey identity' terminal' =>
          exact .trustKey (identity.trans identity') fun h => terminal' (terminal h)

/-- What changes a key keeps what it keeps for good. -/
theorem KeyChange.kept {old new : Option KeyRow} (h : KeyChange old new) : KeyKept old new := by
  cases h with
  | absent => exact .absent none
  | enrolledCertificate material => exact .absent _
  | enrolledTrustKey row => exact .absent _
  | certificate change => exact .certificate change.identity change.terminal
  | trustKey change => exact .trustKey change.identity change.terminal

/-! ## What a job does to a row -/

theorem certificateStatusUpdate_identity (now : Datetime) (requested : CertificateStatus)
    (revocationReason : Option String) (row : IssuerCertificateRow) :
    SameIdentity row (certificateStatusUpdate now requested revocationReason row)
      ∧ (certificateStatusUpdate now requested revocationReason row).keyStatus = requested.text := by
  rw [certificateStatusUpdate]
  split
  · exact ⟨rfl, rfl⟩
  · exact ⟨rfl, rfl⟩

/-- A statement that the endpoint decided on, and that the trigger lets pass,
    changes a certificate as certificates change. -/
theorem certificateChange {now : Datetime} {requested : CertificateStatus}
    {revocationReason : Option String} {row : IssuerCertificateRow}
    (hdecided : (decideCertificateStatus row requested).toOption = some .change)
    (hquiet : terminalKeyStatus (.certificate row)
      (certificateUpdate now requested revocationReason (.certificate row)) = false) :
    CertificateChange row (certificateStatusUpdate now requested revocationReason row) := by
  obtain ⟨hidentity, hstatus⟩ :=
    certificateStatusUpdate_identity now requested revocationReason row
  have hchange : decideCertificateStatus row requested = .ok .change := by
    cases hdecision : decideCertificateStatus row requested with
    | error exc =>
        rw [hdecision] at hdecided
        cases hdecided
    | ok decision =>
        rw [hdecision] at hdecided
        rw [Option.some.inj hdecided]
  obtain ⟨hedge, hmaterial⟩ := decideCertificateStatus_change hchange
  rw [certificateUpdate, terminalKeyStatus, IssuerCertificates.enforceTerminalKeyStatus,
    hstatus] at hquiet
  refine ⟨hidentity, .inr (hstatus ▸ hedge), fun hrevoked => ?_, fun hpem => ?_⟩
  · rw [hstatus]
    simpa [hrevoked] using hquiet
  · rw [hstatus]
    exact .inr (hmaterial hpem)

theorem trustKeyTransitions_of_allowed {current requested : TrustKeyStatus}
    (h : TrustKeyEnrolment.checkTransition current requested = .allowed) :
    requested ∈ trustKeyTransitions current := by
  rw [TrustKeyEnrolment.checkTransition] at h
  split at h
  · cases h
  · split at h
    · cases h
    · split at h
      · cases h
      · rename_i hmem
        exact not_not.mp hmem

/-- The same of a trust key. -/
theorem trustKeyChange {requested : TrustKeyStatus} {row : TrustKeyRow}
    (hallowed : TrustKeyEnrolment.checkTransition row.keyStatus requested = .allowed)
    (hquiet : terminalKeyStatus (.trustKey row) (trustKeyUpdate requested (.trustKey row)) = false) :
    TrustKeyChange row { row with keyStatus := requested } := by
  refine ⟨.withStatus row requested, .inr (trustKeyTransitions_of_allowed hallowed), fun hrevoked => ?_⟩
  rw [trustKeyUpdate, terminalKeyStatus, PostgresTrustKeys.enforceTerminalKeyStatus] at hquiet
  simpa [hrevoked] using hquiet

section Changes

variable {config : EnrollmentConfig} {request : KeyRequest} {key : KeyId} {row : KeyRow}
  {sees check : KeyRow → Bool} {change : KeyRow → KeyRow}

/-- A row that a request inserts is an enrolment. -/
theorem keyChange_of_insert (h : job config request = .ok (.insert key row)) :
    KeyChange none (some row) := by
  cases request with
  | enrollIssuerCertificate request =>
      obtain ⟨requested, hrequested, hjob⟩ := Fallible.bind_eq_ok_iff.mp h
      obtain ⟨-, rfl⟩ := Job.insert.inj (Except.ok.inj hjob)
      exact .enrolledCertificate (requestedCertificate_material hrequested)
  | updateIssuerCertificateStatus request now =>
      obtain ⟨certificateId, -, hjob⟩ := Fallible.bind_eq_ok_iff.mp h
      cases Except.ok.inj hjob
  | upsertTrustKey call =>
      obtain ⟨requested, -, hjob⟩ := Fallible.bind_eq_ok_iff.mp h
      obtain ⟨-, rfl⟩ := Job.insert.inj (Except.ok.inj hjob)
      exact .enrolledTrustKey requested
  | updateTrustKeyStatus request =>
      obtain ⟨rootProgramId, -, h⟩ := Fallible.bind_eq_ok_iff.mp h
      obtain ⟨keyId, -, hjob⟩ := Fallible.bind_eq_ok_iff.mp h
      cases Except.ok.inj hjob

/-- A row that a request updates, where its check held and the trigger was quiet,
    changes as rows of its table change. -/
theorem keyChange_of_update (h : job config request = .ok (.update key sees check change))
    (hchecked : check row = true) (hquiet : terminalKeyStatus row (change row) = false) :
    KeyChange (some row) (some (change row)) := by
  cases request with
  | enrollIssuerCertificate request =>
      obtain ⟨requested, -, hjob⟩ := Fallible.bind_eq_ok_iff.mp h
      cases Except.ok.inj hjob
  | updateIssuerCertificateStatus request now =>
      obtain ⟨certificateId, -, hjob⟩ := Fallible.bind_eq_ok_iff.mp h
      obtain ⟨-, -, rfl, rfl⟩ := Job.update.inj (Except.ok.inj hjob)
      cases row with
      | certificate row => exact .certificate (certificateChange (of_decide_eq_true hchecked) hquiet)
      | trustKey row => cases hchecked
  | upsertTrustKey call =>
      obtain ⟨requested, -, hjob⟩ := Fallible.bind_eq_ok_iff.mp h
      cases Except.ok.inj hjob
  | updateTrustKeyStatus request =>
      obtain ⟨rootProgramId, -, h⟩ := Fallible.bind_eq_ok_iff.mp h
      obtain ⟨keyId, -, hjob⟩ := Fallible.bind_eq_ok_iff.mp h
      obtain ⟨-, -, rfl, rfl⟩ := Job.update.inj (Except.ok.inj hjob)
      cases row with
      | certificate row => cases hchecked
      | trustKey row => exact .trustKey (trustKeyChange (of_decide_eq_true hchecked) hquiet)

end Changes

/-! ## Runs -/

section Runs

variable {T : Type} [DecidableEq T] {config : EnrollmentConfig} {requests : T → KeyRequest}

omit [DecidableEq T] in
theorem job_of_jobs {t : T} {planned : Job KeyId KeyRow}
    (h : jobs config requests t = some planned) : job config (requests t) = .ok planned := by
  rw [jobs] at h
  cases hjob : job config (requests t) with
  | error exc =>
      rw [hjob] at h
      cases h
  | ok found =>
      rw [hjob] at h
      rw [Option.some.inj h]

omit [DecidableEq T] in
/-- What a session commits changes a key as keys change. -/
theorem keyChange_of_change {key : KeyId} {old new : Option KeyRow}
    (h : Change terminalKeyStatus (jobs config requests) key old new) : KeyChange old new := by
  cases h with
  | same => exact .refl old
  | inserted planned => exact keyChange_of_insert (job_of_jobs planned)
  | updated planned checked quiet =>
      exact keyChange_of_update (job_of_jobs planned) checked quiet

variable (config requests)

/-- **KEY LIFECYCLE**: in every interleaving of the sessions of any requests, over
    any committed tables, each action changes a committed key as keys change, and
    between any two points of the run a key keeps its identity and a revocation. -/
theorem key_lifecycle (committed : KeyId → Option KeyRow) (before between : List (Action T))
    (action : Action T) (key : KeyId) :
    KeyChange (rowAfter config requests committed before key)
        (rowAfter config requests committed (before ++ [action]) key)
      ∧ KeyKept (rowAfter config requests committed before key)
        (rowAfter config requests committed (before ++ between) key) := by
  constructor
  · exact keyChange_of_change (change_run committed before action key)
  · exact run_keeps key KeyKept.refl (fun _ _ _ => KeyKept.trans)
      (fun _ _ h => (keyChange_of_change h).kept) committed before between

end Runs

/-- A certificate is enrolled and revoked; a request to suspend it waits for the
    revocation to commit, and is refused. -/
example :
    let enroll : IssuerCertificateEnrollRequest :=
      ⟨"cert:acme-demo:1", "issuer:acme-demo", "root:demo", "authority:demo", "rsa", "ref", "pem",
        .utc 0, some (.utc 1)⟩
    let requests : Fin 3 → KeyRequest
      | 0 => .enrollIssuerCertificate enroll
      | 1 => .updateIssuerCertificateStatus ⟨"cert:acme-demo:1", .revoked, none⟩ (.utc 0)
      | 2 => .updateIssuerCertificateStatus ⟨"cert:acme-demo:1", .suspended, none⟩ (.utc 0)
    (rowAfter ⟨1, false⟩ requests (fun _ => none)
        [.advance 0, .advance 0, .advance 0, .advance 1, .advance 2, .advance 1, .advance 1,
          .advance 2, .advance 2, .advance 2]
        (.certificate "cert:acme-demo:1")).map (fun
          | .certificate row => row.keyStatus
          | .trustKey _ => "") = some "revoked" := by
  decide +kernel

end KeyLifecycle
