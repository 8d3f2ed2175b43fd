import QrTrust.Backend.TrustProjection
import QrTrust.Lib.VersionedHistory

/-! # The management plane

    The mutations the management endpoints build, and the transaction that
    records one.  Of their statements the model has what they do to the tables
    the projection reads; audit log, outbox and idempotency keys are other
    tables.  Every builder whose statement changes a projected table bumps the
    trust state (`Built.bumps`), so committed states advance under the token
    (`since_of_recordGovernanceMutation`). -/

namespace ManagementPlane

open TrustProjection

/-! ## Statements -/

/-- The statement of a mutation, by what it does to the projected tables. -/
inductive StateStatement where
  | upsertIssuer (key : IssuerKey) (displayName : String)
  | upsertDomainProof (issuer : IssuerKey) (domain verificationStatus : String)
      (expiresAt : Option Datetime)
  | updateIssuerStatus (key : IssuerKey) (enrollmentStatus : String)
  | insertCertificate (certificateId : String) (issuer : IssuerKey) (algorithmId : String)
      (publicKeyMaterialPem : String) (notBefore : Datetime) (notAfter : Option Datetime)
  | updateCertificateStatus (certificateId keyStatus : String)
  | revokeCertificate (certificateId keyStatus : String) (revocationReason : Option String)
  /-- A statement on tables the projection does not read. -/
  | elsewhere (table : String)
  deriving DecidableEq, Repr

/-- `GovernanceMutation`. -/
structure GovernanceMutation where
  stateSql : StateStatement
  requireStateRows : Bool := false
  preconditionFailureDetail : String := "governance mutation precondition failed"
  trustStateBump : Bool := false
  deriving DecidableEq, Repr

/-- What the database server supplies: its clock, a fresh UUID, and the rows a
    statement changed in tables that are not modelled. -/
structure ServerValues where
  now : Datetime
  freshEpoch : String
  rowsElsewhere : Nat

/-- Why a mutation is not committed. -/
inductive MutationError where
  | constraintViolation
  | terminalKeyStatus
  | preconditionFailed (detail : String)
  deriving DecidableEq, Repr

/-- The tables with new contents, if those meet the constraints. -/
def withTables (db : Database) (issuers : List IssuerRow) (certificates : List CertificateRow)
    (domainProofs : List DomainProofRow) : Except MutationError Database :=
  if h : (issuers.map IssuerRow.key).Nodup
      ∧ (certificates.map CertificateRow.certificateId).Nodup
      ∧ (∀ row ∈ certificates, row.issuer ∈ issuers.map IssuerRow.key)
      ∧ (∀ row ∈ domainProofs, row.issuer ∈ issuers.map IssuerRow.key)
      ∧ ((domainProofs.filter DomainProofRow.current).map fun row =>
          (row.issuer, row.domain)).Nodup then
    .ok { issuers := issuers
          certificates := certificates
          domainProofs := domainProofs
          trustState := db.trustState
          issuers_key := h.1
          certificates_key := h.2.1
          certificates_issuer := h.2.2.1
          domainProofs_issuer := h.2.2.2.1
          domainProofs_current := h.2.2.2.2 }
  else .error .constraintViolation

/-- `enforce_terminal_key_status`, before an update of `key_status`. -/
def leavesRevoked (rows : List CertificateRow) (certificateId keyStatus : String) : Bool :=
  rows.any fun row =>
    row.certificateId = certificateId && row.keyStatus = "revoked" && keyStatus ≠ "revoked"

/-- An update of the status of one certificate. -/
def updateCertificates (db : Database) (certificateId keyStatus : String)
    (update : CertificateRow → CertificateRow) : Except MutationError Database :=
  if leavesRevoked db.certificates certificateId keyStatus then .error .terminalKeyStatus
  else
    withTables db db.issuers
      (db.certificates.map fun row =>
        if row.certificateId = certificateId then update { row with keyStatus := keyStatus }
        else row)
      db.domainProofs

/-- The statement's effect on the projected tables. -/
def execute (values : ServerValues) (db : Database) : StateStatement →
    Except MutationError Database
  | .upsertIssuer key displayName =>
      withTables db
        (if key ∈ db.issuers.map IssuerRow.key then
          db.issuers.map fun row =>
            if row.key = key then
              { row with displayName := displayName, enrollmentStatus := "pending" }
            else row
        else
          db.issuers ++
            [ { key := key
                displayName := displayName
                enrollmentStatus := "pending"
                allowSubdomains := false
                expiresAt := none
                createdAt := values.now } ])
        db.certificates db.domainProofs
  | .upsertDomainProof issuer domain verificationStatus expiresAt =>
      let matched := fun row : DomainProofRow =>
        row.issuer = issuer && row.domain = domain && row.current
      withTables db db.issuers db.certificates
        (if db.domainProofs.any matched then
          db.domainProofs.map fun row =>
            if matched row then
              { row with verificationStatus := verificationStatus, expiresAt := expiresAt }
            else row
        else db.domainProofs ++ [⟨issuer, domain, verificationStatus, expiresAt⟩])
  | .updateIssuerStatus key enrollmentStatus =>
      withTables db
        (db.issuers.map fun row =>
          if row.key = key then { row with enrollmentStatus := enrollmentStatus } else row)
        db.certificates db.domainProofs
  | .insertCertificate certificateId issuer algorithmId publicKeyMaterialPem notBefore notAfter =>
      withTables db db.issuers
        (db.certificates ++
          [ { certificateId := certificateId
              issuer := issuer
              algorithmId := algorithmId
              publicKeyMaterialPem := some publicKeyMaterialPem
              keyStatus := "active"
              notBefore := notBefore
              notAfter := notAfter
              revokedAt := none
              revocationReason := none } ])
        db.domainProofs
  | .updateCertificateStatus certificateId keyStatus =>
      updateCertificates db certificateId keyStatus id
  | .revokeCertificate certificateId keyStatus revocationReason =>
      updateCertificates db certificateId keyStatus fun row =>
        { row with revokedAt := some values.now, revocationReason := revocationReason }
  | .elsewhere _ => .ok db

/-- `changed_rows` of a statement that returns it. -/
def changedRows (values : ServerValues) (db : Database) : StateStatement → Nat
  | .updateIssuerStatus key _ => (db.issuers.filter fun row => row.key = key).length
  | .elsewhere _ => values.rowsElsewhere
  | _ => 1

/-- `bump_trust_state`. -/
def bumpTrustState (values : ServerValues) : Option TrustStateToken → TrustStateToken
  | none => ⟨values.freshEpoch, 1⟩
  | some token => ⟨token.epoch, token.version + 1⟩

/-- `record_governance_mutation`: the statement and the bump in one transaction. -/
def recordGovernanceMutation (values : ServerValues) (mutation : GovernanceMutation)
    (db : Database) : Except MutationError Database :=
  match execute values db mutation.stateSql with
  | .error exc => .error exc
  | .ok changed =>
      if mutation.requireStateRows ∧ changedRows values db mutation.stateSql = 0 then
        .error (.preconditionFailed mutation.preconditionFailureDetail)
      else if mutation.trustStateBump then
        .ok { changed with trustState := some (bumpTrustState values changed.trustState) }
      else .ok changed

/-! ## The builders -/

/-- `build_root_program_upsert_mutation`. -/
def buildRootProgramUpsertMutation : GovernanceMutation where
  stateSql := .elsewhere "root_programs"

/-- `build_delegated_authority_upsert_mutation`. -/
def buildDelegatedAuthorityUpsertMutation : GovernanceMutation where
  stateSql := .elsewhere "delegated_authorities"

/-- `build_issuer_enrollment_mutation`. -/
def buildIssuerEnrollmentMutation (key : IssuerKey) (displayName : String) :
    GovernanceMutation where
  stateSql := .upsertIssuer key displayName
  trustStateBump := true

/-- `build_domain_proof_upsert_mutation`. -/
def buildDomainProofUpsertMutation (issuer : IssuerKey) (domain verificationStatus : String)
    (expiresAt : Option Datetime) : GovernanceMutation where
  stateSql := .upsertDomainProof issuer domain verificationStatus expiresAt
  trustStateBump := true

/-- `build_issuer_status_update_mutation`. -/
def buildIssuerStatusUpdateMutation (key : IssuerKey) (enrollmentStatus : String) :
    GovernanceMutation where
  stateSql := .updateIssuerStatus key enrollmentStatus
  requireStateRows := true
  preconditionFailureDetail := "issuer status update requires an existing issuer enrollment"
  trustStateBump := true

/-- `build_destination_policy_upsert_mutation`. -/
def buildDestinationPolicyUpsertMutation : GovernanceMutation where
  stateSql := .elsewhere "destination_policies"
  requireStateRows := true
  preconditionFailureDetail :=
    "destination policy requires an active issuer and verified domain proof "
      ++ "for every approved host"

/-- `build_destination_policy_status_update_mutation`. -/
def buildDestinationPolicyStatusUpdateMutation : GovernanceMutation where
  stateSql := .elsewhere "destination_policies"
  requireStateRows := true
  preconditionFailureDetail :=
    "destination policy status update requires an existing destination policy"

/-- `build_trust_key_upsert_mutation`. -/
def buildTrustKeyUpsertMutation : GovernanceMutation where
  stateSql := .elsewhere "trust_keys"
  trustStateBump := true

/-- `build_issuer_certificate_enroll_mutation`. -/
def buildIssuerCertificateEnrollMutation (certificateId : String) (issuer : IssuerKey)
    (algorithmId publicKeyMaterialPem : String) (notBefore : Datetime)
    (notAfter : Option Datetime) : GovernanceMutation where
  stateSql :=
    .insertCertificate certificateId issuer algorithmId publicKeyMaterialPem notBefore notAfter
  trustStateBump := true

/-- `build_issuer_certificate_status_mutation`. -/
def buildIssuerCertificateStatusMutation (certificateId keyStatus : String)
    (revocationReason : Option String) : GovernanceMutation where
  stateSql :=
    if keyStatus = "revoked" then .revokeCertificate certificateId keyStatus revocationReason
    else .updateCertificateStatus certificateId keyStatus
  trustStateBump := true

/-- `build_trust_key_status_update_mutation`. -/
def buildTrustKeyStatusUpdateMutation : GovernanceMutation where
  stateSql := .elsewhere "trust_keys"
  requireStateRows := true
  preconditionFailureDetail := "trust key status update requires an existing trust key"
  trustStateBump := true

/-- `build_runtime_safety_provider_upsert_mutation`. -/
def buildRuntimeSafetyProviderUpsertMutation : GovernanceMutation where
  stateSql := .elsewhere "runtime_safety_providers"

/-- `build_nats_subscriber_authorization_mutation`. -/
def buildNatsSubscriberAuthorizationMutation : GovernanceMutation where
  stateSql := .elsewhere "nats_subscribers"

/-- The mutations the builders build. -/
inductive Built : GovernanceMutation → Prop
  | rootProgramUpsert : Built buildRootProgramUpsertMutation
  | delegatedAuthorityUpsert : Built buildDelegatedAuthorityUpsertMutation
  | issuerEnrollment (key displayName) : Built (buildIssuerEnrollmentMutation key displayName)
  | domainProofUpsert (issuer domain verificationStatus expiresAt) :
      Built (buildDomainProofUpsertMutation issuer domain verificationStatus expiresAt)
  | issuerStatusUpdate (key enrollmentStatus) :
      Built (buildIssuerStatusUpdateMutation key enrollmentStatus)
  | destinationPolicyUpsert : Built buildDestinationPolicyUpsertMutation
  | destinationPolicyStatusUpdate : Built buildDestinationPolicyStatusUpdateMutation
  | trustKeyUpsert : Built buildTrustKeyUpsertMutation
  | issuerCertificateEnroll (certificateId issuer algorithmId pem notBefore notAfter) :
      Built (buildIssuerCertificateEnrollMutation certificateId issuer algorithmId pem
        notBefore notAfter)
  | issuerCertificateStatus (certificateId keyStatus revocationReason) :
      Built (buildIssuerCertificateStatusMutation certificateId keyStatus revocationReason)
  | trustKeyStatusUpdate : Built buildTrustKeyStatusUpdateMutation
  | runtimeSafetyProviderUpsert : Built buildRuntimeSafetyProviderUpsertMutation
  | natsSubscriberAuthorization : Built buildNatsSubscriberAuthorizationMutation

/-! ## Committed states advance -/

/-- **BUMPS**: a built mutation bumps the trust state, or leaves the projected
    tables alone. -/
theorem Built.bumps {mutation : GovernanceMutation} (h : Built mutation) :
    mutation.trustStateBump = true ∨ ∃ table, mutation.stateSql = .elsewhere table := by
  cases h with
  | rootProgramUpsert => exact .inr ⟨_, rfl⟩
  | delegatedAuthorityUpsert => exact .inr ⟨_, rfl⟩
  | issuerEnrollment => exact .inl rfl
  | domainProofUpsert => exact .inl rfl
  | issuerStatusUpdate => exact .inl rfl
  | destinationPolicyUpsert => exact .inr ⟨_, rfl⟩
  | destinationPolicyStatusUpdate => exact .inr ⟨_, rfl⟩
  | trustKeyUpsert => exact .inl rfl
  | issuerCertificateEnroll => exact .inl rfl
  | issuerCertificateStatus => exact .inl rfl
  | trustKeyStatusUpdate => exact .inl rfl
  | runtimeSafetyProviderUpsert => exact .inr ⟨_, rfl⟩
  | natsSubscriberAuthorization => exact .inr ⟨_, rfl⟩

/-- The projected tables are the same. -/
structure SameTables (a b : Database) : Prop where
  issuers : a.issuers = b.issuers
  certificates : a.certificates = b.certificates
  domainProofs : a.domainProofs = b.domainProofs

/-- Committed states under the trust-state token; within an epoch the version
    counts up. -/
def trustStates : VersionedStates Database TrustStateToken where
  token := Database.trustState
  same := SameTables
  newer := fun t u => t.epoch = u.epoch ∧ t.version < u.version
  same_refl := fun _ => ⟨rfl, rfl, rfl⟩
  same_trans := fun _ _ _ h h' =>
    ⟨h.1.trans h'.1, h.2.trans h'.2, h.3.trans h'.3⟩
  newer_trans := fun _ _ _ h h' => ⟨h.1.trans h'.1, h.2.trans h'.2⟩
  newer_irrefl := fun _ h => Nat.lt_irrefl _ h.2

/-- No statement touches the trust state itself. -/
theorem withTables_trustState {db changed : Database} {issuers : List IssuerRow}
    {certificates : List CertificateRow} {domainProofs : List DomainProofRow}
    (h : withTables db issuers certificates domainProofs = .ok changed) :
    changed.trustState = db.trustState := by
  rw [withTables] at h
  split at h
  · obtain rfl := Except.ok.inj h
    rfl
  · cases h

theorem updateCertificates_trustState {db changed : Database} {certificateId keyStatus : String}
    {update : CertificateRow → CertificateRow}
    (h : updateCertificates db certificateId keyStatus update = .ok changed) :
    changed.trustState = db.trustState := by
  rw [updateCertificates] at h
  split at h
  · cases h
  · exact withTables_trustState h

theorem execute_trustState {values : ServerValues} {db changed : Database}
    {statement : StateStatement} (h : execute values db statement = .ok changed) :
    changed.trustState = db.trustState := by
  cases statement with
  | upsertIssuer => exact withTables_trustState h
  | upsertDomainProof => exact withTables_trustState h
  | updateIssuerStatus => exact withTables_trustState h
  | insertCertificate => exact withTables_trustState h
  | updateCertificateStatus => exact updateCertificates_trustState h
  | revokeCertificate =>
      rw [execute] at h
      exact updateCertificates_trustState h
  | elsewhere =>
      obtain rfl := Except.ok.inj h
      rfl

/-- A bump makes the token newer. -/
theorem newer_bumpTrustState (values : ServerValues) {before : Option TrustStateToken}
    {token : TrustStateToken} (h : before = some token) :
    trustStates.newer token (bumpTrustState values before) := by
  subst h
  exact ⟨rfl, Nat.lt_succ_self _⟩

/-- **ADVANCE**: a committed mutation leads to a later state. -/
theorem since_of_recordGovernanceMutation {values : ServerValues}
    {mutation : GovernanceMutation} (hbuilt : Built mutation) {db db' : Database}
    (h : recordGovernanceMutation values mutation db = .ok db') : trustStates.Since db db' := by
  rw [recordGovernanceMutation] at h
  cases hexecute : execute values db mutation.stateSql with
  | error exc => rw [hexecute] at h; cases h
  | ok changed =>
      simp only [hexecute] at h
      have htoken := execute_trustState hexecute
      split at h
      · cases h
      · split at h
        · obtain rfl := Except.ok.inj h
          exact .inr ⟨_, rfl, fun t ht => newer_bumpTrustState values (htoken.trans ht)⟩
        · rename_i hbump
          obtain rfl := Except.ok.inj h
          obtain ⟨table, htable⟩ := hbuilt.bumps.resolve_left hbump
          rw [htable] at hexecute
          obtain rfl := Except.ok.inj hexecute
          exact .refl _

end ManagementPlane
