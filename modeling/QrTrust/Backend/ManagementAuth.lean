import QrTrust.Backend.VerifierApiKeys
import QrTrust.Lib.Authority

/-! # Management credentials

    Keys, operators and role assignments, the principal that a key loads as,
    and the management requests that change them.  Every request loads its
    principal, checks one scope, and runs its statements in one transaction, so
    a request is one step on the tables. -/

namespace ManagementAuth

open VerifierApiKeys Authority

/-! ## The tables -/

/-- `OperatorStatus`. -/
inductive OperatorStatus where
  | active
  | suspended
  | retired
  deriving DecidableEq, Repr

/-- `OperatorRole`. -/
inductive OperatorRole where
  | rootAdmin
  | authorityAdmin
  | issuerAdmin
  | auditor
  | runtimeProviderAdmin
  | scannerClientAdmin
  | natsSubscriberAdmin
  deriving DecidableEq, Repr

/-- `OperatorRoleStatus`. -/
inductive OperatorRoleStatus where
  | active
  | suspended
  | revoked
  deriving DecidableEq, Repr

/-- A row of `qr_trust.operators`, apart from its `operator_id`. -/
structure OperatorRow where
  email : String
  displayName : String
  status : OperatorStatus
  deriving DecidableEq, Repr

/-- A row of `qr_trust.operator_role_assignments`. -/
structure AssignmentRow where
  operatorId : String
  role : OperatorRole
  rootProgramId : Option String
  delegatedAuthorityId : Option String
  issuerId : Option String
  status : OperatorRoleStatus
  deriving DecidableEq, Repr

/-- The tables; `keyOperators` is the `operator_id` column of the key table,
    under the key ids. -/
structure Tables where
  keys : ApiKeyTable
  keyOperators : OrderedMap String String
  operators : OrderedMap String OperatorRow
  assignments : List AssignmentRow

/-! ## Scopes -/

/-- The scope that stands for every scope. -/
def adminScope : String := "admin:*"

/-- `MANAGEMENT_KEY_SCOPE_SET`. -/
def managementKeyScopeSet : List String :=
  ["admin:*", "audit:read", "authority:write", "issuer:write", "management_keys:read",
    "management_keys:write", "nats:read", "nats:write", "operators:read", "operators:write",
    "outbox:read", "outbox:write", "policy:write", "root:write", "runtime:read", "runtime:write",
    "trust_keys:read", "trust_keys:write", "verifier_clients:read", "verifier_clients:write"]

/-- `_ROLE_SCOPE_GRANTS`. -/
def roleScopeGrants : OperatorRole → Finset String
  | .rootAdmin => {"admin:*"}
  | .authorityAdmin =>
      {"audit:read", "authority:write", "issuer:write", "outbox:read", "policy:write",
        "trust_keys:read", "trust_keys:write"}
  | .issuerAdmin => {"audit:read", "issuer:write", "policy:write"}
  | .auditor => {"audit:read", "outbox:read", "trust_keys:read"}
  | .runtimeProviderAdmin => {"audit:read", "runtime:read", "runtime:write"}
  | .scannerClientAdmin => {"audit:read", "verifier_clients:read", "verifier_clients:write"}
  | .natsSubscriberAdmin => {"audit:read", "nats:read", "nats:write", "outbox:read"}

/-- The scopes of the roles that are assigned to an operator. -/
def assignedScopes (assignments : List AssignmentRow) (operatorId : String) : Finset String :=
  ((assignments.filter fun row => row.operatorId = operatorId && row.status = .active).map
    fun row => roleScopeGrants row.role).foldr (· ∪ ·) ∅

/-- `_load_operator_role_scopes`. -/
def loadOperatorRoleScopes (tables : Tables) (operatorId : String) : Finset String :=
  if (tables.operators.get? operatorId).any (fun row => row.status = .active) then
    assignedScopes tables.assignments operatorId
  else ∅

/-- `_intersect_key_and_operator_scopes`. -/
def intersectKeyAndOperatorScopes (keyScopes operatorScopes : Finset String) : Finset String :=
  meet adminScope keyScopes operatorScopes

/-- The effective scopes of a key. -/
def effectiveScopes (tables : Tables) (keyId : String) (row : ApiKeyRow) : Finset String :=
  match tables.keyOperators.get? keyId with
  | none => row.scopes.toFinset
  | some operatorId =>
      intersectKeyAndOperatorScopes row.scopes.toFinset (loadOperatorRoleScopes tables operatorId)

/-! ## Principals -/

/-- `ManagementPrincipal`, of a key. -/
structure ManagementPrincipal where
  keyId : String
  operatorId : Option String
  scopes : Finset String
  deriving DecidableEq

/-- The `where` clause of `_MANAGEMENT_KEY_LOOKUP`, apart from the hash. -/
def loadable (row : ApiKeyRow) (now : Int) : Bool :=
  row.status = .active && !row.scopes.contains postgresVerifierScope
    && row.notBefore.all (· ≤ now) && row.expiresAt.all (now < ·)

/-- `load_management_principal`. -/
def loadManagementPrincipal (sha256Hex : String → String) (tables : Tables) (now : Int)
    (plaintextKey : String) : Option ManagementPrincipal :=
  let keyHash := sha256Hex plaintextKey
  (tables.keys.rows.entries.find? fun entry => entry.2.keyHash = keyHash && loadable entry.2 now).map
    fun entry =>
      { keyId := entry.1
        operatorId := tables.keyOperators.get? entry.1
        scopes := effectiveScopes tables entry.1 entry.2 }

/-- `require_scope`. -/
def requireScope (principal : ManagementPrincipal) (requiredScope : String) :
    Except PyError ManagementPrincipal :=
  if requiredScope ∈ principal.scopes ∨ "admin:*" ∈ principal.scopes then .ok principal
  else .error (.httpException 403 ("missing required scope: " ++ requiredScope))

/-- `_management_principal`, without bootstrap tokens. -/
def managementPrincipal (sha256Hex : String → String) (tables : Tables) (now : Int)
    (adminToken requiredScope : String) : Except PyError ManagementPrincipal :=
  match loadManagementPrincipal sha256Hex tables now adminToken with
  | none => .error (.httpException 401 "management credential required")
  | some principal => requireScope principal requiredScope

/-! ## Requests -/

/-- A management request. -/
inductive Request where
  /-- `issue_management_key`, with the key that is made for it -/
  | issueManagementKey (label : String) (scopes : List String) (operatorId : Option String)
      (expiresAt : Option Int) (plaintextKey : String)
  /-- `issue_verifier_client_api_key` -/
  | issueVerifierClientKey (label : String) (expiresAt : Option Int) (plaintextKey : String)
  /-- `revoke_management_key` -/
  | revokeManagementKey (keyId : String)
  /-- `revoke_verifier_client_api_key` -/
  | revokeVerifierClientKey (keyId : String)
  /-- `upsert_operator`, with the id that a new operator would get -/
  | upsertOperator (email displayName : String) (status : OperatorStatus) (freshId : String)
  /-- `upsert_operator_role_assignment` -/
  | upsertOperatorRoleAssignment (operatorId : String) (role : OperatorRole)
      (rootProgramId delegatedAuthorityId issuerId : Option String) (status : OperatorRoleStatus)
  deriving DecidableEq, Repr

/-- The scope that a request requires. -/
def Request.requiredScope : Request → String
  | issueManagementKey .. => "management_keys:write"
  | issueVerifierClientKey .. => "verifier_clients:write"
  | revokeManagementKey _ => "management_keys:write"
  | revokeVerifierClientKey _ => "verifier_clients:write"
  | upsertOperator .. => "operators:write"
  | upsertOperatorRoleAssignment .. => "operators:write"

/-- What the service takes from its host: the digest of a key, the lower case of
    a text, and the canonical form of a UUID. -/
structure Host where
  sha256Hex : String → String
  lower : String → String
  uuid : String → Option String

/-- `_optional_clean_text`. -/
def optionalCleanText (value : Option String) : Option String :=
  (value.map PyString.strip).filter (· ≠ "")

/-- `_normalize_required_text`. -/
def normalizeRequiredText (value emptyDetail : String) : Except PyError String :=
  let cleaned := PyString.strip value
  if cleaned ≠ "" then .ok cleaned else .error (.httpException 422 emptyDetail)

/-- `_normalize_text_items`. -/
def normalizeTextItems (values : List String) (emptyDetail : String) :
    Except PyError (List String) :=
  let normalized := (values.map PyString.strip).filter (· ≠ "")
  if normalized = [] then .error (.httpException 422 emptyDetail) else .ok normalized

/-- `_normalize_management_key_scopes`. -/
def normalizeManagementKeyScopes (scopes : List String) : Except PyError (List String) :=
  match normalizeTextItems scopes "at least one management key scope is required" with
  | .error exc => .error exc
  | .ok items =>
      let normalized := items.dedup.mergeSort (· ≤ ·)
      if postgresVerifierScope ∈ normalized then
        .error (.httpException 422 "management key scopes cannot include verifier:client")
      else
        match normalized.find? (· ∉ managementKeyScopeSet) with
        | some scope => .error (.httpException 422 ("unsupported management key scope: " ++ scope))
        | none => .ok normalized

/-- `_normalize_operator_id`. -/
def normalizeOperatorId (host : Host) (value : Option String) : Except PyError (Option String) :=
  match optionalCleanText value with
  | none => .ok none
  | some cleaned =>
      match host.uuid cleaned with
      | some uuid => .ok (some uuid)
      | none => .error (.httpException 422 "operator_id must be a valid UUID")

/-- A statement that does not execute. -/
def persistenceUnavailable : PyError :=
  .httpException 503 "management persistence unavailable"

/-- `_MANAGEMENT_KEY_INSERT`. -/
def insertManagementKey (tables : Tables) (keyId keyHash label : String)
    (operatorId : Option String) (scopes : List String) (now : Int) (expiresAt : Option Int) :
    Except PyError Tables :=
  match tables.keys.insert keyId
      { keyHash := keyHash, label := label, scopes := scopes, status := .active
        notBefore := none, expiresAt := expiresAt, createdAt := now } with
  | none => .error persistenceUnavailable
  | some keys =>
      match operatorId with
      | none => .ok { tables with keys := keys }
      | some operatorId =>
          if tables.operators.contains operatorId then
            .ok { tables with keys := keys, keyOperators := tables.keyOperators.set keyId operatorId }
          else .error persistenceUnavailable

/-- The revocation of a key that `ofKind` accepts. -/
def revokeKey (tables : Tables) (keyId : String) (ofKind : ApiKeyRow → Bool)
    (notFound : PyError) : Except PyError Tables :=
  if (tables.keys.find? keyId).any fun row => row.status = .active && ofKind row then
    .ok { tables with keys := tables.keys.setStatus keyId .revoked }
  else .error notFound

/-- The operator with an email address, or the one that an insert would make. -/
def operatorIdOf (tables : Tables) (email freshId : String) : String :=
  ((tables.operators.entries.find? fun entry => entry.2.email = email).map Prod.fst).getD freshId

/-- `_OPERATOR_UPSERT_QUERY`. -/
def upsertOperator (tables : Tables) (email displayName : String) (status : OperatorStatus)
    (freshId : String) : Except PyError Tables :=
  let operatorId := operatorIdOf tables email freshId
  let known := tables.operators.values.any fun row => row.email = email
  if !known && tables.operators.contains operatorId then .error persistenceUnavailable
  else
    .ok { tables with operators := tables.operators.set operatorId ⟨email, displayName, status⟩ }

/-- Is the row the assignment of the role to the operator in that scope? -/
def AssignmentRow.isFor (row : AssignmentRow) (operatorId : String) (role : OperatorRole)
    (rootProgramId delegatedAuthorityId issuerId : Option String) : Bool :=
  row.operatorId = operatorId && row.role = role
    && row.rootProgramId.getD "" = rootProgramId.getD ""
    && row.delegatedAuthorityId.getD "" = delegatedAuthorityId.getD ""
    && row.issuerId.getD "" = issuerId.getD ""

/-- `_OPERATOR_ROLE_ASSIGNMENT_UPSERT_QUERY`; `none` where there is no such
    operator. -/
def upsertOperatorRoleAssignment (tables : Tables) (operatorId : String) (role : OperatorRole)
    (rootProgramId delegatedAuthorityId issuerId : Option String) (status : OperatorRoleStatus) :
    Option Tables :=
  if tables.assignments.any fun row =>
      row.isFor operatorId role rootProgramId delegatedAuthorityId issuerId then
    some
      { tables with
        assignments := tables.assignments.map fun row =>
          if row.isFor operatorId role rootProgramId delegatedAuthorityId issuerId then
            { row with status := status }
          else row }
  else if tables.operators.contains operatorId then
    some
      { tables with
        assignments := tables.assignments
          ++ [⟨operatorId, role, rootProgramId, delegatedAuthorityId, issuerId, status⟩] }
  else none

/-- `_validate_role_scope`. -/
def validateRoleScope (role : OperatorRole)
    (rootProgramId delegatedAuthorityId issuerId : Option String) : Except PyError Unit :=
  match role with
  | .rootAdmin =>
      if rootProgramId.isNone then
        .error (.valueError "root_admin assignments require root_program_id")
      else if delegatedAuthorityId.isSome || issuerId.isSome then
        .error (.valueError
          "root_admin assignments cannot include delegated_authority_id or issuer_id")
      else .ok ()
  | .authorityAdmin =>
      if rootProgramId.isNone || delegatedAuthorityId.isNone then
        .error (.valueError
          "authority_admin assignments require root_program_id and delegated_authority_id")
      else if issuerId.isSome then
        .error (.valueError "authority_admin assignments cannot include issuer_id")
      else .ok ()
  | .issuerAdmin =>
      if rootProgramId.isNone then
        .error (.valueError "issuer_admin assignments require root_program_id")
      else if delegatedAuthorityId.isNone then
        .error (.valueError "issuer_admin assignments require delegated_authority_id")
      else if issuerId.isNone then
        .error (.valueError "issuer_admin assignments require issuer_id")
      else .ok ()
  | _ => .ok ()

/-- `_future_expires_at`. -/
def futureExpiresAt (now : Int) (expiresAt : Option Int) : Except PyError Unit :=
  if expiresAt.all (now < ·) then .ok ()
  else .error (.valueError "expires_at must be in the future")

/-- The key id of a management key. -/
def managementKeyId (keyHash : String) : String :=
  "mkey_" ++ String.ofList (keyHash.toList.take 24)

/-- What a request makes of its texts before it asks the database: the statement
    that it will run. -/
def prepare (host : Host) (now : Int) : Request → Except PyError (Tables → Except PyError Tables)
  | .issueManagementKey label scopes operatorId expiresAt plaintextKey => do
      futureExpiresAt now expiresAt
      let label ← normalizeRequiredText label "management key label is required"
      let scopes ← normalizeManagementKeyScopes scopes
      let operatorId ← normalizeOperatorId host operatorId
      let keyHash := host.sha256Hex plaintextKey
      .ok fun tables =>
        insertManagementKey tables (managementKeyId keyHash) keyHash label operatorId scopes now
          expiresAt
  | .issueVerifierClientKey label expiresAt plaintextKey => do
      futureExpiresAt now expiresAt
      let label ← normalizeRequiredText label "verifier client key label is required"
      let keyHash := host.sha256Hex plaintextKey
      .ok fun tables =>
        insertManagementKey tables (buildVerifierClientKeyId keyHash) keyHash label none
          [postgresVerifierScope] now expiresAt
  | .revokeManagementKey keyId =>
      .ok fun tables =>
        revokeKey tables keyId (fun row => !row.scopes.contains postgresVerifierScope)
          (.httpException 404 "management key not found")
  | .revokeVerifierClientKey keyId =>
      .ok fun tables =>
        revokeKey tables keyId (fun row => row.scopes.contains postgresVerifierScope)
          (.httpException 404 "verifier client key not found")
  | .upsertOperator email displayName status freshId => do
      let email ← normalizeRequiredText email "operator email is required"
      let displayName ← normalizeRequiredText displayName "operator display name is required"
      .ok fun tables => upsertOperator tables (host.lower email) displayName status freshId
  | .upsertOperatorRoleAssignment operatorId role rootProgramId delegatedAuthorityId issuerId
      status => do
      let rootProgramId := optionalCleanText rootProgramId
      let delegatedAuthorityId := optionalCleanText delegatedAuthorityId
      let issuerId := optionalCleanText issuerId
      validateRoleScope role rootProgramId delegatedAuthorityId issuerId
      match ← normalizeOperatorId host (some operatorId) with
      | none => .error (.httpException 422 "operator_id must be a valid UUID")
      | some operatorId =>
          .ok fun tables =>
            match upsertOperatorRoleAssignment tables operatorId role rootProgramId
                delegatedAuthorityId issuerId status with
            | none => .error (.httpException 404 "operator not found")
            | some changed => .ok changed

/-! ## Steps -/

/-- A request with its credential and the time of the server. -/
structure Step where
  request : Request
  adminToken : String
  now : Int

/-- A management request: its texts, its principal and scope, its statement. -/
def handle (host : Host) (tables : Tables) (step : Step) :
    Except PyError (ManagementPrincipal × Tables) := do
  let statement ← prepare host step.now step.request
  let principal ← managementPrincipal host.sha256Hex tables step.now step.adminToken
    step.request.requiredScope
  let changed ← statement tables
  .ok (principal, changed)

/-- The tables after a request; one that raises leaves them. -/
def apply (host : Host) (tables : Tables) (step : Step) : Tables :=
  match handle host tables step with
  | .ok (_, changed) => changed
  | .error _ => tables

/-- The management plane, as a machine that serves one request at a time. -/
def machine (host : Host) : Runs.Machine Tables Step Step where
  plan _ step := [step]
  apply := apply host

end ManagementAuth
