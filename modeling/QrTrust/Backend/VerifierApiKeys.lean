import QrTrust.Backend.PyRuntime
import QrTrust.Lib.Runs

/-! # Verifier API keys

    The key table, the statements of the verifier key service on it, and the
    check that a verifier request passes.  A request of the service runs its
    statements one by one, each on a connection of its own, so the state keeps
    how far every request has come and any other statement may run in
    between. -/

namespace VerifierApiKeys

/-! ## The table -/

/-- `POSTGRES_VERIFIER_SCOPE`. -/
def postgresVerifierScope : String := "verifier:client"

/-- The values `management_api_keys.status` admits. -/
inductive KeyStatus where
  | active
  | revoked
  | expired
  deriving DecidableEq, Repr

/-- A row of `qr_trust.management_api_keys`, apart from its `key_id`. -/
structure ApiKeyRow where
  keyHash : String
  label : String
  scopes : List String
  status : KeyStatus
  notBefore : Option Int
  expiresAt : Option Int
  createdAt : Int
  deriving DecidableEq, Repr

/-- The table: its rows under their `key_id`, no two with the same hash. -/
structure ApiKeyTable where
  rows : OrderedMap String ApiKeyRow
  keyHashUnique : ∀ keyId keyId' row row', (keyId, row) ∈ rows.entries →
    (keyId', row') ∈ rows.entries → row.keyHash = row'.keyHash → keyId = keyId'

namespace ApiKeyTable

/-- The table without rows. -/
def empty : ApiKeyTable := ⟨.empty, fun _ _ _ _ h => absurd h List.not_mem_nil⟩

/-- The row with a key id. -/
def find? (table : ApiKeyTable) (keyId : String) : Option ApiKeyRow := table.rows.get? keyId

/-- Insert a row, unless its id or its hash is taken. -/
def insert (table : ApiKeyTable) (keyId : String) (row : ApiKeyRow) : Option ApiKeyTable :=
  if h : keyId ∉ table.rows.keys ∧ ∀ other ∈ table.rows.values, other.keyHash ≠ row.keyHash then
    some
      { rows := table.rows.set keyId row
        keyHashUnique := by
          intro id id' r r' hr hr' hhash
          rcases (OrderedMap.mem_set ..).mp hr with ⟨rfl, rfl⟩ | ⟨-, hold⟩ <;>
            rcases (OrderedMap.mem_set ..).mp hr' with ⟨rfl, rfl⟩ | ⟨-, hold'⟩
          · rfl
          · exact absurd hhash.symm (h.2 r' (OrderedMap.mem_values.mpr ⟨id', hold'⟩))
          · exact absurd hhash (h.2 r (OrderedMap.mem_values.mpr ⟨id, hold⟩))
          · exact table.keyHashUnique id id' r r' hold hold' hhash }
  else none

/-- Change the status of the row with a key id. -/
def setStatus (table : ApiKeyTable) (keyId : String) (status : KeyStatus) : ApiKeyTable where
  rows := table.rows.update fun id row => if id = keyId then { row with status := status } else row
  keyHashUnique := by
    intro id id' r r' hr hr' hhash
    obtain ⟨⟨_, w⟩, hw, heq⟩ := List.mem_map.mp hr
    obtain ⟨rfl, rfl⟩ := Prod.mk.inj heq
    obtain ⟨⟨_, w'⟩, hw', heq'⟩ := List.mem_map.mp hr'
    obtain ⟨rfl, rfl⟩ := Prod.mk.inj heq'
    refine table.keyHashUnique _ _ w w' hw hw' ?_
    dsimp only at hhash
    split at hhash <;> split at hhash <;> exact hhash

end ApiKeyTable

/-! ## The service -/

/-- `VerifierAPIKeyRecord`; `source` is the Postgres one. -/
structure VerifierAPIKeyRecord where
  keyId : String
  label : String
  createdAt : Int
  active : Bool
  deriving DecidableEq, Repr

/-- `IssuedVerifierAPIKey`. -/
structure IssuedVerifierAPIKey where
  record : VerifierAPIKeyRecord
  plaintextKey : String
  deriving DecidableEq, Repr

/-- Why a request of the service raises. -/
inductive ServiceError where
  /-- `VerifierAPIKeyStoreUnavailable` -/
  | storeUnavailable (text : String)
  | valueError (text : String)
  deriving DecidableEq, Repr

/-- `_postgres_store_unavailable`. -/
def postgresStoreUnavailable : ServiceError :=
  .storeUnavailable "Postgres verifier API key store unavailable"

/-- The configuration that the service reads. -/
structure Config where
  verifierApiKeys : List String
  verifierStaticApiKeysEnabled : Bool
  verifierAdminTokens : List String
  verifierBootstrapAdminTokensEnabled : Bool
  qrtrustNetworkDatabaseUrl : Option String
  databaseUrl : Option String

/-- The values of a list that are not blank, stripped. -/
def strippedValues (values : List String) : List String :=
  (values.map PyString.strip).filter (· ≠ "")

/-- `configured_api_keys`. -/
def configuredApiKeys (config : Config) : List String :=
  if config.verifierStaticApiKeysEnabled then strippedValues config.verifierApiKeys else []

/-- `configured_admin_tokens`. -/
def configuredAdminTokens (config : Config) : List String :=
  if config.verifierBootstrapAdminTokensEnabled then strippedValues config.verifierAdminTokens
  else []

/-- `_postgres_dsn`. -/
def postgresDsn (config : Config) : Option String :=
  (config.qrtrustNetworkDatabaseUrl.filter (· ≠ "")).or config.databaseUrl

/-- Is the row a verifier key in force: active, with the scope, inside its
    window? -/
def ApiKeyRow.validAt (row : ApiKeyRow) (now : Int) : Bool :=
  row.status = .active && row.scopes.contains postgresVerifierScope
    && row.notBefore.all (· ≤ now) && row.expiresAt.all (now < ·)

/-- The store as one query meets it: its rows, the time, and whether the query
    gets through. -/
structure Snapshot where
  table : ApiKeyTable
  now : Int
  reachable : Bool

/-- `_postgres_has_key`. -/
def postgresHasKey (store : Snapshot) (keyHash : String) : Except ServiceError Bool :=
  if store.reachable then
    .ok (store.table.rows.values.any fun row => row.keyHash = keyHash && row.validAt store.now)
  else .error postgresStoreUnavailable

/-- `_postgres_has_active_key`. -/
def postgresHasActiveKey (store : Snapshot) : Except ServiceError Bool :=
  if store.reachable then .ok (store.table.rows.values.any fun row => row.validAt store.now)
  else .error postgresStoreUnavailable

/-- `build_key_id` is `sha256Hex`, the digest of a plaintext key in hexadecimal. -/
def hasValidKey (sha256Hex : String → String) (config : Config) (store : Snapshot)
    (plaintextKey : String) : Except ServiceError Bool :=
  if (configuredApiKeys config).contains plaintextKey then .ok true
  else
    let keyId := sha256Hex plaintextKey
    if (postgresDsn config).isSome then postgresHasKey store keyId else .ok false

/-- `auth_is_enabled`. -/
def authIsEnabled (config : Config) (store : Snapshot) : Bool :=
  if configuredApiKeys config ≠ [] then true
  else if configuredAdminTokens config ≠ [] then true
  else if (postgresDsn config).isSome then
    match postgresHasActiveKey store with
    | .ok active => active
    -- a configured but unreachable key store should fail closed
    | .error _ => true
  else false

/-- `_enforce_verifier_api_key`: its two queries may meet the store at different
    moments. -/
def enforceVerifierApiKey (sha256Hex : String → String) (config : Config)
    (first second : Snapshot) (providedApiKey : Option String) : Except PyError Unit :=
  if !authIsEnabled config first then .ok ()
  else match providedApiKey.filter (· ≠ "") with
    | none => .error (.httpException 401 "Missing verifier API key")
    | some key =>
        match hasValidKey sha256Hex config second key with
        | .ok true => .ok ()
        | .ok false => .error (.httpException 403 "Invalid verifier API key")
        | .error _ => .error (.httpException 503 "Verifier API key store unavailable")

/-! ## The statements -/

/-- `build_verifier_client_key_id`. -/
def buildVerifierClientKeyId (keyHash : String) : String :=
  "vkey_" ++ String.ofList (keyHash.toList.take 24)

/-- `_postgres_record_from_row`. -/
def postgresRecordFromRow (keyId : String) (row : ApiKeyRow) : VerifierAPIKeyRecord where
  keyId := keyId
  label := row.label
  createdAt := row.createdAt
  active := row.status = .active

/-- The row that an issue inserts. -/
def issuedRow (now : Int) (keyHash label : String) (expiresAt : Option Int) : ApiKeyRow where
  keyHash := keyHash
  label := label
  scopes := [postgresVerifierScope]
  status := .active
  notBefore := none
  expiresAt := expiresAt
  createdAt := now

/-- `_postgres_store_record` for a new key, and the insert of the management
    endpoint, which sets an expiry. -/
def postgresStoreRecord (sha256Hex : String → String) (now : Int) (table : ApiKeyTable)
    (plaintextKey label : String) (expiresAt : Option Int) :
    Option (ApiKeyTable × IssuedVerifierAPIKey) :=
  let keyHash := sha256Hex plaintextKey
  let keyId := buildVerifierClientKeyId keyHash
  let row := issuedRow now keyHash label expiresAt
  (table.insert keyId row).map fun inserted =>
    (inserted, ⟨postgresRecordFromRow keyId row, plaintextKey⟩)

/-- The `where` clause of `_postgres_revoke_key`. -/
def revocable (table : ApiKeyTable) (keyId : String) : Bool :=
  (table.find? keyId).any fun row =>
    row.scopes.contains postgresVerifierScope && row.status = .active

/-- `_postgres_revoke_key`, and the statement of the management endpoint: the
    table afterwards and whether it changed a row. -/
def postgresRevokeKey (table : ApiKeyTable) (keyId : String) : ApiKeyTable × Bool :=
  if revocable table keyId then (table.setStatus keyId .revoked, true) else (table, false)

/-- The record that `rotate_key` finds under a key id.  `list_records` sorts the
    Postgres records behind the static ones, so a Postgres record stands in the
    dictionary where there is one; the rotation of a static record is refused. -/
def listedRecord (table : ApiKeyTable) (keyId : String) : Option VerifierAPIKeyRecord :=
  ((table.find? keyId).filter fun row => row.scopes.contains postgresVerifierScope).map
    (postgresRecordFromRow keyId)

/-- The label of a new key. -/
def normalizedLabel (label : String) : String :=
  if PyString.strip label ≠ "" then PyString.strip label else "verifier-client"

/-! ## Requests -/

/-- How far a request has come. -/
inductive Request where
  | issued (key : IssuedVerifierAPIKey)
  | issueRaised (error : ServiceError)
  | revoked (changed : Bool)
  | revokeRaised (error : ServiceError)
  /-- a rotation that found the key active and will revoke it -/
  | rotating (keyId label : String)
  /-- a rotation whose revocation was executed and that will issue a key -/
  | reissuing (keyId label : String)
  | rotated (keyId : String) (key : IssuedVerifierAPIKey)
  | rotationRaised (keyId : String) (error : ServiceError)
  deriving DecidableEq, Repr

/-- A statement of a request: it begins the request `id`, or goes on with it. -/
inductive Action where
  | issueKey (id label plaintextKey : String) (expiresAt : Option Int)
  | revokeKey (id keyId : String)
  | rotateList (id keyId : String) (label : Option String)
  | rotateRevoke (id : String)
  | rotateIssue (id plaintextKey : String)
  deriving DecidableEq, Repr

/-- The request of a statement. -/
def Action.request : Action → String
  | issueKey id _ _ _ => id
  | revokeKey id _ => id
  | rotateList id _ _ => id
  | rotateRevoke id => id
  | rotateIssue id _ => id

/-- A statement with the time of the server and whether it executes. -/
structure Step where
  action : Action
  now : Int
  executes : Bool

/-- The key table and the requests, by their id. -/
structure State where
  table : ApiKeyTable
  requests : OrderedMap String Request

/-- The state with a request moved on. -/
def State.move (s : State) (table : ApiKeyTable) (id : String) (request : Request) : State where
  table := table
  requests := s.requests.set id request

/-- One statement.  A request id begins one request only, and a statement that
    its request has not come to does nothing. -/
def State.apply (sha256Hex : String → String) (s : State) (step : Step) : State :=
  match step.action, s.requests.get? step.action.request with
  | .issueKey id label plaintextKey expiresAt, none =>
      match step.executes, postgresStoreRecord sha256Hex step.now s.table plaintextKey
          (normalizedLabel label) expiresAt with
      | true, some (table, key) => s.move table id (.issued key)
      | _, _ => s.move s.table id (.issueRaised postgresStoreUnavailable)
  | .revokeKey id keyId, none =>
      if step.executes then
        let (table, changed) := postgresRevokeKey s.table keyId
        s.move table id (.revoked changed)
      else s.move s.table id (.revokeRaised postgresStoreUnavailable)
  | .rotateList id keyId label, none =>
      if step.executes then
        match (listedRecord s.table keyId).filter VerifierAPIKeyRecord.active with
        | some existing =>
            s.move s.table id (.rotating keyId ((label.filter (· ≠ "")).getD existing.label))
        | none =>
            s.move s.table id
              (.rotationRaised keyId
                (.valueError "Only active dynamic verifier API keys can be rotated"))
      else s.move s.table id (.rotationRaised keyId postgresStoreUnavailable)
  | .rotateRevoke id, some (.rotating keyId label) =>
      if step.executes then
        -- the answer, whether a row was changed, is not looked at
        s.move (postgresRevokeKey s.table keyId).1 id (.reissuing keyId label)
      else s.move s.table id (.rotationRaised keyId postgresStoreUnavailable)
  | .rotateIssue id plaintextKey, some (.reissuing keyId label) =>
      match step.executes, postgresStoreRecord sha256Hex step.now s.table plaintextKey
          (normalizedLabel label) none with
      | true, some (table, key) => s.move table id (.rotated keyId key)
      | _, _ => s.move s.table id (.rotationRaised keyId postgresStoreUnavailable)
  | _, _ => s

/-- The service, as a machine that runs one statement at a time. -/
def machine (sha256Hex : String → String) : Runs.Machine State Step Step where
  plan _ step := [step]
  apply := State.apply sha256Hex

end VerifierApiKeys
