import QrTrust.Network.TrustKeys
import Mathlib.Data.List.Sort

/-! # The trust keys in Postgres

    The table `qr_trust.trust_keys`, the statements of the Postgres trust-key
    registry on it, and the registry itself.  A statement is what it does to
    the rows under the constraints of the schema: the primary key, the
    references to roots and authorities, and the trigger that keeps a revoked
    key revoked. -/

namespace PostgresTrustKeys

open TrustKeys

/-! ## The table -/

/-- A row of `qr_trust.trust_keys`; times are in microseconds. -/
structure TrustKeyRow where
  keyId : String
  rootProgramId : String
  delegatedAuthorityId : Option String
  signerId : String
  algorithmId : String
  publicKeyMaterialRef : String
  publicKeyMaterialPem : Option String
  scope : TrustKeyScope
  keyStatus : TrustKeyStatus
  notBefore : Option Int
  notAfter : Option Int
  createdAt : Int
  deriving DecidableEq, Repr

/-- The table: its rows under their primary key. -/
structure TrustKeyTable where
  rows : OrderedMap String TrustKeyRow
  primaryKey : ∀ keyId row, (keyId, row) ∈ rows.entries → row.keyId = keyId

namespace TrustKeyTable

/-- The table without rows. -/
def empty : TrustKeyTable := ⟨.empty, fun _ _ h => absurd h List.not_mem_nil⟩

/-- The row with a key id. -/
def find? (table : TrustKeyTable) (keyId : String) : Option TrustKeyRow := table.rows.get? keyId

/-- Insert a row, or put it in the place of the row with its key id. -/
def put (table : TrustKeyTable) (row : TrustKeyRow) : TrustKeyTable where
  rows := table.rows.set row.keyId row
  primaryKey keyId row' hmem := by
    rcases (OrderedMap.mem_set ..).mp hmem with ⟨rfl, rfl⟩ | ⟨-, hold⟩
    · rfl
    · exact table.primaryKey keyId row' hold

theorem find?_put (table : TrustKeyTable) (row : TrustKeyRow) (keyId : String) :
    (table.put row).find? keyId = if keyId = row.keyId then some row else table.find? keyId :=
  OrderedMap.get?_set ..

theorem mem_of_find? {table : TrustKeyTable} {keyId : String} {row : TrustKeyRow}
    (h : table.find? keyId = some row) : row ∈ table.rows.values ∧ row.keyId = keyId := by
  have hmem := (OrderedMap.get?_eq_some_iff ..).mp h
  exact ⟨OrderedMap.mem_values.mpr ⟨keyId, hmem⟩, table.primaryKey keyId row hmem⟩

end TrustKeyTable

/-- The rows the foreign keys refer to. -/
structure ReferencedRows where
  rootPrograms : List String
  delegatedAuthorities : List (String × String)

/-- The foreign keys of a row; a null authority refers to nothing. -/
def ReferencedRows.allow (references : ReferencedRows) (row : TrustKeyRow) : Bool :=
  references.rootPrograms.contains row.rootProgramId
    && row.delegatedAuthorityId.all fun authority =>
        references.delegatedAuthorities.contains (row.rootProgramId, authority)

/-- Why the database refuses a statement. -/
inductive SqlError where
  | uniqueViolation
  | foreignKeyViolation
  /-- revocation is terminal: key_status may not leave revoked -/
  | terminalKeyStatus
  deriving DecidableEq, Repr

/-- `enforce_terminal_key_status`: does the trigger raise? -/
def enforceTerminalKeyStatus (old new : TrustKeyStatus) : Bool := old = .revoked && new ≠ .revoked

/-! ## The statements of the registry -/

/-- `order by created_at asc, key_id asc`, with the collation of the database. -/
def lookupOrder (collation : String → String → Bool) (a b : TrustKeyRow) : Prop :=
  a.createdAt < b.createdAt ∨ (a.createdAt = b.createdAt ∧ collation a.keyId b.keyId = true)

instance (collation : String → String → Bool) : DecidableRel (lookupOrder collation) :=
  fun _ _ => inferInstanceAs (Decidable (_ ∨ _))

/-- The rows of the table in lookup order. -/
def orderedRows (collation : String → String → Bool) (table : TrustKeyTable) :
    List TrustKeyRow :=
  table.rows.values.insertionSort (lookupOrder collation)

/-- `trustKeyLookupCommand`. -/
def trustKeyLookupCommand (collation : String → String → Bool) (table : TrustKeyTable)
    (input : TrustKeyLookupInput) : List TrustKeyRow :=
  (orderedRows collation table).filter fun row =>
    row.rootProgramId = input.rootProgramId && row.signerId = input.signedBy

/-- The row an upsert leaves: a new one has no window and is created now, and an
    old one keeps both. -/
def upsertedRow (now : Int) (table : TrustKeyTable) (key : TrustKeyRecord) : TrustKeyRow :=
  { keyId := key.keyId
    rootProgramId := key.rootProgramId
    delegatedAuthorityId := key.delegatedAuthorityId
    signerId := key.signerId
    algorithmId := key.algorithmId
    publicKeyMaterialRef := key.publicKeyMaterialRef
    publicKeyMaterialPem := key.publicKeyMaterialPem
    scope := key.scope
    keyStatus := key.status
    notBefore := (table.find? key.keyId).bind TrustKeyRow.notBefore
    notAfter := (table.find? key.keyId).bind TrustKeyRow.notAfter
    createdAt := ((table.find? key.keyId).map TrustKeyRow.createdAt).getD now }

/-- `trustKeyUpsertCommand`: the table afterwards and the returned row. -/
def trustKeyUpsertCommand (references : ReferencedRows) (now : Int) (table : TrustKeyTable)
    (key : TrustKeyRecord) : Except SqlError (TrustKeyTable × TrustKeyRow) :=
  let row := upsertedRow now table key
  if (table.find? key.keyId).any fun old => enforceTerminalKeyStatus old.keyStatus key.status then
    .error .terminalKeyStatus
  else if !references.allow row then .error .foreignKeyViolation
  else .ok (table.put row, row)

/-- The `where` clause of `trustKeyStatusUpdateCommand`; comparing with null is
    not true. -/
def statusUpdateApplies (input : TrustKeyStatusUpdateInput) (row : TrustKeyRow) : Bool :=
  row.rootProgramId = input.rootProgramId
    && match input.delegatedAuthorityId with
      | none => true
      | some authority => row.delegatedAuthorityId = some authority

/-- `trustKeyStatusUpdateCommand`: the table afterwards and the returned rows. -/
def trustKeyStatusUpdateCommand (table : TrustKeyTable) (input : TrustKeyStatusUpdateInput) :
    Except SqlError (TrustKeyTable × List TrustKeyRow) :=
  match (table.find? input.keyId).filter (statusUpdateApplies input) with
  | none => .ok (table, [])
  | some row =>
      if enforceTerminalKeyStatus row.keyStatus input.status then .error .terminalKeyStatus
      else
        let updated := { row with keyStatus := input.status }
        .ok (table.put updated, [updated])

/-! ## The registry -/

/-- `trustKeyRecordFromRow`: an empty authority or key text counts as absent, and
    the window of the key is not read. -/
def trustKeyRecordFromRow (row : TrustKeyRow) : TrustKeyRecord where
  keyId := row.keyId
  signerId := row.signerId
  rootProgramId := row.rootProgramId
  delegatedAuthorityId := JsString.truthy row.delegatedAuthorityId
  algorithmId := row.algorithmId
  scope := row.scope
  status := row.keyStatus
  publicKeyMaterialRef := row.publicKeyMaterialRef
  publicKeyMaterialPem := JsString.truthy row.publicKeyMaterialPem

/-- `lookupSignerKey` of `makePostgresTrustKeyRegistry`. -/
def lookupSignerKey (collation : String → String → Bool) (table : TrustKeyTable)
    (input : TrustKeyLookupInput) : TrustKeyLookupResult :=
  selectTrustKeyForLookup
    ((trustKeyLookupCommand collation table input).map trustKeyRecordFromRow) input

/-- `upsertTrustKey` of `makePostgresTrustKeyRegistry`. -/
def upsertTrustKey (references : ReferencedRows) (now : Int) (table : TrustKeyTable)
    (key : TrustKeyRecord) : Except SqlError (TrustKeyTable × TrustKeyRecord) :=
  (trustKeyUpsertCommand references now table key).map fun (table, row) =>
    (table, trustKeyRecordFromRow row)

/-- `updateTrustKeyStatus` of `makePostgresTrustKeyRegistry`. -/
def updateTrustKeyStatus (table : TrustKeyTable) (input : TrustKeyStatusUpdateInput) :
    Except SqlError (TrustKeyTable × Bool) :=
  (trustKeyStatusUpdateCommand table input).map fun (table, rows) => (table, rows.length > 0)

/-- `snapshot` of `makePostgresTrustKeyRegistry`, as the record under each key id. -/
def recordOf (table : TrustKeyTable) (keyId : String) : Option TrustKeyRecord :=
  (table.find? keyId).map trustKeyRecordFromRow

/-! ## The lookup reads the whole table -/

/-- The records of the table in lookup order. -/
def registryKeys (collation : String → String → Bool) (table : TrustKeyTable) :
    List TrustKeyRecord :=
  (orderedRows collation table).map trustKeyRecordFromRow

/-- **LOOKUP**: restricting the rows to the signer and the root first changes
    nothing, since the lookup does so itself. -/
theorem lookupSignerKey_eq (collation : String → String → Bool) (table : TrustKeyTable)
    (input : TrustKeyLookupInput) :
    lookupSignerKey collation table input
      = selectTrustKeyForLookup (registryKeys collation table) input := by
  have hcandidates :
      ((trustKeyLookupCommand collation table input).map trustKeyRecordFromRow).filter
          (fun key => key.signerId = input.signedBy && key.rootProgramId = input.rootProgramId)
        = (registryKeys collation table).filter fun key =>
            key.signerId = input.signedBy && key.rootProgramId = input.rootProgramId := by
    rw [trustKeyLookupCommand, registryKeys, List.filter_map, List.filter_map, List.filter_filter]
    refine congrArg _ (List.filter_congr fun row _ => ?_)
    rw [Bool.eq_iff_iff]
    simp only [Function.comp_apply, Bool.and_eq_true, decide_eq_true_eq]
    exact ⟨fun h => h.1, fun h => ⟨h, h.2, h.1⟩⟩
  rw [lookupSignerKey, selectTrustKeyForLookup, selectTrustKeyForLookup, hcandidates]

/-- The rows in lookup order are the rows of the table. -/
theorem mem_orderedRows {collation : String → String → Bool} {table : TrustKeyTable}
    {row : TrustKeyRow} : row ∈ orderedRows collation table ↔ row ∈ table.rows.values :=
  (List.perm_insertionSort ..).mem_iff

end PostgresTrustKeys
