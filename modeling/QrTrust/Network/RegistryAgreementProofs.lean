import QrTrust.Network.PostgresTrustKeys
import Mathlib.Data.List.Nodup

/-! # Two trust-key registries side by side

    The in-memory registry is a map in insertion order that takes every write;
    the Postgres registry is a table under references and a terminal-status
    trigger, read in the order of creation.  Run on the same calls from the same
    keys, they agree call by call exactly as long as no call meets one of these
    differences (`registries_agree_iff`). -/

namespace RegistryAgreement

open TrustKeys PostgresTrustKeys

/-! ## Calls -/

/-- A call of a trust-key registry. -/
inductive RegistryCall where
  | lookupSignerKey (input : TrustKeyLookupInput)
  | upsertTrustKey (key : TrustKeyRecord)
  | updateTrustKeyStatus (input : TrustKeyStatusUpdateInput)

/-- What a call answers. -/
inductive RegistryAnswer where
  | found (result : TrustKeyLookupResult)
  | upserted (key : TrustKeyRecord)
  | updated (changed : Bool)
  deriving DecidableEq, Repr

/-- A call with the database clock and the referenced rows it meets. -/
structure Issued where
  call : RegistryCall
  now : Int
  references : ReferencedRows

/-- A call of `makeInMemoryTrustKeyRegistry`. -/
def stepInMemory (registry : TrustKeyRegistry) : RegistryCall → TrustKeyRegistry × RegistryAnswer
  | .lookupSignerKey input => (registry, .found (TrustKeys.lookupSignerKey registry input))
  | .upsertTrustKey key => (registry.set key.keyId key, .upserted key)
  | .updateTrustKeyStatus input =>
      (TrustKeys.updateTrustKeyStatus registry input,
        .updated (updatableKey registry input).isSome)

/-- A call of `makePostgresTrustKeyRegistry`; a refused statement changes nothing. -/
def stepPostgres (collation : String → String → Bool) (table : TrustKeyTable) (issued : Issued) :
    TrustKeyTable × Except SqlError RegistryAnswer :=
  match issued.call with
  | .lookupSignerKey input =>
      (table, .ok (.found (PostgresTrustKeys.lookupSignerKey collation table input)))
  | .upsertTrustKey key =>
      match PostgresTrustKeys.upsertTrustKey issued.references issued.now table key with
      | .error exc => (table, .error exc)
      | .ok (upserted, record) => (upserted, .ok (.upserted record))
  | .updateTrustKeyStatus input =>
      match PostgresTrustKeys.updateTrustKeyStatus table input with
      | .error exc => (table, .error exc)
      | .ok (updated, changed) => (updated, .ok (.updated changed))

/-! ## Agreement -/

/-- The columns of a row as a record. -/
def columns (row : TrustKeyRow) : TrustKeyRecord where
  keyId := row.keyId
  signerId := row.signerId
  rootProgramId := row.rootProgramId
  delegatedAuthorityId := row.delegatedAuthorityId
  algorithmId := row.algorithmId
  scope := row.scope
  status := row.keyStatus
  publicKeyMaterialRef := row.publicKeyMaterialRef
  publicKeyMaterialPem := row.publicKeyMaterialPem

/-- **THE SAME KEYS**: under every key id the columns of the row are the record. -/
def SameKeys (registry : TrustKeyRegistry) (table : TrustKeyTable) : Prop :=
  ∀ keyId, (table.find? keyId).map columns = registry.get? keyId

/-- **THE SAME RECORDS**: what the two registries hold, as they return it. -/
def SameRecords (registry : TrustKeyRegistry) (table : TrustKeyTable) : Prop :=
  ∀ keyId, recordOf table keyId = registry.get? keyId

/-- A call on which the two registries agree: the same answer, and afterwards the
    same records. -/
def AgreeOn (collation : String → String → Bool) (registry : TrustKeyRegistry)
    (table : TrustKeyTable) (issued : Issued) : Prop :=
  (stepPostgres collation table issued).2 = .ok (stepInMemory registry issued.call).2
    ∧ SameRecords (stepInMemory registry issued.call).1 (stepPostgres collation table issued).1

/-- The two registries agree on every call of a run. -/
def Agree (collation : String → String → Bool) :
    TrustKeyRegistry → TrustKeyTable → List Issued → Prop
  | _, _, [] => True
  | registry, table, issued :: rest =>
      AgreeOn collation registry table issued
        ∧ Agree collation (stepInMemory registry issued.call).1
          (stepPostgres collation table issued).1 rest

/-! ## The conditions -/

/-- The keys a lookup commits to the first of: the active ones of an accepted
    algorithm, or without one those that get furthest through the filters. -/
def decisiveKeys (keys : List TrustKeyRecord) (input : TrustKeyLookupInput) :
    List TrustKeyRecord :=
  let candidates := keys.filter fun key =>
    key.signerId = input.signedBy && key.rootProgramId = input.rootProgramId
  let inScope := candidates.filter fun key => keyMatchesScope key input
  let algorithmMatches := inScope.filter fun key =>
    input.acceptedAlgorithmIds.contains key.algorithmId
  let active := algorithmMatches.filter fun key => key.status = .active
  if active ≠ [] then active
  else if algorithmMatches ≠ [] then algorithmMatches
  else if inScope ≠ [] then inScope
  else candidates

/-- No optional text of a key is empty. -/
def NoEmptyText (registry : TrustKeyRegistry) : Prop :=
  ∀ key ∈ registry.values,
    key.delegatedAuthorityId ≠ some "" ∧ key.publicKeyMaterialPem ≠ some ""

/-- **THE CONDITION**: of the keys that decide a lookup, the first inserted is the
    first created; a write refers to known roots and authorities and takes no key
    out of `revoked`; and no optional text is empty afterwards. -/
def Meets (collation : String → String → Bool) (registry : TrustKeyRegistry)
    (table : TrustKeyTable) (issued : Issued) : Prop :=
  NoEmptyText (stepInMemory registry issued.call).1
    ∧ match issued.call with
      | .lookupSignerKey input =>
          (decisiveKeys registry.values input).head?
            = (decisiveKeys ((orderedRows collation table).map columns) input).head?
      | .upsertTrustKey key =>
          (∀ old, registry.get? key.keyId = some old →
              enforceTerminalKeyStatus old.status key.status = false)
            ∧ issued.references.allow (upsertedRow issued.now table key) = true
      | .updateTrustKeyStatus input =>
          ∀ old, updatableKey registry input = some old →
            enforceTerminalKeyStatus old.status input.status = false

/-- Every call of a run meets the condition. -/
def MeetsAll (collation : String → String → Bool) :
    TrustKeyRegistry → TrustKeyTable → List Issued → Prop
  | _, _, [] => True
  | registry, table, issued :: rest =>
      Meets collation registry table issued
        ∧ MeetsAll collation (stepInMemory registry issued.call).1
          (stepPostgres collation table issued).1 rest

/-! ## The lookup takes the first decisive key -/

variable {collation : String → String → Bool} {registry : TrustKeyRegistry}
  {table : TrustKeyTable} {issued : Issued}

/-- The reason of a lookup depends on which filters leave something. -/
def decisiveReason (keys : List TrustKeyRecord) (input : TrustKeyLookupInput) :
    Option TrustKeyLookupReason :=
  let candidates := keys.filter fun key =>
    key.signerId = input.signedBy && key.rootProgramId = input.rootProgramId
  let inScope := candidates.filter fun key => keyMatchesScope key input
  let algorithmMatches := inScope.filter fun key =>
    input.acceptedAlgorithmIds.contains key.algorithmId
  if (algorithmMatches.filter fun key => key.status = .active) ≠ [] then none
  else if algorithmMatches ≠ [] then some .keyNotActive
  else if inScope ≠ [] then some .algorithmNotAccepted
  else if candidates ≠ [] then some .scopeMismatch
  else some .keyNotFound

theorem selectTrustKeyForLookup_eq (keys : List TrustKeyRecord) (input : TrustKeyLookupInput) :
    selectTrustKeyForLookup keys input
      = { key := (decisiveKeys keys input).head?, reason := decisiveReason keys input } := by
  rw [selectTrustKeyForLookup, decisiveKeys, decisiveReason]
  dsimp only
  -- filter by filter: an empty list ends the lookup, and in another its head is kept
  generalize keys.filter (fun key =>
    key.signerId = input.signedBy && key.rootProgramId = input.rootProgramId) = candidates
  cases candidates with
  | nil => rfl
  | cons firstCandidate candidates =>
      dsimp only
      generalize (firstCandidate :: candidates).filter (fun key =>
        keyMatchesScope key input) = inScope
      cases inScope with
      | nil => rfl
      | cons firstScoped inScope =>
          dsimp only
          generalize (firstScoped :: inScope).filter (fun key =>
            input.acceptedAlgorithmIds.contains key.algorithmId) = algorithmMatches
          cases algorithmMatches with
          | nil => rfl
          | cons firstMatch algorithmMatches =>
              dsimp only
              rw [← List.head?_filter]
              cases (firstMatch :: algorithmMatches).filter fun key => key.status = .active with
              | nil => rfl
              | cons activeKey active => rfl

/-- The reason does not depend on the order of the keys. -/
theorem decisiveReason_perm {keys keys' : List TrustKeyRecord} (h : keys.Perm keys')
    (input : TrustKeyLookupInput) : decisiveReason keys input = decisiveReason keys' input := by
  have hempty : ∀ {l l' : List TrustKeyRecord}, l.Perm l' → (l ≠ [] ↔ l' ≠ []) :=
    fun hperm => not_congr ⟨fun hl => (hl ▸ hperm).symm.eq_nil, fun hl => (hl ▸ hperm).eq_nil⟩
  have hcandidates := h.filter fun key =>
    key.signerId = input.signedBy && key.rootProgramId = input.rootProgramId
  have hscoped := hcandidates.filter fun key => keyMatchesScope key input
  have hmatches := hscoped.filter fun key =>
    input.acceptedAlgorithmIds.contains key.algorithmId
  have hactive := hmatches.filter fun key => key.status = .active
  simp only [decisiveReason, hempty hcandidates, hempty hscoped, hempty hmatches, hempty hactive]

/-- Over the same keys in two orders, a lookup answers the same exactly when the
    first decisive key is the same. -/
theorem selectTrustKeyForLookup_perm_iff {keys keys' : List TrustKeyRecord}
    (h : keys.Perm keys') (input : TrustKeyLookupInput) :
    selectTrustKeyForLookup keys' input = selectTrustKeyForLookup keys input ↔
      (decisiveKeys keys input).head? = (decisiveKeys keys' input).head? := by
  rw [selectTrustKeyForLookup_eq, selectTrustKeyForLookup_eq, decisiveReason_perm h,
    TrustKeyLookupResult.mk.injEq, and_iff_left rfl]
  exact eq_comm

/-! ## The same keys -/

/-- A record without empty texts is returned as it is. -/
theorem trustKeyRecordFromRow_eq_iff (row : TrustKeyRow) :
    trustKeyRecordFromRow row = columns row ↔
      row.delegatedAuthorityId ≠ some "" ∧ row.publicKeyMaterialPem ≠ some "" := by
  have htruthy : ∀ text : Option String, JsString.truthy text = text ↔ text ≠ some "" := by
    intro text
    rw [JsString.truthy]
    cases text with
    | none => simp
    | some s => by_cases h : s = "" <;> simp [h]
  rw [trustKeyRecordFromRow, columns, TrustKeyRecord.mk.injEq]
  simp only [true_and, htruthy]
  exact and_comm

/-- What one registry has under a key id, the other has. -/
theorem SameKeys.find?_of_get? (h : SameKeys registry table) {keyId : String}
    {key : TrustKeyRecord} (hget : registry.get? keyId = some key) :
    ∃ row, table.find? keyId = some row ∧ columns row = key ∧ row.keyId = keyId := by
  rw [← h keyId] at hget
  obtain ⟨row, hrow, hcolumns⟩ := Option.map_eq_some_iff.mp hget
  exact ⟨row, hrow, hcolumns, (TrustKeyTable.mem_of_find? hrow).2⟩

/-- **RETURNED ALIKE**: over the same keys, the two hold the same records exactly
    when no optional text is empty. -/
theorem sameRecords_iff (h : SameKeys registry table) :
    SameRecords registry table ↔ NoEmptyText registry := by
  constructor
  · intro hrecords key hkey
    obtain ⟨keyId, hentry⟩ := OrderedMap.mem_values.mp hkey
    have hget := (OrderedMap.get?_eq_some_iff ..).mpr hentry
    obtain ⟨row, hrow, rfl, -⟩ := h.find?_of_get? hget
    have hrecord := hrecords keyId
    rw [recordOf, hrow, hget] at hrecord
    exact (trustKeyRecordFromRow_eq_iff row).mp (Option.some.inj hrecord)
  · intro hempty keyId
    rw [recordOf, ← h keyId]
    cases hrow : table.find? keyId with
    | none => rfl
    | some row =>
        have hget : registry.get? keyId = some (columns row) := by
          rw [← h keyId, hrow]
          rfl
        have hmem : columns row ∈ registry.values :=
          OrderedMap.mem_values.mpr ⟨keyId, (OrderedMap.get?_eq_some_iff ..).mp hget⟩
        exact congrArg some ((trustKeyRecordFromRow_eq_iff row).mpr (hempty _ hmem))

/-- Values that name their keys are distinct. -/
theorem nodup_values {m : OrderedMap String TrustKeyRecord}
    (h : ∀ keyId key, (keyId, key) ∈ m.entries → key.keyId = keyId) : m.values.Nodup := by
  have hkeys : m.values.map TrustKeyRecord.keyId = m.entries.map Prod.fst := by
    rw [OrderedMap.values, List.map_map]
    exact List.map_congr_left fun entry hentry => h entry.1 entry.2 hentry
  exact List.Nodup.of_map TrustKeyRecord.keyId (hkeys ▸ m.nodup)

/-- The rows in lookup order are the records of the map, in another order. -/
theorem SameKeys.perm (h : SameKeys registry table) :
    registry.values.Perm ((orderedRows collation table).map columns) := by
  have hordered : ((orderedRows collation table).map columns).Perm
      (table.rows.values.map columns) := (List.perm_insertionSort ..).map columns
  refine List.Perm.trans ?_ hordered.symm
  -- the rows, read as a map of records
  let records := table.rows.entries.map fun entry => (entry.1, columns entry.2)
  have hrecordKeys : (records.map Prod.fst).Nodup := by
    have hfst : records.map Prod.fst = table.rows.entries.map Prod.fst := by
      rw [List.map_map]
      rfl
    rw [hfst]
    exact table.rows.nodup
  have hvalues : table.rows.values.map columns = records.map Prod.snd := by
    rw [OrderedMap.values, List.map_map, List.map_map]
    rfl
  have hnodup : (table.rows.values.map columns).Nodup := by
    rw [hvalues]
    refine @nodup_values ⟨records, hrecordKeys⟩ fun keyId key hmem => ?_
    obtain ⟨⟨keyId', row⟩, hentry, heq⟩ := List.mem_map.mp hmem
    obtain ⟨rfl, rfl⟩ := Prod.mk.inj heq
    exact table.primaryKey keyId' row hentry
  have hregistry : registry.values.Nodup := by
    refine nodup_values fun keyId key hmem => ?_
    obtain ⟨row, -, rfl, hkey⟩ := h.find?_of_get? ((OrderedMap.get?_eq_some_iff ..).mpr hmem)
    exact hkey
  refine (List.perm_ext_iff_of_nodup hregistry hnodup).mpr fun key => ?_
  constructor
  · intro hkey
    obtain ⟨keyId, hentry⟩ := OrderedMap.mem_values.mp hkey
    obtain ⟨row, hrow, rfl, -⟩ := h.find?_of_get? ((OrderedMap.get?_eq_some_iff ..).mpr hentry)
    exact List.mem_map.mpr ⟨row, (TrustKeyTable.mem_of_find? hrow).1, rfl⟩
  · intro hkey
    obtain ⟨row, hrow, rfl⟩ := List.mem_map.mp hkey
    obtain ⟨keyId, hentry⟩ := OrderedMap.mem_values.mp hrow
    have hfind : table.find? keyId = some row := (OrderedMap.get?_eq_some_iff ..).mpr hentry
    have hget : registry.get? keyId = some (columns row) := by
      rw [← h keyId, hfind]
      rfl
    exact OrderedMap.mem_values.mpr ⟨keyId, (OrderedMap.get?_eq_some_iff ..).mp hget⟩

/-! ## One call -/

/-- **LOOKUP**: the table answers as the map exactly when the first decisive key
    is the same, provided no optional text is empty. -/
theorem lookup_agrees_iff (h : SameKeys registry table) (hempty : NoEmptyText registry)
    (input : TrustKeyLookupInput) :
    PostgresTrustKeys.lookupSignerKey collation table input
        = TrustKeys.lookupSignerKey registry input ↔
      (decisiveKeys registry.values input).head?
        = (decisiveKeys ((orderedRows collation table).map columns) input).head? := by
  have hkeys : registryKeys collation table = (orderedRows collation table).map columns := by
    rw [registryKeys]
    refine List.map_congr_left fun row hrow => ?_
    refine (trustKeyRecordFromRow_eq_iff row).mpr ?_
    exact hempty (columns row) (h.perm.mem_iff.mpr (List.mem_map_of_mem hrow))
  rw [lookupSignerKey_eq, hkeys, TrustKeys.lookupSignerKey]
  exact selectTrustKeyForLookup_perm_iff h.perm input

/-- Writing one row under its key id keeps the keys the same. -/
theorem SameKeys.put (h : SameKeys registry table) (row : TrustKeyRow) :
    SameKeys (registry.set row.keyId (columns row)) (table.put row) := by
  intro keyId
  rw [TrustKeyTable.find?_put, OrderedMap.get?_set]
  split
  · rfl
  · exact h keyId

/-- The key a status update may touch is the row its `where` clause finds. -/
theorem updatableKey_eq (h : SameKeys registry table) (input : TrustKeyStatusUpdateInput) :
    updatableKey registry input
      = ((table.find? input.keyId).filter (statusUpdateApplies input)).map columns := by
  rw [updatableKey, ← h input.keyId, Option.filter_map]
  rfl

/-- **UPSERT**: the two agree exactly when the statement is not refused and no
    optional text is empty afterwards. -/
theorem upsert_agrees_iff (h : SameKeys registry table) {key : TrustKeyRecord}
    (hcall : issued.call = .upsertTrustKey key) :
    (AgreeOn collation registry table issued ↔ Meets collation registry table issued)
      ∧ (Meets collation registry table issued →
        SameKeys (stepInMemory registry issued.call).1
          (stepPostgres collation table issued).1) := by
  have hput : SameKeys (registry.set key.keyId key)
      (table.put (upsertedRow issued.now table key)) :=
    h.put (upsertedRow issued.now table key)
  have hterminal : (table.find? key.keyId).any (fun old =>
        enforceTerminalKeyStatus old.keyStatus key.status) = false ↔
      ∀ old, registry.get? key.keyId = some old →
        enforceTerminalKeyStatus old.status key.status = false := by
    rw [Option.any_eq_false, ← h key.keyId]
    constructor
    · intro hall old hold
      obtain ⟨row, hrow, rfl⟩ := Option.map_eq_some_iff.mp hold
      exact hall row hrow
    · intro hall row hrow
      exact hall (columns row) (Option.map_eq_some_iff.mpr ⟨row, hrow, rfl⟩)
  rw [AgreeOn, Meets, hcall]
  simp only [stepInMemory, stepPostgres, hcall, PostgresTrustKeys.upsertTrustKey,
    trustKeyUpsertCommand, ← hterminal]
  cases (table.find? key.keyId).any fun old =>
      enforceTerminalKeyStatus old.keyStatus key.status with
  | true => simp [Except.map]
  | false =>
      cases issued.references.allow (upsertedRow issued.now table key) with
      | false => simp [Except.map]
      | true =>
          simp only [Except.map, Bool.false_eq_true, if_false, Bool.not_true, and_self, and_true,
            sameRecords_iff hput]
          refine ⟨⟨fun hagree => hagree.2, fun hempty => ⟨?_, hempty⟩⟩, fun _ => hput⟩
          have hmem : key ∈ (registry.set key.keyId key).values :=
            OrderedMap.mem_values.mpr ⟨key.keyId, (OrderedMap.mem_set ..).mpr (.inl ⟨rfl, rfl⟩)⟩
          have hrecord : trustKeyRecordFromRow (upsertedRow issued.now table key) = key :=
            (trustKeyRecordFromRow_eq_iff (upsertedRow issued.now table key)).mpr
              (hempty key hmem)
          rw [hrecord]

/-- **STATUS UPDATE**: the two agree exactly when the update takes no key out of
    `revoked` and no optional text is empty. -/
theorem update_agrees_iff (h : SameKeys registry table) {input : TrustKeyStatusUpdateInput}
    (hcall : issued.call = .updateTrustKeyStatus input) :
    (AgreeOn collation registry table issued ↔ Meets collation registry table issued)
      ∧ (Meets collation registry table issued →
        SameKeys (stepInMemory registry issued.call).1
          (stepPostgres collation table issued).1) := by
  rw [AgreeOn, Meets, hcall]
  simp only [stepInMemory, stepPostgres, hcall, PostgresTrustKeys.updateTrustKeyStatus,
    trustKeyStatusUpdateCommand, TrustKeys.updateTrustKeyStatus, updatableKey_eq h]
  cases hrow : (table.find? input.keyId).filter (statusUpdateApplies input) with
  | none => simp [Except.map, sameRecords_iff h, h]
  | some row =>
      have hkey := (TrustKeyTable.mem_of_find? (Option.filter_eq_some_iff.mp hrow).1).2
      have hput : SameKeys
          (registry.set input.keyId { columns row with status := input.status })
          (table.put { row with keyStatus := input.status }) := by
        rw [← hkey]
        exact h.put { row with keyStatus := input.status }
      simp only [Option.map_some, Option.some.injEq, forall_eq']
      cases hterminal : enforceTerminalKeyStatus row.keyStatus input.status with
      | true => simp [Except.map, columns, hterminal]
      | false =>
          have hallowed : enforceTerminalKeyStatus (columns row).status input.status = false :=
            hterminal
          simp [Except.map, sameRecords_iff hput, hput, hallowed]

/-- **ONE CALL**: over the same keys, the two agree exactly when the call meets
    the condition, and then the keys stay the same. -/
theorem call_agrees_iff (h : SameKeys registry table) :
    (AgreeOn collation registry table issued ↔ Meets collation registry table issued)
      ∧ (Meets collation registry table issued →
        SameKeys (stepInMemory registry issued.call).1
          (stepPostgres collation table issued).1) := by
  cases hcall : issued.call with
  | lookupSignerKey input =>
      rw [AgreeOn, Meets, hcall]
      simp only [stepInMemory, stepPostgres, hcall, sameRecords_iff h]
      refine ⟨?_, fun _ => h⟩
      rw [and_comm]
      refine and_congr_right fun hempty => ?_
      rw [Except.ok.injEq, RegistryAnswer.found.injEq]
      exact lookup_agrees_iff h hempty input
  | upsertTrustKey key => exact hcall ▸ upsert_agrees_iff h hcall
  | updateTrustKeyStatus input => exact hcall ▸ update_agrees_iff h hcall

/-- **THE REGISTRIES AGREE**: from the same keys, the two registries give the same
    answers and hold the same records through a run exactly when every call of it
    meets the condition. -/
theorem registries_agree_iff (collation : String → String → Bool) (registry : TrustKeyRegistry)
    (table : TrustKeyTable) (h : SameKeys registry table) (run : List Issued) :
    Agree collation registry table run ↔ MeetsAll collation registry table run := by
  induction run generalizing registry table with
  | nil => exact Iff.rfl
  | cons issued rest ih =>
      obtain ⟨hcall, hkeeps⟩ := @call_agrees_iff collation registry table issued h
      rw [Agree, MeetsAll, hcall]
      exact and_congr_right fun hmeets => ih _ _ (hkeeps hmeets)

/-! ## A revoked key that becomes active in one registry -/

/-- An authority key with a status. -/
def keyWithStatus (status : TrustKeyStatus) : TrustKeyRecord where
  keyId := "key:authority:v1"
  signerId := "authority:demo"
  rootProgramId := "root:demo"
  algorithmId := "ed25519"
  scope := .delegatedAuthority
  status := status
  publicKeyMaterialRef := "pem://authority/v1"
  publicKeyMaterialPem := none
  delegatedAuthorityId := some "authority:demo"

/-- The roots and authorities of the demo. -/
def demoReferences : ReferencedRows where
  rootPrograms := ["root:demo"]
  delegatedAuthorities := [("root:demo", "authority:demo")]

/-- The map with the one key, and the table with the same key. -/
def demoRegistry (status : TrustKeyStatus) : TrustKeyRegistry :=
  OrderedMap.ofList [("key:authority:v1", keyWithStatus status)]

/-- The table with the same key. -/
def demoTable (status : TrustKeyStatus) : TrustKeyTable :=
  TrustKeyTable.empty.put (upsertedRow 0 .empty (keyWithStatus status))

theorem demo_sameKeys (status : TrustKeyStatus) :
    SameKeys (demoRegistry status) (demoTable status) := by
  have hempty : SameKeys OrderedMap.empty TrustKeyTable.empty := fun _ => rfl
  exact hempty.put (upsertedRow 0 .empty (keyWithStatus status))

/-- A call at time 1 among the roots and authorities of the demo. -/
def demoIssued (call : RegistryCall) : Issued := ⟨call, 1, demoReferences⟩

/-- The status update that brings the key back. -/
def reactivation : TrustKeyStatusUpdateInput where
  rootProgramId := "root:demo"
  keyId := "key:authority:v1"
  status := .active
  delegatedAuthorityId := none

/-- From a suspended key the two agree. -/
theorem suspended_key_reactivates :
    Agree (fun a b => a ≤ b) (demoRegistry .suspended) (demoTable .suspended)
      [demoIssued (.updateTrustKeyStatus reactivation)] := by
  refine (registries_agree_iff _ _ _ (demo_sameKeys .suspended) _).mpr ⟨⟨?_, ?_⟩, trivial⟩
  · intro key hkey
    have hvalues : ((stepInMemory (demoRegistry .suspended)
        (.updateTrustKeyStatus reactivation)).1).values = [keyWithStatus .active] := by
      decide +kernel
    have hmem : key ∈ [keyWithStatus .active] := hvalues ▸ hkey
    rw [List.mem_singleton.mp hmem]
    exact ⟨by decide, by decide⟩
  · intro old hold
    have hupdatable : updatableKey (demoRegistry .suspended) reactivation
        = some (keyWithStatus .suspended) := by decide +kernel
    obtain rfl := Option.some.inj (hupdatable.symm.trans hold)
    rfl

/-- **A REVOKED KEY COMES BACK**: the in-memory registry makes it active again,
    and the Postgres registry refuses the update. -/
theorem revoked_key_reactivates_in_memory :
    SameKeys (demoRegistry .revoked) (demoTable .revoked)
      ∧ (stepInMemory (demoRegistry .revoked) (.updateTrustKeyStatus reactivation)).2
          = .updated true
      ∧ (stepPostgres (fun a b => a ≤ b) (demoTable .revoked)
          (demoIssued (.updateTrustKeyStatus reactivation))).2.toOption = none
      ∧ ¬ Agree (fun a b => a ≤ b) (demoRegistry .revoked) (demoTable .revoked)
          [demoIssued (.updateTrustKeyStatus reactivation)] := by
  refine ⟨demo_sameKeys .revoked, by decide +kernel, by decide +kernel, ?_⟩
  intro hagree
  have hcall : AgreeOn (fun a b => a ≤ b) (demoRegistry .revoked) (demoTable .revoked)
      (demoIssued (.updateTrustKeyStatus reactivation)) := hagree.1
  have hrefused : (stepPostgres (fun a b => a ≤ b) (demoTable .revoked)
      (demoIssued (.updateTrustKeyStatus reactivation))).2.toOption = none := by decide +kernel
  rw [hcall.1] at hrefused
  cases hrefused

end RegistryAgreement
