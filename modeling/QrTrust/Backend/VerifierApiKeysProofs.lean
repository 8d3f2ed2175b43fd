import QrTrust.Backend.VerifierApiKeys

/-! # What becomes of a verifier key

    A row of the key table only ever goes from active to revoked
    (`later_run`), so a dead key stays dead and is never found valid again.
    Whether a dead key is turned away all the same depends on the gate in front
    of the check, which opens when no valid key is left
    (`rejected_iff_guarded`). -/

namespace VerifierApiKeys

open Runs OrderedMap

variable {sha256Hex : String → String} {table table' : ApiKeyTable} {keyId : String}
  {row : ApiKeyRow} {s : State} {step : Step}

/-! ## The table -/

theorem insert_eq_some (h : table.insert keyId row = some table') :
    table.find? keyId = none
      ∧ ∀ other, table'.find? other = if other = keyId then some row else table.find? other := by
  rw [ApiKeyTable.insert] at h
  split at h
  · rename_i hnew
    obtain rfl := Option.some.inj h
    constructor
    · exact (get?_eq_none_iff ..).mpr fun value hmem =>
        hnew.1 (mem_keys.mpr ⟨value, hmem⟩)
    · exact fun other => get?_set ..
  · cases h

/-- A row whose id and hash are new goes in. -/
theorem insert_isSome (hid : table.find? keyId = none)
    (hhash : ∀ other old, table.find? other = some old → old.keyHash ≠ row.keyHash) :
    (table.insert keyId row).isSome = true := by
  rw [ApiKeyTable.insert, dif_pos]
  · rfl
  · constructor
    · intro hmem
      obtain ⟨old, hold⟩ := mem_keys_iff_get?.mp hmem
      rw [ApiKeyTable.find?, hold] at hid
      cases hid
    · intro old hold
      obtain ⟨other, hmem⟩ := mem_values.mp hold
      exact hhash other old ((get?_eq_some_iff ..).mpr hmem)

theorem find?_setStatus (other : String) (status : KeyStatus) :
    (table.setStatus keyId status).find? other
      = (table.find? other).map fun row =>
          if other = keyId then { row with status := status } else row :=
  get?_update ..

/-- A revocation leaves the other rows alone. -/
theorem find?_setStatus_ne {other : String} (status : KeyStatus) (hne : other ≠ keyId) :
    (table.setStatus keyId status).find? other = table.find? other := by
  rw [find?_setStatus]
  simp only [if_neg hne]
  exact Option.map_id'

/-- **ONE STATEMENT**: a statement leaves the table, revokes a revocable key, or
    inserts the row of a new one. -/
theorem apply_table (s : State) (step : Step) :
    (s.apply sha256Hex step).table = s.table
      ∨ (∃ keyId, revocable s.table keyId = true
        ∧ (s.apply sha256Hex step).table = s.table.setStatus keyId .revoked)
      ∨ ∃ keyId row, s.table.insert keyId row = some (s.apply sha256Hex step).table := by
  have hrevoke : ∀ keyId, (postgresRevokeKey s.table keyId).1 = s.table
      ∨ ∃ keyId', revocable s.table keyId' = true
        ∧ (postgresRevokeKey s.table keyId).1 = s.table.setStatus keyId' .revoked := by
    intro keyId
    rw [postgresRevokeKey]
    cases hrow : revocable s.table keyId with
    | true => exact .inr ⟨keyId, hrow, rfl⟩
    | false => exact .inl rfl
  have hstore : ∀ {now plaintextKey label expiresAt} {table : ApiKeyTable} {key},
      postgresStoreRecord sha256Hex now s.table plaintextKey label expiresAt = some (table, key) →
      ∃ keyId row, s.table.insert keyId row = some table := by
    intro now plaintextKey label expiresAt table key h
    obtain ⟨inserted, hinsert, heq⟩ := Option.map_eq_some_iff.mp h
    obtain ⟨rfl, -⟩ := Prod.mk.inj heq
    exact ⟨_, _, hinsert⟩
  rw [State.apply]
  split
  · split
    · rename_i hstored
      exact .inr (.inr (hstore hstored))
    · exact .inl rfl
  · split
    · rcases hrevoke _ with h | ⟨keyId', hrow, h⟩
      · exact .inl h
      · exact .inr (.inl ⟨keyId', hrow, h⟩)
    · exact .inl rfl
  · split
    · split <;> exact .inl rfl
    · exact .inl rfl
  · split
    · rcases hrevoke _ with h | ⟨keyId', hrow, h⟩
      · exact .inl h
      · exact .inr (.inl ⟨keyId', hrow, h⟩)
    · exact .inl rfl
  · split
    · rename_i hstored
      exact .inr (.inr (hstore hstored))
    · exact .inl rfl
  · exact .inl rfl

/-! ## Rows through a run -/

/-- **LATER**: the same row, or the same row revoked. -/
def Later (row row' : ApiKeyRow) : Prop := row' = row ∨ row' = { row with status := .revoked }

theorem Later.trans {a b c : ApiKeyRow} (hab : Later a b) (hbc : Later b c) : Later a c := by
  rcases hab with rfl | rfl
  · exact hbc
  · rcases hbc with rfl | rfl
    · exact .inr rfl
    · exact .inr rfl

theorem Later.keyHash {row' : ApiKeyRow} (h : Later row row') : row'.keyHash = row.keyHash := by
  rcases h with rfl | rfl <;> rfl

theorem later_step (h : s.table.find? keyId = some row) :
    ∃ row', (s.apply sha256Hex step).table.find? keyId = some row' ∧ Later row row' := by
  rcases apply_table s step with heq | ⟨revoked, -, heq⟩ | ⟨inserted, newRow, hinsert⟩
  · rw [heq]
    exact ⟨row, h, .inl rfl⟩
  · rw [heq, find?_setStatus, h]
    by_cases hkey : keyId = revoked
    · exact ⟨_, rfl, .inr (if_pos hkey)⟩
    · exact ⟨_, rfl, .inl (if_neg hkey)⟩
  · obtain ⟨hnone, hfind⟩ := insert_eq_some hinsert
    have hne : keyId ≠ inserted := by
      rintro rfl
      rw [hnone] at h
      cases h
    rw [hfind, if_neg hne]
    exact ⟨row, h, .inl rfl⟩

/-- **RUN**: a row stands through a run, revoked at most. -/
theorem later_run (steps : List Step) (h : s.table.find? keyId = some row) :
    ∃ row', ((machine sha256Hex).applyAll s steps).table.find? keyId = some row'
      ∧ Later row row' := by
  induction steps generalizing s row with
  | nil => exact ⟨row, h, .inl rfl⟩
  | cons step rest ih =>
      obtain ⟨row₁, h₁, hlater₁⟩ := @later_step sha256Hex keyId row s step h
      obtain ⟨row₂, h₂, hlater₂⟩ := ih h₁
      exact ⟨row₂, h₂, hlater₁.trans hlater₂⟩

/-! ## Dead keys at the gate -/

/-- The key was issued by the service, by an issue or by a rotation. -/
def Issued (s : State) (key : IssuedVerifierAPIKey) : Prop :=
  ∃ id, s.requests.get? id = some (.issued key)
    ∨ ∃ keyId, s.requests.get? id = some (.rotated keyId key)

/-- **DEAD**: the key is revoked, or its expiry has come. -/
def Dead (table : ApiKeyTable) (now : Int) (keyId : String) : Prop :=
  ∃ row, table.find? keyId = some row
    ∧ (row.status = .revoked ∨ row.expiresAt.any (· ≤ now) = true)

/-- **GUARDED**: a static key or a bootstrap token is configured, the store
    cannot be asked, or some verifier key is in force. -/
def Guarded (config : Config) (store : Snapshot) : Prop :=
  configuredApiKeys config ≠ [] ∨ configuredAdminTokens config ≠ [] ∨ store.reachable = false
    ∨ ∃ keyId row, store.table.find? keyId = some row ∧ row.validAt store.now = true

/-- The request is turned away. -/
def Rejected (answer : Except PyError Unit) : Prop := ∃ error, answer = .error error

/-- The state after statements from an empty service. -/
def after (sha256Hex : String → String) (table : ApiKeyTable) (steps : List Step) : State :=
  (machine sha256Hex).applyAll ⟨table, .empty⟩ steps

theorem exists_valid_iff {now : Int} :
    (table.rows.values.any fun row => row.validAt now) = true
      ↔ ∃ keyId row, table.find? keyId = some row ∧ row.validAt now = true := by
  rw [List.any_eq_true]
  constructor
  · rintro ⟨row, hmem, hvalid⟩
    obtain ⟨keyId, hentry⟩ := mem_values.mp hmem
    exact ⟨keyId, row, (get?_eq_some_iff ..).mpr hentry, hvalid⟩
  · rintro ⟨keyId, row, hrow, hvalid⟩
    exact ⟨row, mem_values.mpr ⟨keyId, (get?_eq_some_iff ..).mp hrow⟩, hvalid⟩

/-- **THE GATE**: with a store configured, authentication is on exactly when the
    gate is guarded. -/
theorem authIsEnabled_iff {config : Config} (hstore : (postgresDsn config).isSome = true)
    (store : Snapshot) : authIsEnabled config store = true ↔ Guarded config store := by
  rw [authIsEnabled, Guarded, if_pos hstore]
  by_cases hkeys : configuredApiKeys config = []
  · by_cases htokens : configuredAdminTokens config = []
    · rw [if_neg (not_not.mpr hkeys), if_neg (not_not.mpr htokens), postgresHasActiveKey]
      cases hreach : store.reachable with
      | false => simp
      | true =>
          show (store.table.rows.values.any fun row => row.validAt store.now) = true ↔ _
          rw [exists_valid_iff]
          simp [hkeys, htokens]
    · simp [hkeys, htokens]
  · simp [hkeys]

/-- A row with a window that has closed, or revoked, is not valid later on. -/
theorem Later.not_valid {row' : ApiKeyRow} {now now' : Int} (h : Later row row')
    (hdead : row.status = .revoked ∨ row.expiresAt.any (· ≤ now) = true) (hle : now ≤ now') :
    row'.validAt now' = false := by
  have hrevoked : row'.status = .revoked → row'.validAt now' = false := by
    intro hstatus
    simp [ApiKeyRow.validAt, hstatus]
  rcases h with rfl | rfl
  · rcases hdead with hstatus | hexpired
    · exact hrevoked hstatus
    · obtain ⟨expiry, hexpiry, hpast⟩ := (Option.any_eq_true ..).mp hexpired
      have hpast : expiry ≤ now := of_decide_eq_true hpast
      have hclosed : row'.expiresAt.all (now' < ·) = false := by
        rw [hexpiry]
        exact decide_eq_false (by omega)
      rw [ApiKeyRow.validAt, hclosed, Bool.and_false]
  · exact hrevoked rfl

/-- A key whose only row is not valid is not found. -/
theorem not_postgresHasKey {store : Snapshot} (hrow : store.table.find? keyId = some row)
    (hinvalid : row.validAt store.now = false) :
    postgresHasKey store row.keyHash ≠ .ok true := by
  rw [postgresHasKey]
  split
  · intro h
    obtain ⟨other, hmem, hother⟩ := List.any_eq_true.mp (Except.ok.inj h)
    rw [Bool.and_eq_true, decide_eq_true_eq] at hother
    obtain ⟨otherId, hentry⟩ := mem_values.mp hmem
    have hmine := (get?_eq_some_iff ..).mp hrow
    -- the hash is of one row only
    obtain rfl := store.table.keyHashUnique _ _ _ _ hentry hmine hother.1
    have hsame : some other = some row :=
      ((get?_eq_some_iff ..).mpr hentry).symm.trans hrow
    obtain rfl := Option.some.inj hsame
    rw [hinvalid] at hother
    exact Bool.false_ne_true hother.2
  · intro h
    cases h

/-- What a stored key stands under. -/
theorem postgresStoreRecord_row {now : Int} {plaintextKey label : String}
    {expiresAt : Option Int} {key : IssuedVerifierAPIKey}
    (h : postgresStoreRecord sha256Hex now table plaintextKey label expiresAt
      = some (table', key)) :
    key.plaintextKey = plaintextKey
      ∧ key.record.keyId = buildVerifierClientKeyId (sha256Hex plaintextKey)
      ∧ table.insert key.record.keyId (issuedRow now (sha256Hex plaintextKey) label expiresAt)
        = some table' := by
  obtain ⟨inserted, hinsert, heq⟩ := Option.map_eq_some_iff.mp h
  obtain ⟨rfl, rfl⟩ := Prod.mk.inj heq
  exact ⟨rfl, rfl, hinsert⟩

/-- **ONE REQUEST**: a statement moves its own request only. -/
theorem apply_requests_ne {id : String} (hne : id ≠ step.action.request) :
    (s.apply sha256Hex step).requests.get? id = s.requests.get? id := by
  have hmove : ∀ table request,
      (s.move table step.action.request request).requests.get? id = s.requests.get? id :=
    fun table request => get?_set_ne _ _ hne
  rw [State.apply]
  split
  · rename_i haction _
    rw [haction] at hmove
    split <;> exact hmove _ _
  · rename_i haction _
    rw [haction] at hmove
    split <;> exact hmove _ _
  · rename_i haction _
    rw [haction] at hmove
    split
    · split <;> exact hmove _ _
    · exact hmove _ _
  · rename_i haction _
    rw [haction] at hmove
    split <;> exact hmove _ _
  · rename_i haction _
    rw [haction] at hmove
    split <;> exact hmove _ _
  · rfl

/-- The answer of a request that issued a key. -/
def Request.issuedKey : Request → Option IssuedVerifierAPIKey
  | .issued key => some key
  | .rotated _ key => some key
  | _ => none

theorem issued_iff {key : IssuedVerifierAPIKey} :
    Issued s key ↔ ∃ id request, s.requests.get? id = some request
      ∧ request.issuedKey = some key := by
  constructor
  · rintro ⟨id, h | ⟨keyId, h⟩⟩
    · exact ⟨id, _, h, rfl⟩
    · exact ⟨id, _, h, rfl⟩
  · rintro ⟨id, request, h, hkey⟩
    cases request with
    | issued key' =>
        obtain rfl := Option.some.inj hkey
        exact ⟨id, .inl h⟩
    | rotated keyId key' =>
        obtain rfl := Option.some.inj hkey
        exact ⟨id, .inr ⟨keyId, h⟩⟩
    | _ => cases hkey

/-- The row of an issued key. -/
def HasRow (sha256Hex : String → String) (table : ApiKeyTable) (key : IssuedVerifierAPIKey) :
    Prop :=
  ∃ row, table.find? key.record.keyId = some row ∧ row.keyHash = sha256Hex key.plaintextKey

theorem hasRow_of_store {now : Int} {plaintextKey label : String} {expiresAt : Option Int}
    {key : IssuedVerifierAPIKey}
    (h : postgresStoreRecord sha256Hex now table plaintextKey label expiresAt
      = some (table', key)) : HasRow sha256Hex table' key := by
  obtain ⟨rfl, -, hinsert⟩ := postgresStoreRecord_row h
  exact ⟨_, ((insert_eq_some hinsert).2 _).trans (if_pos rfl), rfl⟩

/-- A key that is issued after a statement was issued before it, or has just got
    its row. -/
theorem issued_step {key : IssuedVerifierAPIKey} (h : Issued (s.apply sha256Hex step) key) :
    Issued s key ∨ HasRow sha256Hex (s.apply sha256Hex step).table key := by
  obtain ⟨id, request, hrequest, hkey⟩ := issued_iff.mp h
  by_cases hid : id = step.action.request
  · -- the request has just been moved on, or was left where it was
    have hmoved : ∀ {table request'}, (s.move table id request').requests.get? id = some request →
        request' = request := by
      intro table request' hget
      rw [State.move, get?_set_self] at hget
      exact Option.some.inj hget
    rw [State.apply] at hrequest ⊢
    split at hrequest
    · rename_i haction _
      rw [haction] at hid
      subst hid
      split at hrequest
      · rename_i hstored
        obtain rfl := hmoved hrequest
        obtain rfl := Option.some.inj hkey
        exact .inr (hasRow_of_store hstored)
      · obtain rfl := hmoved hrequest
        cases hkey
    · rename_i haction _
      rw [haction] at hid
      subst hid
      split at hrequest <;> obtain rfl := hmoved hrequest <;> cases hkey
    · rename_i haction _
      rw [haction] at hid
      subst hid
      split at hrequest
      · split at hrequest <;> obtain rfl := hmoved hrequest <;> cases hkey
      · obtain rfl := hmoved hrequest
        cases hkey
    · rename_i haction _
      rw [haction] at hid
      subst hid
      split at hrequest <;> obtain rfl := hmoved hrequest <;> cases hkey
    · rename_i haction _
      rw [haction] at hid
      subst hid
      split at hrequest
      · rename_i hstored
        obtain rfl := hmoved hrequest
        obtain rfl := Option.some.inj hkey
        exact .inr (hasRow_of_store hstored)
      · obtain rfl := hmoved hrequest
        cases hkey
    · exact .inl (issued_iff.mpr ⟨id, request, hrequest, hkey⟩)
  · rw [apply_requests_ne hid] at hrequest
    exact .inl (issued_iff.mpr ⟨id, request, hrequest, hkey⟩)

/-- **ISSUED**: an issued key has its row. -/
theorem issued_hasRow {steps : List Step} {key : IssuedVerifierAPIKey}
    (h : Issued (after sha256Hex table steps) key) :
    HasRow sha256Hex (after sha256Hex table steps).table key := by
  have hinv : ∀ key, Issued (after sha256Hex table steps) key →
      HasRow sha256Hex (after sha256Hex table steps).table key := by
    refine (machine sha256Hex).applyAll_invariant
      (I := fun s => ∀ key, Issued s key → HasRow sha256Hex s.table key) ?_ ?_
    · intro s step _ hold key hissued
      rcases issued_step hissued with hbefore | hrow
      · obtain ⟨row, hrow, hhash⟩ := hold key hbefore
        obtain ⟨row', hrow', hlater⟩ := @later_step sha256Hex _ _ s step hrow
        exact ⟨row', hrow', hlater.keyHash.trans hhash⟩
      · exact hrow
    · rintro key ⟨id, h | ⟨keyId, h⟩⟩ <;> cases h
  exact hinv key h

/-- **AT THE GATE**: whoever comes without a key once keys are issued, or with a
    dead key that the service issued, is turned away exactly when the gate is
    guarded. -/
theorem rejected_iff_guarded {config : Config} (hstore : (postgresDsn config).isSome = true)
    {before between : List Step} {now now' : Int} {reachable reachable' : Bool} (hle : now ≤ now')
    {key : IssuedVerifierAPIKey} (hissued : Issued (after sha256Hex table before) key)
    {provided : Option String}
    (hprovided : provided.filter (· ≠ "") = none
      ∨ provided = some key.plaintextKey ∧ key.plaintextKey ∉ configuredApiKeys config
        ∧ Dead (after sha256Hex table before).table now key.record.keyId) :
    Rejected (enforceVerifierApiKey sha256Hex config
        ⟨(after sha256Hex table before).table, now, reachable⟩
        ⟨(after sha256Hex table (before ++ between)).table, now', reachable'⟩ provided)
      ↔ Guarded config ⟨(after sha256Hex table before).table, now, reachable⟩ := by
  rw [← authIsEnabled_iff hstore, enforceVerifierApiKey]
  cases hgate : authIsEnabled config ⟨(after sha256Hex table before).table, now, reachable⟩ with
  | false =>
      constructor
      · rintro ⟨error, herror⟩
        cases herror
      · intro h
        cases h
  | true =>
      refine iff_of_true ?_ rfl
      rcases hprovided with hmissing | ⟨rfl, hstatic, row, hrow, hdead⟩
      · rw [hmissing]
        exact ⟨_, rfl⟩
      · rw [Bool.not_true, if_neg Bool.false_ne_true]
        cases hpresent : (some key.plaintextKey).filter (· ≠ "") with
        | none => exact ⟨_, rfl⟩
        | some presented =>
            obtain rfl := Option.some.inj (Option.filter_eq_some_iff.mp hpresent).1
            have hcheck : hasValidKey sha256Hex config
                ⟨(after sha256Hex table (before ++ between)).table, now', reachable'⟩
                key.plaintextKey ≠ .ok true := by
              obtain ⟨issuedRow, hissuedRow, hhash⟩ := issued_hasRow hissued
              obtain rfl := Option.some.inj (hissuedRow.symm.trans hrow)
              obtain ⟨row', hrow', hlater⟩ := @later_run sha256Hex _ _ _ between hrow
              have hcontains : (configuredApiKeys config).contains key.plaintextKey = false := by
                rw [List.contains_eq_mem, decide_eq_false hstatic]
              have hstands : (after sha256Hex table (before ++ between)).table.find?
                  key.record.keyId = some row' := by
                rw [after, Machine.applyAll_append]
                exact hrow'
              rw [hasValidKey, hcontains, ← hhash, ← hlater.keyHash]
              simp only [hstore, Bool.false_eq_true, if_false, if_true]
              exact not_postgresHasKey hstands (hlater.not_valid hdead hle)
            dsimp only
            cases hanswer : hasValidKey sha256Hex config
                ⟨(after sha256Hex table (before ++ between)).table, now', reachable'⟩
                key.plaintextKey with
            | error _ => exact ⟨_, rfl⟩
            | ok found =>
                cases found with
                | false => exact ⟨_, rfl⟩
                | true => exact absurd hanswer hcheck

/-- The digests of three keys. -/
def digests (plaintextKey : String) : String :=
  if plaintextKey = "vkey_first" then
    "9f3eeb66f6f4ab5f47d5d2aa9a7bfadda5cbfe1b240b16395f88041e9bdb3559"
  else if plaintextKey = "vkey_second" then
    "98ffc7085e9193207208ddb601f7b9f8c10e8f5ba6e28d2ca8fdfb44d8151922"
  else if plaintextKey = "vkey_third" then
    "eaaa5d950e4342b35bd7163973d4baaff2c2d9b2fcd0fd4138f7e56a4e043908"
  else ""

/-- A store, and neither static keys nor bootstrap tokens. -/
def storeOnly : Config where
  verifierApiKeys := []
  verifierStaticApiKeysEnabled := false
  verifierAdminTokens := []
  verifierBootstrapAdminTokensEnabled := false
  qrtrustNetworkDatabaseUrl := some "postgresql://db/qr"
  databaseUrl := none

/-- The first key, as it is issued at time zero. -/
def firstKey : IssuedVerifierAPIKey where
  record := ⟨"vkey_9f3eeb66f6f4ab5f47d5d2aa", "gate", 0, true⟩
  plaintextKey := "vkey_first"

/-- Issue the first key, and revoke it. -/
def issueAndRevoke : List Step :=
  [⟨.issueKey "r1" "gate" "vkey_first" none, 0, true⟩,
   ⟨.revokeKey "r2" firstKey.record.keyId, 1, true⟩]

/-- Issue a second key besides. -/
def issueSecond : Step := ⟨.issueKey "r3" "gate" "vkey_second" none, 2, true⟩

theorem rejected_iff_guarded_second_key :
    Rejected (enforceVerifierApiKey digests storeOnly
        ⟨(after digests .empty (issueAndRevoke ++ [issueSecond])).table, 3, true⟩
        ⟨(after digests .empty (issueAndRevoke ++ [issueSecond] ++ [])).table, 3, true⟩
        (some "vkey_first"))
      ↔ Guarded storeOnly
        ⟨(after digests .empty (issueAndRevoke ++ [issueSecond])).table, 3, true⟩ := by
  have hissued : Issued (after digests .empty (issueAndRevoke ++ [issueSecond])) firstKey :=
    ⟨"r1", .inl (by decide +kernel)⟩
  exact rejected_iff_guarded (by decide) (Int.le_refl 3) hissued
    (.inr ⟨rfl, by decide, _, rfl, .inl (by decide +kernel)⟩)

/-- **OPEN**: the only key is revoked, and the request with it passes, as one
    without a key does. -/
theorem revoked_key_passes :
    Issued (after digests .empty issueAndRevoke) firstKey
      ∧ Dead (after digests .empty issueAndRevoke).table 2 firstKey.record.keyId
      ∧ ¬ Rejected (enforceVerifierApiKey digests storeOnly
        ⟨(after digests .empty issueAndRevoke).table, 2, true⟩
        ⟨(after digests .empty issueAndRevoke).table, 2, true⟩ (some firstKey.plaintextKey))
      ∧ ¬ Rejected (enforceVerifierApiKey digests storeOnly
        ⟨(after digests .empty issueAndRevoke).table, 2, true⟩
        ⟨(after digests .empty issueAndRevoke).table, 2, true⟩ none) := by
  have hopen : authIsEnabled storeOnly
      ⟨(after digests .empty issueAndRevoke).table, 2, true⟩ = false := by decide +kernel
  have hpasses : ∀ provided, ¬ Rejected (enforceVerifierApiKey digests storeOnly
      ⟨(after digests .empty issueAndRevoke).table, 2, true⟩
      ⟨(after digests .empty issueAndRevoke).table, 2, true⟩ provided) := by
    rintro provided ⟨error, herror⟩
    rw [enforceVerifierApiKey, hopen] at herror
    cases herror
  exact ⟨⟨"r1", .inl (by decide +kernel)⟩, ⟨_, rfl, .inl (by decide +kernel)⟩, hpasses _,
    hpasses _⟩

end VerifierApiKeys
