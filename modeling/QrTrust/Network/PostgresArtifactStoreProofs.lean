import Mathlib.Data.List.Pairwise
import Mathlib.Data.String.Basic
import QrTrust.Network.ArtifactPublicationProofs
import QrTrust.Network.CanonicalJsonProofs
import QrTrust.Network.PostgresArtifactStore

/-! # The table against the map

    The map takes every artifact.  The table refuses types, versions, texts and
    dates that its columns do not hold, and a hash that another id has; a second
    write under an id leaves the type of the first; and a body comes back with
    its keys in another order, which the canonical text undoes only where the
    comparison of keys tells them apart.  Where every call stays clear of these
    (`Storable`), the two stores give the same answers in every run
    (`answers_agree`). -/

namespace PostgresArtifactStore

open ArtifactPublication NatsPropagation PublicationWorkers SignatureVerification KeyedSort
  JsonValue CanonicalJson

variable {host : StoreHost} {localeLess : String → String → Bool}

/-! ## What the column gives back -/

mutual
/-- **READ BACK**: the column keeps every value under its key. -/
theorem storedAs_readBack (v : JsonValue) : StoredAs v (readBack v) := by
  cases v with
  | null => exact .null
  | bool b => exact .bool b
  | num n => exact .num n
  | str s => exact .str s
  | arr items => exact .arr (storedItems_readBack items)
  | obj fields =>
      obtain ⟨entries, hentries, hperm⟩ :=
        exists_fromEntries (sortByKey jsonbKeyLess (readBackFields fields))
      rw [readBack, hentries]
      exact .obj (storedFields_readBack fields) (hperm.trans (perm_sortByKey _)).symm
/-- The items of an array. -/
theorem storedItems_readBack (items : List JsonValue) :
    StoredItems items (readBackItems items) := by
  cases items with
  | nil => exact .nil
  | cons item rest => exact .cons (storedAs_readBack item) (storedItems_readBack rest)
/-- The properties of an object, before they are reordered. -/
theorem storedFields_readBack (fields : List (String × JsonValue)) :
    StoredFields fields (readBackFields fields) := by
  cases fields with
  | nil => exact .nil
  | cons field rest =>
      obtain ⟨key, value⟩ := field
      exact .cons (storedAs_readBack value) (storedFields_readBack rest)
end

/-- An object comes back as an object. -/
theorem isRecord_readBack {v : JsonValue} (h : v.isRecord = true) :
    (readBack v).isRecord = true := by
  cases v with
  | obj fields => rfl
  | _ => cases h

theorem canonicalJsonBody_record {v : JsonValue} (h : v.isRecord = true) :
    canonicalJsonBody host v = .succeed v := by
  cases v with
  | obj fields => rfl
  | _ => cases h

/-! ## The digest of what comes back -/

mutual
/-- The comparison of keys tells the keys of every object apart. -/
def KeysApart (localeLess : String → String → Bool) : JsonValue → Prop
  | .arr items => ItemsApart localeLess items
  | .obj fields =>
      (fields.map Prod.fst).Pairwise
          (fun a b => localeLess a b = true ∨ localeLess b a = true)
        ∧ ValuesApart localeLess fields
  | _ => True
/-- It does so in every item. -/
def ItemsApart (localeLess : String → String → Bool) : List JsonValue → Prop
  | [] => True
  | item :: rest => KeysApart localeLess item ∧ ItemsApart localeLess rest
/-- It does so in every value. -/
def ValuesApart (localeLess : String → String → Bool) : List (String × JsonValue) → Prop
  | [] => True
  | (_, value) :: rest => KeysApart localeLess value ∧ ValuesApart localeLess rest
end

/-- Entries whose keys are told apart, and that are not, are one entry. -/
theorem eq_of_apart {ν : Type} {entries : List (String × ν)}
    (h : (entries.map Prod.fst).Pairwise
      fun a b => localeLess a b = true ∨ localeLess b a = true)
    {a b : String × ν} (ha : a ∈ entries) (hb : b ∈ entries)
    (hab : localeLess a.1 b.1 = false) (hba : localeLess b.1 a.1 = false) : a = b := by
  by_contra hne
  have hpairs := List.pairwise_map.mp h
  have hsymm : Std.Symm fun a b : String × ν =>
      localeLess a.1 b.1 = true ∨ localeLess b.1 a.1 = true := ⟨fun _ _ hor => hor.symm⟩
  rcases hpairs.forall ha hb hne with hless | hless
  · rw [hab] at hless
    cases hless
  · rw [hba] at hless
    cases hless

mutual
/-- **ONE CANONICAL FORM**: a stored copy has the canonical form of the original. -/
theorem canonicalizeForJson_stored (hless : StrictWeak localeLess) {v w : JsonValue}
    (h : StoredAs v w) (hapart : KeysApart localeLess v) :
    canonicalizeForJson localeLess w = canonicalizeForJson localeLess v := by
  cases h with
  | null => rfl
  | bool => rfl
  | num => rfl
  | str => rfl
  | arr hitems =>
      rw [canonicalizeForJson, canonicalizeForJson, canonicalizeItems_stored hless hitems hapart]
  | @obj fields copies stored hfields hperm =>
      have hcopies := canonicalizeFields_stored hless hfields hapart.2
      have hkeys : (canonicalizeFields localeLess fields).map Prod.fst = fields.map Prod.fst := by
        rw [canonicalizeFields_eq, List.map_map]
        rfl
      have hreordered : (canonicalizeFields localeLess fields).Perm
          (canonicalizeFields localeLess stored) := by
        rw [← hcopies, canonicalizeFields_eq, canonicalizeFields_eq]
        exact hperm.map _
      have hsorted := hless.sortByKey_eq_of_perm
        (fun a ha b hb => eq_of_apart (hkeys ▸ hapart.1) ha hb) hreordered
      rw [canonicalizeForJson, canonicalizeForJson]
      exact congrArg fromEntries hsorted.symm
/-- The items of a stored copy. -/
theorem canonicalizeItems_stored (hless : StrictWeak localeLess) {items stored : List JsonValue}
    (h : StoredItems items stored) (hapart : ItemsApart localeLess items) :
    canonicalizeItems localeLess stored = canonicalizeItems localeLess items := by
  cases h with
  | nil => rfl
  | cons hitem hrest =>
      rw [canonicalizeItems, canonicalizeItems, canonicalizeForJson_stored hless hitem hapart.1,
        canonicalizeItems_stored hless hrest hapart.2]
/-- The properties of a stored copy, before they are reordered. -/
theorem canonicalizeFields_stored (hless : StrictWeak localeLess)
    {fields copies : List (String × JsonValue)} (h : StoredFields fields copies)
    (hapart : ValuesApart localeLess fields) :
    canonicalizeFields localeLess copies = canonicalizeFields localeLess fields := by
  cases h with
  | nil => rfl
  | cons hvalue hrest =>
      rw [canonicalizeFields, canonicalizeFields,
        canonicalizeForJson_stored hless hvalue hapart.1,
        canonicalizeFields_stored hless hrest hapart.2]
end

/-- **SAME DIGEST**: what the column gives back hashes to what was written. -/
theorem hashJson_readBack (hless : StrictWeak host.localeLess) {v : JsonValue}
    (hapart : KeysApart host.localeLess v) : hashJson host (readBack v) = hashJson host v := by
  rw [hashJson, hashJson, canonicalJsonStringify, canonicalJsonStringify,
    canonicalizeForJson_stored hless (storedAs_readBack v) hapart]

/-! ## What the table takes -/

/-- **STORABLE**: the body names its root; every column holds its parameter, and
    none of those that `get` wants is empty or negative; no other id has the hash;
    an artifact under this id has this type; and the keys of every object are told
    apart. -/
structure Storable (host : StoreHost) (memory : MemoryStore) (artifact : SignedArtifact) :
    Prop where
  rooted : (artifactScopeFromBody artifact.body).rootProgramId.isSome = true
  admitted : admittedTypes.contains artifact.artifactType = true
  version : fitsBigint artifact.version = true ∧ 0 ≤ artifact.version
  idText : artifact.artifactId ≠ "" ∧ isText artifact.artifactId = true
  hashText : artifact.artifactHash ≠ "" ∧ isText artifact.artifactHash = true
  bodyJsonb : isJsonb artifact.body = true
  publishedAt :
    (artifactScopeFromBody artifact.body).publishedAt.all host.parsesTimestamptz = true
  soleHash : ∀ other ∈ memory.values, other.artifactHash = artifact.artifactHash →
    other.artifactId = artifact.artifactId
  sameType : ∀ other, memory.get? artifact.artifactId = some other →
    other.artifactType = artifact.artifactType
  keysApart : KeysApart host.localeLess artifact.body

/-- A call that stays clear of what the table refuses or changes. -/
def Meets (host : StoreHost) (s : Stores) : Call → Prop
  | .put artifact => Storable host s.memory artifact
  | .get artifactId => isText artifactId = true

/-! ## A row for each artifact -/

/-- **HOLDS**: the row says what the artifact says, and can be read. -/
structure Holds (host : StoreHost) (artifactId : String) (artifact : SignedArtifact)
    (row : PublishedArtifactRow) : Prop where
  sameId : artifact.artifactId = artifactId
  sameType : row.artifactType = artifact.artifactType
  sameHash : row.artifactHash = artifact.artifactHash
  sameVersion : row.version = artifact.version
  sameBody : row.canonicalJson = artifact.body
  readable : artifactId ≠ "" ∧ row.artifactHash ≠ "" ∧ row.artifactType ≠ "" ∧ 0 ≤ row.version
  record : artifact.body.isRecord = true
  keysApart : KeysApart host.localeLess artifact.body

/-- **MIRRORED**: the map and the table have the same ids, and each row holds its
    artifact. -/
def Mirrored (host : StoreHost) (s : Stores) : Prop :=
  ∀ artifactId, (s.memory.get? artifactId = none ∧ s.rows.get? artifactId = none)
    ∨ ∃ artifact row, s.memory.get? artifactId = some artifact
        ∧ s.rows.get? artifactId = some row ∧ Holds host artifactId artifact row

theorem mirrored_empty : Mirrored host Stores.empty := fun _ => .inl ⟨rfl, rfl⟩

/-- A body that names a root is an object. -/
theorem isRecord_of_rooted {body : JsonValue}
    (h : (artifactScopeFromBody body).rootProgramId.isSome = true) : body.isRecord = true := by
  cases body with
  | obj fields => rfl
  | _ => cases h

theorem ne_empty_of_admitted {artifactType : String}
    (h : admittedTypes.contains artifactType = true) :
    artifactType ≠ "" ∧ isText artifactType = true := by
  have hall : ∀ admitted ∈ admittedTypes, admitted ≠ "" ∧ isText admitted = true := by decide +kernel
  exact hall artifactType (List.contains_iff_mem.mp h)

theorem Mirrored.get_row {s : Stores} (hs : Mirrored host s) {artifactId : String}
    {row : PublishedArtifactRow} (hrow : s.rows.get? artifactId = some row) :
    ∃ artifact, s.memory.get? artifactId = some artifact
      ∧ Holds host artifactId artifact row := by
  rcases hs artifactId with ⟨-, hnone⟩ | ⟨artifact, row', hartifact, hrow', hholds⟩
  · rw [hrow] at hnone
    cases hnone
  · rw [hrow] at hrow'
    cases hrow'
    exact ⟨artifact, hartifact, hholds⟩

/-- The constraint on hashes, from the artifacts of the map. -/
theorem soleHash_rows {s : Stores} {artifact : SignedArtifact} (hs : Mirrored host s)
    (h : Storable host s.memory artifact) :
    (s.rows.entries.all fun entry =>
      entry.1 = artifact.artifactId || entry.2.artifactHash ≠ artifact.artifactHash) = true := by
  refine List.all_eq_true.mpr fun entry hentry => ?_
  obtain ⟨artifactId, row⟩ := entry
  obtain ⟨other, hother, hholds⟩ :=
    hs.get_row ((s.rows.get?_eq_some_iff artifactId row).mpr hentry)
  by_cases hhash : row.artifactHash = artifact.artifactHash
  · have hvalue : other ∈ s.memory.values :=
      OrderedMap.mem_values.mpr ⟨artifactId, (s.memory.get?_eq_some_iff _ _).mp hother⟩
    have hsame := h.soleHash other hvalue (hholds.sameHash.symm.trans hhash)
    have hid : artifactId = artifact.artifactId := hholds.sameId.symm.trans hsame
    simp [hid]
  · simp [hhash]

/-- **WRITE**: a storable artifact gets its row. -/
theorem execute_of_storable {s : Stores} {artifact : SignedArtifact} (hs : Mirrored host s)
    (h : Storable host s.memory artifact) :
    ∃ row, execute host s.rows artifact = some (s.rows.set artifact.artifactId row)
      ∧ Holds host artifact.artifactId artifact row := by
  obtain ⟨root, hroot⟩ := Option.isSome_iff_exists.mp h.rooted
  have htype := ne_empty_of_admitted h.admitted
  have hholds : ∀ row : PublishedArtifactRow, row.artifactType = artifact.artifactType →
      row.canonicalJson = artifact.body → row.artifactHash = artifact.artifactHash →
      row.version = artifact.version → Holds host artifact.artifactId artifact row := by
    intro row hsameType hsameBody hsameHash hsameVersion
    refine ⟨rfl, hsameType, hsameHash, hsameVersion, hsameBody, ⟨h.idText.1, ?_, ?_, ?_⟩,
      isRecord_of_rooted h.rooted, h.keysApart⟩
    · rw [hsameHash]
      exact h.hashText.1
    · rw [hsameType]
      exact htype.1
    · rw [hsameVersion]
      exact h.version.2
  have hexecute : execute host s.rows artifact = publishedArtifactCommand artifact s.rows := by
    simp only [execute, h.idText.2, htype.2, h.hashText.2, h.bodyJsonb, h.publishedAt, guard_true]
    rfl
  rw [hexecute, publishedArtifactCommand]
  simp only [hroot, h.admitted, h.version.1, soleHash_rows hs h]
  refine ⟨_, rfl, ?_⟩
  rcases hs artifact.artifactId with ⟨-, hnone⟩ | ⟨other, row, hother, hrow, hrowHolds⟩
  · rw [hnone]
    exact hholds _ rfl rfl rfl rfl
  · rw [hrow]
    exact hholds _ (hrowHolds.sameType.trans (h.sameType other hother)) rfl rfl rfl

/-- A statement that succeeds is the whole of `put`. -/
theorem put_of_execute {rows rows' : PublishedArtifacts} {artifact : SignedArtifact}
    (hrooted : (artifactScopeFromBody artifact.body).rootProgramId.isSome = true)
    (hexecute : execute host rows artifact = some rows') :
    put host rows artifact = (.succeed artifact, rows') := by
  obtain ⟨root, hroot⟩ := Option.isSome_iff_exists.mp hrooted
  rw [put, hroot]
  simp only [hexecute]

/-- **READ**: a row that holds an artifact is read as that artifact, with the body
    that the column gives back. -/
theorem get_of_holds {rows : PublishedArtifacts} {artifactId : String}
    {artifact : SignedArtifact} {row : PublishedArtifactRow} (htext : isText artifactId = true)
    (hrow : rows.get? artifactId = some row) (h : Holds host artifactId artifact row) :
    get host rows artifactId
      = .succeed (some { artifact with body := readBack artifact.body }) := by
  obtain ⟨hid, hhash, htype, hversion⟩ := h.readable
  have hdecoded : postgresArtifactRowFromRecord artifactId row
      = .ok ⟨artifactId, row.artifactHash, row.artifactType, row.version,
          readBack row.canonicalJson⟩ := by
    rw [postgresArtifactRowFromRecord, requireStringField, if_neg hid, requireStringField,
      if_neg hhash, requireStringField, if_neg htype, requireNumberField,
      if_neg (Rat.not_lt.mpr hversion)]
    rfl
  have hbody := @canonicalJsonBody_record host _ (isRecord_readBack h.record)
  rw [get, queryOne, if_pos htext, hrow]
  simp only [decodePostgresArtifactRow, hdecoded, Exit.bind, h.sameBody, hbody, h.sameHash,
    h.sameType, h.sameVersion]
  rw [← h.sameId]

theorem get_of_none {rows : PublishedArtifacts} {artifactId : String}
    (htext : isText artifactId = true) (hrow : rows.get? artifactId = none) :
    get host rows artifactId = .succeed none := by
  rw [get, queryOne, if_pos htext, hrow]
  rfl

/-! ## One call, and a run -/

/-- **MIRRORED STEP**: a call that stays clear keeps a row for each artifact. -/
theorem mirrored_apply {s : Stores} {call : Call} (hs : Mirrored host s)
    (h : Meets host s call) : Mirrored host ((machine host).apply s call) := by
  cases call with
  | get artifactId => exact hs
  | put artifact =>
      obtain ⟨row, hexecute, hholds⟩ := execute_of_storable hs h
      have hput := put_of_execute h.rooted hexecute
      intro artifactId
      show ((s.memory.set artifact.artifactId artifact).get? artifactId = none
          ∧ (put host s.rows artifact).2.get? artifactId = none)
        ∨ ∃ other row, (s.memory.set artifact.artifactId artifact).get? artifactId = some other
          ∧ (put host s.rows artifact).2.get? artifactId = some row
          ∧ Holds host artifactId other row
      rw [hput]
      by_cases hid : artifactId = artifact.artifactId
      · subst hid
        exact .inr ⟨artifact, row, OrderedMap.get?_set_self .., OrderedMap.get?_set_self .., hholds⟩
      · rw [OrderedMap.get?_set_ne _ _ hid, OrderedMap.get?_set_ne _ _ hid]
        exact hs artifactId

/-- **SAME ARTIFACT**: the same id, type, version and hash, a body with the same
    values under the same keys, and the same digest of it. -/
structure SameArtifact (host : StoreHost) (original copy : SignedArtifact) : Prop where
  artifactId : copy.artifactId = original.artifactId
  artifactType : copy.artifactType = original.artifactType
  version : copy.version = original.version
  artifactHash : copy.artifactHash = original.artifactHash
  body : StoredAs original.body copy.body
  digest : hashJson host copy.body = hashJson host original.body

/-- **AGREE**: both succeed, with nothing or with the same artifact. -/
def Agree (host : StoreHost) :
    Exit NetworkError (Option SignedArtifact) → Exit NetworkError (Option SignedArtifact) → Prop
  | .succeed none, .succeed none => True
  | .succeed (some original), .succeed (some copy) => SameArtifact host original copy
  | _, _ => False

/-- **ANSWER**: on mirrored stores a call that stays clear is answered the same. -/
theorem agree_of_mirrored (hless : StrictWeak host.localeLess) {s : Stores} {call : Call}
    (hs : Mirrored host s) (h : Meets host s call) :
    Agree host (s.memoryAnswer call) (s.postgresAnswer host call) := by
  cases call with
  | put artifact =>
      obtain ⟨row, hexecute, -⟩ := execute_of_storable hs h
      show Agree host _ ((put host s.rows artifact).1.bind _)
      rw [put_of_execute h.rooted hexecute]
      exact ⟨rfl, rfl, rfl, rfl, .refl _, rfl⟩
  | get artifactId =>
      show Agree host (.succeed (s.memory.get? artifactId)) (get host s.rows artifactId)
      rcases hs artifactId with ⟨hnone, hrow⟩ | ⟨artifact, row, hartifact, hrow, hholds⟩
      · rw [hnone, get_of_none h hrow]
        trivial
      · rw [hartifact, get_of_holds h hrow hholds]
        exact ⟨rfl, rfl, rfl, rfl, storedAs_readBack artifact.body,
          hashJson_readBack hless hholds.keysApart⟩

/-- **ONE STORE**: in a run whose calls stay clear of what the table refuses or
    changes, every call is answered the same by the table and by the map. -/
theorem answers_agree (hless : StrictWeak host.localeLess) {calls : List Call}
    (hcalls : (machine host).EachMeets (Meets host) Stores.empty calls) {before : List Call}
    {call : Call} (hnext : before ++ [call] <+: calls) :
    Agree host (((machine host).applyAll Stores.empty before).memoryAnswer call)
      (((machine host).applyAll Stores.empty before).postgresAnswer host call) := by
  have hbefore : before <+: calls := (List.prefix_append before [call]).trans hnext
  have hmirrored := (machine host).prefix_invariant (fun _ _ => mirrored_apply) mirrored_empty
    hcalls before hbefore
  exact agree_of_mirrored hless hmirrored (hcalls.next hnext)

/-! ## A run that stays clear, and two that do not -/

/-- A host whose digest is the text itself. -/
def demoStoreHost : StoreHost where
  localeLess a b := decide (a < b)
  numberText n := toString n.num
  verifyEd25519 _ _ _ := false
  sha256 text := text
  parseJson _ := none
  parsesTimestamptz _ := true

theorem demoStore_localeLess : StrictWeak demoStoreHost.localeLess :=
  strictTotal_lt.weak

/-- An artifact with the digest of its body. -/
def demoArtifact (artifactType : String) (version : Rat) : SignedArtifact :=
  let body := .obj [("version", .num version), ("root_program_id", .str "root:acme")]
  { artifactId := "art-1"
    artifactHash := "sha256:" ++ hashJson demoStoreHost body
    artifactType
    version
    body }

/-- An artifact is written, replaced by its next version, and read. -/
def demoCalls : List Call :=
  [.put (demoArtifact "issuer_record" 1), .put (demoArtifact "issuer_record" 2), .get "art-1"]

theorem demo_storable {memory : MemoryStore} {version : Rat} (hversion : version = 1 ∨ version = 2)
    (hmemory : ∀ other ∈ memory.values,
      other.artifactId = "art-1" ∧ other.artifactType = "issuer_record") :
    Storable demoStoreHost memory (demoArtifact "issuer_record" version) where
  rooted := rfl
  admitted := rfl
  version := by rcases hversion with rfl | rfl <;> decide +kernel
  idText := (by decide +kernel : "art-1" ≠ "" ∧ isText "art-1" = true)
  hashText := by rcases hversion with rfl | rfl <;> decide +kernel
  bodyJsonb := rfl
  publishedAt := rfl
  soleHash other hother _ := (hmemory other hother).1
  sameType other hother := (hmemory other (OrderedMap.mem_values.mpr
    ⟨_, (memory.get?_eq_some_iff _ _).mp hother⟩)).2
  keysApart := by
    have hkeys : ["version", "root_program_id"].Pairwise fun a b =>
        demoStoreHost.localeLess a b = true ∨ demoStoreHost.localeLess b a = true := by
      decide +kernel
    exact ⟨hkeys, trivial, trivial, trivial⟩

theorem demo_meets : (machine demoStoreHost).EachMeets (Meets demoStoreHost) Stores.empty demoCalls := by
  refine ⟨demo_storable (.inl rfl) ?_, demo_storable (.inr rfl) ?_, rfl, trivial⟩
  · intro other hother
    cases hother
  · intro other hother
    obtain rfl := List.mem_singleton.mp hother
    exact ⟨rfl, rfl⟩

/-- What was written last is read, from both. -/
theorem demo_calls_agree :
    Agree demoStoreHost
      (((machine demoStoreHost).applyAll Stores.empty (demoCalls.take 2)).memoryAnswer (.get "art-1"))
      (((machine demoStoreHost).applyAll Stores.empty (demoCalls.take 2)).postgresAnswer
        demoStoreHost (.get "art-1")) :=
  answers_agree demoStore_localeLess demo_meets ⟨[], rfl⟩

/-- An issuer record, and then a destination policy under its id. -/
def retypedCalls : List Call :=
  [.put (demoArtifact "issuer_record" 1), .put (demoArtifact "destination_policy" 2)]

/-- **DIFFERENT STORES**: the table refuses a runtime observation, which the map
    takes; and a destination policy under the id of an issuer record is read as an
    issuer record from the table.  All three bodies name their root. -/
theorem stores_differ :
    (∀ artifactType version,
        (artifactScopeFromBody (demoArtifact artifactType version).body).rootProgramId
          = some "root:acme")
      ∧ ¬ Agree demoStoreHost
          (Stores.empty.memoryAnswer (.put (demoArtifact "runtime_safety_observation" 1)))
          (Stores.empty.postgresAnswer demoStoreHost
            (.put (demoArtifact "runtime_safety_observation" 1)))
      ∧ ¬ Agree demoStoreHost
          (((machine demoStoreHost).applyAll Stores.empty retypedCalls).memoryAnswer (.get "art-1"))
          (((machine demoStoreHost).applyAll Stores.empty retypedCalls).postgresAnswer
            demoStoreHost (.get "art-1")) := by
  refine ⟨fun _ _ => rfl, fun h => h, fun h => ?_⟩
  have hread : SameArtifact demoStoreHost (demoArtifact "destination_policy" 2)
      { demoArtifact "issuer_record" 2 with
        body := readBack (demoArtifact "issuer_record" 2).body } := h
  have htype := hread.artifactType
  revert htype
  decide +kernel

end PostgresArtifactStore
