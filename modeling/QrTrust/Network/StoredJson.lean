import QrTrust.Network.Json

/-! # A document after storage

    An artifact body is written as JSON and read back from a store that keeps
    the values but not the order of the keys.  `StoredAs v w` says that `w` is
    such a copy of `v`, with the keys of every object in any order.  Reading a
    field of the copy is reading it of the original, as long as no object
    repeats a key (`Distinct`), which no object of the host language does. -/

namespace JsonValue

mutual
/-- No object of the document repeats a key. -/
def Distinct : JsonValue → Prop
  | arr items => DistinctItems items
  | obj fields => (fields.map Prod.fst).Nodup ∧ DistinctFields fields
  | _ => True
/-- No object of the items repeats a key. -/
def DistinctItems : List JsonValue → Prop
  | [] => True
  | item :: rest => Distinct item ∧ DistinctItems rest
/-- No object of the values repeats a key. -/
def DistinctFields : List (String × JsonValue) → Prop
  | [] => True
  | (_, value) :: rest => Distinct value ∧ DistinctFields rest
end

mutual
/-- **STORED COPY**: the same values, with the keys of each object in any order. -/
inductive StoredAs : JsonValue → JsonValue → Prop
  | null : StoredAs null null
  | bool (b : Bool) : StoredAs (bool b) (bool b)
  | num (n : Rat) : StoredAs (num n) (num n)
  | str (s : String) : StoredAs (str s) (str s)
  | arr {items stored : List JsonValue} :
      StoredItems items stored → StoredAs (arr items) (arr stored)
  | obj {fields copies stored : List (String × JsonValue)} :
      StoredFields fields copies → copies.Perm stored → StoredAs (obj fields) (obj stored)
/-- Copies of the items, in their order. -/
inductive StoredItems : List JsonValue → List JsonValue → Prop
  | nil : StoredItems [] []
  | cons {item copy : JsonValue} {rest copies : List JsonValue} :
      StoredAs item copy → StoredItems rest copies → StoredItems (item :: rest) (copy :: copies)
/-- Copies of the values under their keys, before the keys are reordered. -/
inductive StoredFields : List (String × JsonValue) → List (String × JsonValue) → Prop
  | nil : StoredFields [] []
  | cons {key : String} {value copy : JsonValue} {rest copies : List (String × JsonValue)} :
      StoredAs value copy → StoredFields rest copies →
      StoredFields ((key, value) :: rest) ((key, copy) :: copies)
end

/-- The properties of an object of the host language: no key twice, at any depth. -/
structure JsonObject where
  fields : List (String × JsonValue)
  distinct : Distinct (obj fields)

/-! ## Distinct keys -/

theorem distinctFields_iff {fields : List (String × JsonValue)} :
    DistinctFields fields ↔ ∀ field ∈ fields, Distinct field.2 := by
  induction fields with
  | nil =>
      constructor
      · intro _ field hmem
        cases hmem
      · intro _
        trivial
  | cons field rest ih =>
      show Distinct field.2 ∧ DistinctFields rest ↔ _
      rw [ih, List.forall_mem_cons]

theorem distinctItems_iff {items : List JsonValue} :
    DistinctItems items ↔ ∀ item ∈ items, Distinct item := by
  induction items with
  | nil =>
      constructor
      · intro _ item hmem
        cases hmem
      · intro _
        trivial
  | cons item rest ih =>
      show Distinct item ∧ DistinctItems rest ↔ _
      rw [ih, List.forall_mem_cons]

/-- With distinct keys, a property is an entry. -/
theorem prop_obj_iff {fields : List (String × JsonValue)} {key : String} {value : JsonValue}
    (h : (fields.map Prod.fst).Nodup) :
    (obj fields).prop key = some value ↔ (key, value) ∈ fields :=
  OrderedMap.get?_eq_some_iff ⟨fields, h⟩ key value

theorem Distinct.prop {v value : JsonValue} {key : String} (h : Distinct v)
    (hprop : v.prop key = some value) : Distinct value := by
  cases v with
  | obj fields =>
      have hmem := (prop_obj_iff h.1).mp hprop
      exact distinctFields_iff.mp h.2 (key, value) hmem
  | _ => cases hprop

/-! ## Reading a stored copy -/

mutual
/-- Every document is a stored copy of itself. -/
theorem StoredAs.refl (v : JsonValue) : StoredAs v v := by
  cases v with
  | null => exact .null
  | bool b => exact .bool b
  | num n => exact .num n
  | str s => exact .str s
  | arr items => exact .arr (StoredItems.refl items)
  | obj fields => exact .obj (StoredFields.refl fields) (List.Perm.refl _)
/-- Items are copies of themselves. -/
theorem StoredItems.refl (items : List JsonValue) : StoredItems items items := by
  cases items with
  | nil => exact .nil
  | cons item rest => exact .cons (StoredAs.refl item) (StoredItems.refl rest)
/-- Fields are copies of themselves. -/
theorem StoredFields.refl (fields : List (String × JsonValue)) : StoredFields fields fields := by
  cases fields with
  | nil => exact .nil
  | cons field rest =>
      obtain ⟨key, value⟩ := field
      exact .cons (StoredAs.refl value) (StoredFields.refl rest)
end

theorem StoredFields.map_fst {fields copies : List (String × JsonValue)}
    (h : StoredFields fields copies) : copies.map Prod.fst = fields.map Prod.fst := by
  induction fields generalizing copies with
  | nil =>
      cases h
      rfl
  | cons field rest ih =>
      cases h with
      | cons _ hrest => rw [List.map_cons, List.map_cons, ih hrest]

theorem StoredFields.exists_copy {fields copies : List (String × JsonValue)} {key : String}
    {value : JsonValue} (h : StoredFields fields copies) (hmem : (key, value) ∈ fields) :
    ∃ copy, (key, copy) ∈ copies ∧ StoredAs value copy := by
  induction fields generalizing copies with
  | nil => cases hmem
  | cons field rest ih =>
      cases h with
      | cons hvalue hrest =>
          rcases List.mem_cons.mp hmem with heq | hmem
          · obtain ⟨rfl, rfl⟩ := Prod.mk.inj heq
            exact ⟨_, List.mem_cons_self .., hvalue⟩
          · obtain ⟨copy, hcopy, hstored⟩ := ih hrest hmem
            exact ⟨copy, List.mem_cons_of_mem _ hcopy, hstored⟩

/-- The keys of a copy are as distinct as those of the original. -/
theorem StoredFields.nodup {fields copies stored : List (String × JsonValue)}
    (h : StoredFields fields copies) (hperm : copies.Perm stored)
    (hnodup : (fields.map Prod.fst).Nodup) : (stored.map Prod.fst).Nodup := by
  rw [← h.map_fst] at hnodup
  exact (hperm.map Prod.fst).nodup_iff.mp hnodup

/-- **READ**: a property of the original has its copy under the same key. -/
theorem StoredAs.prop_some {v w value : JsonValue} {key : String} (h : StoredAs v w)
    (hdistinct : Distinct v) (hprop : v.prop key = some value) :
    ∃ copy, w.prop key = some copy ∧ StoredAs value copy := by
  cases h with
  | obj hfields hperm =>
      obtain ⟨copy, hcopy, hstored⟩ := hfields.exists_copy ((prop_obj_iff hdistinct.1).mp hprop)
      have hnodup := hfields.nodup hperm hdistinct.1
      exact ⟨copy, (prop_obj_iff hnodup).mpr (hperm.mem_iff.mp hcopy), hstored⟩
  | _ => cases hprop

/-- A property the original lacks is missing from the copy. -/
theorem StoredAs.prop_none {v w : JsonValue} {key : String} (h : StoredAs v w)
    (hprop : v.prop key = none) : w.prop key = none := by
  cases h with
  | @obj fields copies stored hfields hperm =>
      have hkeys : ∀ entry ∈ fields, entry.1 ≠ key := by
        intro entry hentry heq
        have hnone := List.find?_eq_none.mp (Option.map_eq_none_iff.mp hprop) entry hentry
        exact hnone (decide_eq_true heq)
      refine Option.map_eq_none_iff.mpr (List.find?_eq_none.mpr fun entry hentry heq => ?_)
      have hmem : entry.1 ∈ copies.map Prod.fst :=
        List.mem_map.mpr ⟨entry, hperm.mem_iff.mpr hentry, rfl⟩
      rw [hfields.map_fst] at hmem
      obtain ⟨original, horiginal, hkey⟩ := List.mem_map.mp hmem
      exact hkeys original horiginal (hkey.trans (of_decide_eq_true heq))
  | _ => rfl

theorem StoredAs.asString {v w : JsonValue} (h : StoredAs v w) : w.asString = v.asString := by
  cases h with
  | _ => rfl

/-- A string field reads the same. -/
theorem StoredAs.stringField {v w : JsonValue} (h : StoredAs v w) (hdistinct : Distinct v)
    (key : String) : w.stringField key = v.stringField key := by
  rw [JsonValue.stringField, JsonValue.stringField]
  cases hprop : v.prop key with
  | none => rw [h.prop_none hprop]
  | some value =>
      obtain ⟨copy, hcopy, hstored⟩ := h.prop_some hdistinct hprop
      rw [hcopy]
      exact hstored.asString

/-- The strings of an array read the same. -/
theorem StoredItems.filterMap_asString {items stored : List JsonValue}
    (h : StoredItems items stored) :
    stored.filterMap JsonValue.asString = items.filterMap JsonValue.asString := by
  induction items generalizing stored with
  | nil =>
      cases h
      rfl
  | cons item rest ih =>
      cases h with
      | cons hitem hrest =>
          rw [List.filterMap_cons, List.filterMap_cons, hitem.asString, ih hrest]

end JsonValue
