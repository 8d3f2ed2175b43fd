import Mathlib.Data.List.Induction
import Mathlib.Data.List.Nodup
import Mathlib.Tactic.Common

/-! # Insertion-ordered maps

    The map of a scripting language: an association list whose keys are
    distinct, iterated in insertion order.  Overwriting a key keeps its
    position and a new key goes to the end, which is what sets this apart from
    a list map that conses in front.  The invariant on the keys is a field, so
    that no operation can lose it, and every operation is described by the
    entries it has (`mem_set`, `mem_filter`, `mem_mapValues`). -/

/-- A map with distinct keys, in insertion order. -/
structure OrderedMap (κ ν : Type) where
  entries : List (κ × ν)
  nodup : (entries.map Prod.fst).Nodup

namespace OrderedMap

variable {κ ν : Type} [DecidableEq κ]

/-- The empty map. -/
def empty : OrderedMap κ ν := ⟨[], List.nodup_nil⟩

instance : Inhabited (OrderedMap κ ν) := ⟨empty⟩

/-- The keys, in insertion order. -/
def keys (m : OrderedMap κ ν) : List κ := m.entries.map Prod.fst

/-- The values, in insertion order. -/
def values (m : OrderedMap κ ν) : List ν := m.entries.map Prod.snd

/-- The value under a key. -/
def get? (m : OrderedMap κ ν) (k : κ) : Option ν :=
  (m.entries.find? fun e => e.1 = k).map Prod.snd

/-- Is the key present? -/
def contains (m : OrderedMap κ ν) (k : κ) : Bool := k ∈ m.keys

/-- The entries after writing `v` under `k`. -/
def setEntries (entries : List (κ × ν)) (k : κ) (v : ν) : List (κ × ν) :=
  if k ∈ entries.map Prod.fst then
    entries.map fun e => if e.1 = k then (k, v) else e
  else entries ++ [(k, v)]

/-- Overwriting keeps the keys as they are. -/
theorem map_fst_overwrite (entries : List (κ × ν)) (k : κ) (v : ν) :
    (entries.map fun e => if e.1 = k then (k, v) else e).map Prod.fst
      = entries.map Prod.fst := by
  rw [List.map_map]
  refine List.map_congr_left fun e _ => ?_
  show (if e.1 = k then (k, v) else e).1 = e.1
  by_cases h : e.1 = k
  · rw [if_pos h]; exact h.symm
  · rw [if_neg h]

theorem nodup_setEntries {entries : List (κ × ν)} (h : (entries.map Prod.fst).Nodup)
    (k : κ) (v : ν) : ((setEntries entries k v).map Prod.fst).Nodup := by
  rw [setEntries]
  by_cases hk : k ∈ entries.map Prod.fst
  · rw [if_pos hk, map_fst_overwrite]
    exact h
  · rw [if_neg hk, List.map_append]
    exact List.Nodup.append h (List.nodup_singleton k)
      (List.disjoint_singleton.mpr hk)

/-- Write a value: overwrite in place, or append. -/
def set (m : OrderedMap κ ν) (k : κ) (v : ν) : OrderedMap κ ν :=
  ⟨setEntries m.entries k v, nodup_setEntries m.nodup k v⟩

/-- Keep the entries that satisfy a predicate. -/
def filter (m : OrderedMap κ ν) (p : κ × ν → Bool) : OrderedMap κ ν :=
  ⟨m.entries.filter p, m.nodup.sublist (List.filter_sublist.map _)⟩

/-- Remove a key. -/
def erase (m : OrderedMap κ ν) (k : κ) : OrderedMap κ ν := m.filter fun e => e.1 ≠ k

/-- Rewrite every value in place. -/
def mapValues (m : OrderedMap κ ν) (f : ν → ν) : OrderedMap κ ν :=
  ⟨m.entries.map fun e => (e.1, f e.2), by
    have hkeys : (m.entries.map fun e => (e.1, f e.2)).map Prod.fst
        = m.entries.map Prod.fst := by
      rw [List.map_map]; rfl
    rw [hkeys]
    exact m.nodup⟩

/-- Rewrite every value in place, knowing its key. -/
def update (m : OrderedMap κ ν) (f : κ → ν → ν) : OrderedMap κ ν :=
  ⟨m.entries.map fun e => (e.1, f e.1 e.2), by
    have hkeys : (m.entries.map fun e => (e.1, f e.1 e.2)).map Prod.fst
        = m.entries.map Prod.fst := by
      rw [List.map_map]; rfl
    rw [hkeys]
    exact m.nodup⟩

/-- Write a list of entries, the last one under a key winning. -/
def setAll (m : OrderedMap κ ν) (entries : List (κ × ν)) : OrderedMap κ ν :=
  entries.foldl (fun m e => m.set e.1 e.2) m

/-- The map of a list of entries. -/
def ofList (entries : List (κ × ν)) : OrderedMap κ ν := empty.setAll entries

/-! ## Lookup -/

/-- **LOOKUP**: a key finds a value exactly when that entry is present. -/
theorem get?_eq_some_iff (m : OrderedMap κ ν) (k : κ) (v : ν) :
    m.get? k = some v ↔ (k, v) ∈ m.entries := by
  obtain ⟨entries, hnodup⟩ := m
  show (entries.find? fun e => decide (e.1 = k)).map Prod.snd = some v ↔ (k, v) ∈ entries
  induction entries with
  | nil => simp
  | cons hd rest ih =>
      obtain ⟨k', v'⟩ := hd
      obtain ⟨hnotMem, hrest⟩ := List.nodup_cons.mp hnodup
      by_cases hk : k' = k
      · subst hk
        have hnone : ∀ w, (k', w) ∉ rest :=
          fun w hw => hnotMem (List.mem_map.mpr ⟨(k', w), hw, rfl⟩)
        simp [hnone, eq_comm]
      · have hne : ¬ k = k' := fun h => hk h.symm
        simp only [List.find?_cons, hk, decide_false, List.mem_cons, Prod.mk.injEq, hne,
          false_and, false_or]
        exact ih hrest

theorem get?_eq_none_iff (m : OrderedMap κ ν) (k : κ) :
    m.get? k = none ↔ ∀ v, (k, v) ∉ m.entries := by
  constructor
  · intro h v hv
    rw [← get?_eq_some_iff, h] at hv
    exact nomatch hv
  · intro h
    cases hget : m.get? k with
    | none => rfl
    | some v => exact absurd ((get?_eq_some_iff m k v).mp hget) (h v)

/-- Two lookups agree when the entries under their keys do. -/
theorem get?_congr {m m' : OrderedMap κ ν} {k k' : κ}
    (h : ∀ v, (k, v) ∈ m.entries ↔ (k', v) ∈ m'.entries) : m.get? k = m'.get? k' := by
  refine Option.ext fun v => ?_
  rw [get?_eq_some_iff, get?_eq_some_iff]
  exact h v

omit [DecidableEq κ] in
theorem mem_values {m : OrderedMap κ ν} {v : ν} :
    v ∈ m.values ↔ ∃ k, (k, v) ∈ m.entries := by
  constructor
  · intro h
    obtain ⟨⟨k, v'⟩, hmem, rfl⟩ := List.mem_map.mp h
    exact ⟨k, hmem⟩
  · rintro ⟨k, hmem⟩
    exact List.mem_map.mpr ⟨(k, v), hmem, rfl⟩

omit [DecidableEq κ] in
theorem mem_keys {m : OrderedMap κ ν} {k : κ} : k ∈ m.keys ↔ ∃ v, (k, v) ∈ m.entries := by
  constructor
  · intro h
    obtain ⟨⟨k', v⟩, hmem, rfl⟩ := List.mem_map.mp h
    exact ⟨v, hmem⟩
  · rintro ⟨v, hmem⟩
    exact List.mem_map.mpr ⟨(k, v), hmem, rfl⟩

theorem contains_iff {m : OrderedMap κ ν} {k : κ} : m.contains k = true ↔ k ∈ m.keys :=
  decide_eq_true_iff

@[simp] theorem get?_empty (k : κ) : (empty : OrderedMap κ ν).get? k = none := rfl

omit [DecidableEq κ] in
@[simp] theorem entries_empty : (empty : OrderedMap κ ν).entries = [] := rfl

/-! ## What each operation leaves -/

/-- **WRITE**: the written entry, and the entries of the other keys. -/
theorem mem_set (m : OrderedMap κ ν) (k k' : κ) (v v' : ν) :
    (k', v') ∈ (m.set k v).entries ↔
      (k' = k ∧ v' = v) ∨ (k' ≠ k ∧ (k', v') ∈ m.entries) := by
  show (k', v') ∈ setEntries m.entries k v ↔ _
  rw [setEntries]
  by_cases hk : k ∈ m.entries.map Prod.fst
  · rw [if_pos hk]
    constructor
    · intro h
      obtain ⟨e, he, heq⟩ := List.mem_map.mp h
      by_cases hek : e.1 = k
      · rw [if_pos hek] at heq
        exact .inl ⟨(congrArg Prod.fst heq).symm, (congrArg Prod.snd heq).symm⟩
      · rw [if_neg hek] at heq
        subst heq
        exact .inr ⟨hek, he⟩
    · rintro (⟨rfl, rfl⟩ | ⟨hne, hmem⟩)
      · obtain ⟨e, he, rfl⟩ := List.mem_map.mp hk
        exact List.mem_map.mpr ⟨e, he, if_pos rfl⟩
      · exact List.mem_map.mpr ⟨(k', v'), hmem, if_neg hne⟩
  · rw [if_neg hk]
    have hother : (k', v') ∈ m.entries → k' ≠ k := by
      rintro hmem rfl
      exact hk (List.mem_map.mpr ⟨(k', v'), hmem, rfl⟩)
    simp only [List.mem_append, List.mem_singleton, Prod.mk.injEq]
    constructor
    · rintro (hmem | hnew)
      · exact .inr ⟨hother hmem, hmem⟩
      · exact .inl hnew
    · rintro (hnew | ⟨-, hmem⟩)
      · exact .inr hnew
      · exact .inl hmem

theorem mem_keys_set (m : OrderedMap κ ν) (k k' : κ) (v : ν) :
    k' ∈ (m.set k v).keys ↔ k' = k ∨ k' ∈ m.keys := by
  simp only [mem_keys, mem_set]
  constructor
  · rintro ⟨w, ⟨rfl, -⟩ | ⟨-, hmem⟩⟩
    · exact .inl rfl
    · exact .inr ⟨w, hmem⟩
  · intro h
    by_cases hk : k' = k
    · exact ⟨v, .inl ⟨hk, rfl⟩⟩
    · obtain ⟨w, hmem⟩ := h.resolve_left hk
      exact ⟨w, .inr ⟨hk, hmem⟩⟩

theorem get?_set_self (m : OrderedMap κ ν) (k : κ) (v : ν) : (m.set k v).get? k = some v :=
  (get?_eq_some_iff ..).mpr ((mem_set ..).mpr (.inl ⟨rfl, rfl⟩))

theorem get?_set_ne (m : OrderedMap κ ν) {k k' : κ} (v : ν) (h : k' ≠ k) :
    (m.set k v).get? k' = m.get? k' := by
  refine get?_congr fun w => ?_
  rw [mem_set]
  constructor
  · rintro (⟨hk, -⟩ | ⟨-, hmem⟩)
    · exact absurd hk h
    · exact hmem
  · intro hmem
    exact .inr ⟨h, hmem⟩

theorem get?_set (m : OrderedMap κ ν) (k k' : κ) (v : ν) :
    (m.set k v).get? k' = if k' = k then some v else m.get? k' := by
  by_cases h : k' = k
  · rw [if_pos h, h, get?_set_self]
  · rw [if_neg h, get?_set_ne m v h]

omit [DecidableEq κ] in
/-- **KEEP**: the entries that satisfy the predicate. -/
theorem mem_filter (m : OrderedMap κ ν) (p : κ × ν → Bool) (k : κ) (v : ν) :
    (k, v) ∈ (m.filter p).entries ↔ (k, v) ∈ m.entries ∧ p (k, v) = true :=
  List.mem_filter

theorem mem_erase (m : OrderedMap κ ν) (k k' : κ) (v : ν) :
    (k', v) ∈ (m.erase k).entries ↔ (k', v) ∈ m.entries ∧ k' ≠ k := by
  rw [erase, mem_filter, decide_eq_true_eq]

omit [DecidableEq κ] in
/-- **REWRITE**: every value in place. -/
theorem mem_mapValues (m : OrderedMap κ ν) (f : ν → ν) (k : κ) (v : ν) :
    (k, v) ∈ (m.mapValues f).entries ↔ ∃ w, (k, w) ∈ m.entries ∧ v = f w := by
  show (k, v) ∈ m.entries.map (fun e => (e.1, f e.2)) ↔ _
  constructor
  · intro h
    obtain ⟨⟨k', w⟩, hmem, heq⟩ := List.mem_map.mp h
    obtain ⟨rfl, rfl⟩ := Prod.mk.inj heq
    exact ⟨w, hmem, rfl⟩
  · rintro ⟨w, hmem, rfl⟩
    exact List.mem_map.mpr ⟨(k, w), hmem, rfl⟩

theorem get?_mapValues (m : OrderedMap κ ν) (f : ν → ν) (k : κ) :
    (m.mapValues f).get? k = (m.get? k).map f := by
  refine Option.ext fun v => ?_
  rw [get?_eq_some_iff, mem_mapValues, Option.map_eq_some_iff]
  constructor
  · rintro ⟨w, hmem, rfl⟩
    exact ⟨w, (get?_eq_some_iff ..).mpr hmem, rfl⟩
  · rintro ⟨w, hget, rfl⟩
    exact ⟨w, (get?_eq_some_iff ..).mp hget, rfl⟩

/-- **REWRITE BY KEY**: every value in place, by its key. -/
theorem get?_update (m : OrderedMap κ ν) (f : κ → ν → ν) (k : κ) :
    (m.update f).get? k = (m.get? k).map (f k) := by
  refine Option.ext fun v => ?_
  rw [get?_eq_some_iff, Option.map_eq_some_iff]
  constructor
  · intro h
    obtain ⟨⟨k', w⟩, hmem, heq⟩ := List.mem_map.mp h
    obtain ⟨rfl, rfl⟩ := Prod.mk.inj heq
    exact ⟨w, (get?_eq_some_iff ..).mpr hmem, rfl⟩
  · rintro ⟨w, hget, rfl⟩
    exact List.mem_map.mpr ⟨(k, w), (get?_eq_some_iff ..).mp hget, rfl⟩

omit [DecidableEq κ] in
/-- A rewrite of nothing. -/
theorem update_eq_self {m : OrderedMap κ ν} {f : κ → ν → ν}
    (h : ∀ entry ∈ m.entries, f entry.1 entry.2 = entry.2) : m.update f = m := by
  obtain ⟨entries, hnodup⟩ := m
  have hentries : (entries.map fun e => (e.1, f e.1 e.2)) = entries := by
    conv_rhs => rw [← List.map_id' entries]
    exact List.map_congr_left fun e he => Prod.ext rfl (h e he)
  show OrderedMap.mk _ _ = OrderedMap.mk _ _
  congr

theorem get?_filter (m : OrderedMap κ ν) (p : κ × ν → Bool) (k : κ) :
    (m.filter p).get? k = (m.get? k).filter fun v => p (k, v) := by
  refine Option.ext fun v => ?_
  rw [get?_eq_some_iff, mem_filter, Option.filter_eq_some_iff, get?_eq_some_iff]

theorem mem_keys_iff_get? {m : OrderedMap κ ν} {k : κ} : k ∈ m.keys ↔ ∃ v, m.get? k = some v := by
  rw [mem_keys]
  exact exists_congr fun v => (get?_eq_some_iff ..).symm

/-- **LAST WRITE**: of the entries written under a key the last one stands, and
    without one the map's own. -/
theorem get?_setAll (m : OrderedMap κ ν) (entries : List (κ × ν)) (k : κ) :
    (m.setAll entries).get? k
      = ((entries.reverse.find? fun e => e.1 = k).map Prod.snd).or (m.get? k) := by
  induction entries using List.reverseRecOn with
  | nil => rfl
  | append_singleton front last ih =>
      have hfold : m.setAll (front ++ [last]) = (m.setAll front).set last.1 last.2 :=
        List.foldl_append ..
      rw [hfold, get?_set, List.reverse_append, List.reverse_singleton, List.singleton_append,
        List.find?_cons]
      by_cases h : k = last.1
      · rw [if_pos h, decide_eq_true h.symm]
        rfl
      · rw [if_neg h, decide_eq_false (fun heq => h heq.symm), ih]

/-- What stands under a key after the writes was written there, or stood there
    before and nothing was written. -/
theorem mem_of_get?_setAll {m : OrderedMap κ ν} {entries : List (κ × ν)} {k : κ} {v : ν}
    (h : (m.setAll entries).get? k = some v) :
    (k, v) ∈ entries ∨ m.get? k = some v ∧ ∀ w, (k, w) ∉ entries := by
  rw [get?_setAll] at h
  cases hlast : entries.reverse.find? fun e => e.1 = k with
  | some e =>
      rw [hlast] at h
      have hkey : e.1 = k := by simpa using List.find?_some hlast
      obtain rfl : e.2 = v := Option.some.inj h
      refine .inl ?_
      rw [← hkey]
      exact List.mem_reverse.mp (List.mem_of_find?_eq_some hlast)
  | none =>
      rw [hlast] at h
      refine .inr ⟨h, fun w hw => ?_⟩
      exact List.find?_eq_none.mp hlast (k, w) (List.mem_reverse.mpr hw) (decide_eq_true rfl)

/-- A key that was written stands. -/
theorem exists_get?_setAll {m : OrderedMap κ ν} {entries : List (κ × ν)} {k : κ} {v : ν}
    (h : (k, v) ∈ entries) : ∃ w, (m.setAll entries).get? k = some w ∧ (k, w) ∈ entries := by
  cases hget : (m.setAll entries).get? k with
  | none =>
      rw [get?_setAll, Option.or_eq_none_iff, Option.map_eq_none_iff, List.find?_eq_none] at hget
      exact absurd (decide_eq_true rfl) (hget.1 (k, v) (List.mem_reverse.mpr h))
  | some w =>
      rcases mem_of_get?_setAll hget with hmem | ⟨-, hnone⟩
      · exact ⟨w, rfl, hmem⟩
      · exact absurd h (hnone v)

/-- The last write of all stands. -/
theorem get?_setAll_concat (m : OrderedMap κ ν) (front : List (κ × ν)) (k : κ) (v : ν) :
    (m.setAll (front ++ [(k, v)])).get? k = some v := by
  have hfold : m.setAll (front ++ [(k, v)]) = (m.setAll front).set k v := List.foldl_append ..
  rw [hfold, get?_set_self]

/-- A new key goes last. -/
theorem entries_set_of_notMem {m : OrderedMap κ ν} {k : κ} (v : ν)
    (h : k ∉ m.entries.map Prod.fst) : (m.set k v).entries = m.entries ++ [(k, v)] := if_neg h

/-- **FRESH WRITES**: entries under keys of their own stand in the order in which
    they were written. -/
theorem entries_setAll_of_nodup {m : OrderedMap κ ν} {entries : List (κ × ν)}
    (h : ((m.entries ++ entries).map Prod.fst).Nodup) :
    (m.setAll entries).entries = m.entries ++ entries := by
  induction entries generalizing m with
  | nil => exact (List.append_nil _).symm
  | cons e rest ih =>
      have hfresh : e.1 ∉ m.entries.map Prod.fst := by
        rw [List.map_append, List.map_cons] at h
        exact fun hmem => List.disjoint_of_nodup_append h hmem (List.mem_cons_self ..)
      have hset := entries_set_of_notMem e.2 hfresh
      show ((m.set e.1 e.2).setAll rest).entries = _
      rw [ih (by rw [hset, List.append_assoc]; exact h), hset, List.append_assoc]
      rfl

end OrderedMap
