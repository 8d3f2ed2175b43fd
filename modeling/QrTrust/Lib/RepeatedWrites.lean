import QrTrust.Lib.OrderedMap

/-! # Writing again

    A map that already holds what is written is not changed: a value written a
    second time, a filter that drops nothing, a filter and an idempotent rewrite
    applied a second time. -/

namespace OrderedMap

variable {κ ν : Type} [DecidableEq κ]

omit [DecidableEq κ] in
/-- Maps with the same entries are the same. -/
theorem ext_entries {m m' : OrderedMap κ ν} (h : m.entries = m'.entries) : m = m' := by
  obtain ⟨entries, hnodup⟩ := m
  obtain ⟨entries', hnodup'⟩ := m'
  obtain rfl : entries = entries' := h
  rfl

/-- **HELD**: writing what a key already holds changes nothing. -/
theorem set_of_get? {m : OrderedMap κ ν} {k : κ} {v : ν} (h : m.get? k = some v) :
    m.set k v = m := by
  have hmem : (k, v) ∈ m.entries := (get?_eq_some_iff ..).mp h
  refine ext_entries ?_
  show setEntries m.entries k v = m.entries
  rw [setEntries, if_pos (List.mem_map.mpr ⟨_, hmem, rfl⟩)]
  conv_rhs => rw [← List.map_id' m.entries]
  refine List.map_congr_left fun entry hentry => ?_
  by_cases hkey : entry.1 = k
  · rw [if_pos hkey]
    have hentry' : m.get? k = some entry.2 := (get?_eq_some_iff ..).mpr (hkey ▸ hentry)
    exact Prod.ext hkey.symm (Option.some.inj (h.symm.trans hentry'))
  · rw [if_neg hkey]

/-- A value written twice is a value written once. -/
theorem set_set (m : OrderedMap κ ν) (k : κ) (v : ν) : (m.set k v).set k v = m.set k v :=
  set_of_get? (get?_set_self m k v)

omit [DecidableEq κ] in
/-- A filter that drops nothing changes nothing. -/
theorem filter_of_forall {m : OrderedMap κ ν} {p : κ × ν → Bool}
    (h : ∀ entry ∈ m.entries, p entry = true) : m.filter p = m :=
  ext_entries (List.filter_eq_self.mpr h)

omit [DecidableEq κ] in
/-- A rewrite that changes no value changes nothing. -/
theorem mapValues_of_forall {m : OrderedMap κ ν} {f : ν → ν} (h : ∀ v ∈ m.values, f v = v) :
    m.mapValues f = m := by
  refine ext_entries ?_
  show m.entries.map (fun entry => (entry.1, f entry.2)) = m.entries
  conv_rhs => rw [← List.map_id' m.entries]
  refine List.map_congr_left fun entry hentry => ?_
  rw [h entry.2 (mem_values.mpr ⟨entry.1, hentry⟩)]

omit [DecidableEq κ] in
theorem filter_filter (m : OrderedMap κ ν) (p : κ × ν → Bool) :
    (m.filter p).filter p = m.filter p := by
  refine ext_entries ?_
  show (m.entries.filter p).filter p = m.entries.filter p
  rw [List.filter_filter]
  simp only [Bool.and_self]

omit [DecidableEq κ] in
theorem mapValues_mapValues {m : OrderedMap κ ν} {f : ν → ν} (hf : ∀ v, f (f v) = f v) :
    (m.mapValues f).mapValues f = m.mapValues f := by
  refine ext_entries ?_
  show (m.entries.map _).map _ = m.entries.map _
  rw [List.map_map]
  refine List.map_congr_left fun entry _ => ?_
  show (entry.1, f (f entry.2)) = (entry.1, f entry.2)
  rw [hf]

end OrderedMap
