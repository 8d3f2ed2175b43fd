import QrTrust.Lib.OrderedMap

/-! # Merged flags

    Flags that are collected under their keys: a key is raised when any of its
    entries is (`mem_foldl_join`). -/

namespace MergedFlags

variable {κ : Type} [DecidableEq κ]

/-- The flag joins what the map has under its key. -/
def join (flags : OrderedMap κ Bool) (entry : κ × Bool) : OrderedMap κ Bool :=
  flags.set entry.1 ((flags.get? entry.1).getD false || entry.2)

/-- Does any entry raise the key? -/
def raised (entries : List (κ × Bool)) (key : κ) : Bool := (key, true) ∈ entries

theorem raised_cons (entry : κ × Bool) (entries : List (κ × Bool)) (key : κ) :
    raised (entry :: entries) key = ((key = entry.1 && entry.2) || raised entries key) := by
  obtain ⟨key', flag⟩ := entry
  simp only [raised, List.mem_cons, Prod.mk.injEq]
  cases flag <;> by_cases h : key = key' <;> simp [h]

theorem mem_keys_foldl_join (entries : List (κ × Bool)) (flags : OrderedMap κ Bool) (key : κ) :
    key ∈ (entries.foldl join flags).keys ↔ key ∈ flags.keys ∨ key ∈ entries.map Prod.fst := by
  induction entries generalizing flags with
  | nil => simp
  | cons entry entries ih =>
      rw [List.foldl_cons, ih, join, OrderedMap.mem_keys_set, List.map_cons, List.mem_cons,
        or_assoc, or_left_comm]

theorem get?_foldl_join (entries : List (κ × Bool)) (flags : OrderedMap κ Bool) (key : κ) :
    ((entries.foldl join flags).get? key).getD false
      = ((flags.get? key).getD false || raised entries key) := by
  induction entries generalizing flags with
  | nil => simp [raised]
  | cons entry entries ih =>
      rw [List.foldl_cons, ih, raised_cons, join, OrderedMap.get?_set]
      by_cases h : key = entry.1
      · subst h
        simp [Bool.or_assoc]
      · simp [h]

/-- **MERGED**: the map collected from nothing has the keys of the entries, each
    raised where an entry raises it. -/
theorem mem_foldl_join {entries : List (κ × Bool)} {key : κ} {flag : Bool} :
    (key, flag) ∈ (entries.foldl join .empty).entries
      ↔ key ∈ entries.map Prod.fst ∧ flag = raised entries key := by
  have hkeys : key ∈ (entries.foldl join .empty).keys ↔ key ∈ entries.map Prod.fst := by
    rw [mem_keys_foldl_join]
    exact or_iff_right List.not_mem_nil
  have hflag := get?_foldl_join entries .empty key
  rw [show (OrderedMap.empty.get? key : Option Bool) = none from rfl, Option.getD_none,
    Bool.false_or] at hflag
  rw [← hkeys, ← OrderedMap.get?_eq_some_iff, OrderedMap.mem_keys_iff_get?, ← hflag]
  constructor
  · intro h
    exact ⟨⟨flag, h⟩, by rw [h, Option.getD_some]⟩
  · rintro ⟨⟨v, hv⟩, rfl⟩
    rw [hv, Option.getD_some]

end MergedFlags
