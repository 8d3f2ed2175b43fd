import Mathlib.Data.List.Nodup
import Mathlib.Logic.Function.Basic

/-! # Custody of shared items

    Workers take items from a shared table and work on them in private.  The
    table records who took an item last; it does not know who still works on it.
    Nobody is surprised by anybody as long as whoever works on an item is its
    recorded holder (`Exclusive`), and that is kept by giving items back and by
    taking items that nobody works on.  Taking an item out of the hands of a
    worker that is only slow is what breaks it. -/

/-- Who is recorded as the holder of an item, and what each worker works on. -/
structure Custody (κ ω : Type) where
  holder : κ → Option ω
  working : ω → List κ

namespace Custody

variable {κ ω : Type} {c c' : Custody κ ω}

/-- Nobody works on the item. -/
def Free (c : Custody κ ω) (k : κ) : Prop := ∀ w, k ∉ c.working w

/-- **EXCLUSIVE**: whoever works on an item is its recorded holder, and nobody
    works on an item twice. -/
structure Exclusive (c : Custody κ ω) : Prop where
  nodup : ∀ w, (c.working w).Nodup
  holds : ∀ w, ∀ k ∈ c.working w, c.holder k = some w

/-- With nobody at work custody is exclusive. -/
theorem exclusive_of_idle (h : ∀ w, c.working w = []) : c.Exclusive where
  nodup w := by
    rw [h w]
    exact List.nodup_nil
  holds w k hk := by
    rw [h w] at hk
    exact absurd hk List.not_mem_nil

/-- An item is in one pair of hands. -/
theorem Exclusive.unique (h : c.Exclusive) {w w' : ω} {k : κ} (hk : k ∈ c.working w)
    (hk' : k ∈ c.working w') : w = w' :=
  Option.some.inj ((h.holds w k hk).symm.trans (h.holds w' k hk'))

/-- **GIVE BACK**: the hands may empty, as long as the record of what they keep
    stays. -/
theorem Exclusive.release (h : c.Exclusive) (hnodup : ∀ w, (c'.working w).Nodup)
    (hsub : ∀ w, c'.working w ⊆ c.working w)
    (hkeep : ∀ w, ∀ k ∈ c'.working w, c'.holder k = c.holder k) : c'.Exclusive where
  nodup := hnodup
  holds w k hk := by
    rw [hkeep w k hk]
    exact h.holds w k (hsub w hk)

variable [DecidableEq ω]

/-- **TAKE**: a worker with empty hands takes items that nobody works on. -/
theorem Exclusive.take (h : c.Exclusive) {w : ω} {ks : List κ} (hfree : ∀ k ∈ ks, c.Free k)
    (hnodup : ks.Nodup) (hworking : c'.working = Function.update c.working w ks)
    (htaken : ∀ k ∈ ks, c'.holder k = some w)
    (hkeep : ∀ k, k ∉ ks → c'.holder k = c.holder k) : c'.Exclusive where
  nodup w' := by
    rw [hworking]
    by_cases hw : w' = w
    · rw [hw, Function.update_self]
      exact hnodup
    · rw [Function.update_of_ne hw]
      exact h.nodup w'
  holds w' k hk := by
    rw [hworking] at hk
    by_cases hw : w' = w
    · rw [hw, Function.update_self] at hk
      rw [hw]
      exact htaken k hk
    · rw [Function.update_of_ne hw] at hk
      rw [hkeep k fun hmem => hfree k hmem w' hk]
      exact h.holds w' k hk

end Custody
