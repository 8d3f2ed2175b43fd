import Mathlib

/-! # Dropping what is covered

    A list that grows element by element and leaves out what an element it already
    has covers.  What is left out adds nothing to a join of values that the cover
    bounds: the kept elements have the same join as all of them
    (`joinOf_keepUncovered`). -/

namespace Subsumption

variable {α σ : Type}

/-- The join of the values of the elements. -/
def joinOf [Max σ] [Bot σ] (f : α → σ) (l : List α) : σ := (l.map f).foldr (· ⊔ ·) ⊥

/-- The elements, and of the later ones those that none before them covers. -/
def keepUncovered (covers : α → α → Bool) (kept later : List α) : List α :=
  later.foldl (fun kept x => if kept.any fun y => covers y x then kept else kept ++ [x]) kept

section
variable {covers : α → α → Bool}

theorem keepUncovered_cons (kept : List α) (x : α) (later : List α) :
    keepUncovered covers kept (x :: later)
      = keepUncovered covers (if kept.any fun y => covers y x then kept else kept ++ [x]) later :=
  rfl

/-- What is kept stays. -/
theorem mem_keepUncovered_of_mem {kept later : List α} {x : α} (h : x ∈ kept) :
    x ∈ keepUncovered covers kept later := by
  induction later generalizing kept with
  | nil => exact h
  | cons y later ih =>
      rw [keepUncovered_cons]
      split
      · exact ih h
      · exact ih (List.mem_append_left _ h)

/-- Nothing else comes in. -/
theorem mem_of_mem_keepUncovered {kept later : List α} {x : α}
    (h : x ∈ keepUncovered covers kept later) : x ∈ kept ∨ x ∈ later := by
  induction later generalizing kept with
  | nil => exact .inl h
  | cons y later ih =>
      rw [keepUncovered_cons] at h
      split at h
      · exact (ih h).imp_right (List.mem_cons_of_mem _)
      · rcases ih h with hkept | hlater
        · rcases List.mem_append.mp hkept with hkept | hnew
          · exact .inl hkept
          · exact .inr (List.mem_singleton.mp hnew ▸ List.mem_cons_self)
        · exact .inr (List.mem_cons_of_mem _ hlater)

/-- **COVERED**: an element is kept, or a kept element covers it. -/
theorem kept_or_covered {kept later : List α} {x : α} (h : x ∈ later) :
    x ∈ keepUncovered covers kept later ∨
      ∃ y ∈ keepUncovered covers kept later, covers y x = true := by
  induction later generalizing kept with
  | nil => exact absurd h List.not_mem_nil
  | cons z later ih =>
      rw [keepUncovered_cons]
      rcases List.mem_cons.mp h with rfl | hlater
      · split
        · rename_i hcovered
          obtain ⟨y, hy, hcovers⟩ := List.any_eq_true.mp hcovered
          exact .inr ⟨y, mem_keepUncovered_of_mem hy, hcovers⟩
        · exact .inl (mem_keepUncovered_of_mem
            (List.mem_append_right _ (List.mem_singleton_self _)))
      · exact ih hlater

end

/-! ## Joins -/

section
variable [Lattice σ] [OrderBot σ] {f : α → σ}

theorem le_joinOf {l : List α} {x : α} (h : x ∈ l) : f x ≤ joinOf f l := by
  induction l with
  | nil => exact absurd h List.not_mem_nil
  | cons y l ih =>
      show f x ≤ f y ⊔ joinOf f l
      rcases List.mem_cons.mp h with rfl | hrest
      · exact le_sup_left
      · exact (ih hrest).trans le_sup_right

theorem joinOf_le {l : List α} {b : σ} (h : ∀ x ∈ l, f x ≤ b) : joinOf f l ≤ b := by
  induction l with
  | nil => exact bot_le
  | cons y l ih =>
      exact sup_le (h y List.mem_cons_self) (ih fun x hx => h x (List.mem_cons_of_mem _ hx))

/-- **NEUTRAL**: where a cover bounds the value of what it covers, leaving out the
    covered elements leaves the join. -/
theorem joinOf_keepUncovered {covers : α → α → Bool} {kept later : List α}
    (hcovers : ∀ x ∈ kept ++ later, ∀ y ∈ kept ++ later, covers y x = true → f x ≤ f y) :
    joinOf f (keepUncovered covers kept later) = joinOf f (kept ++ later) := by
  have hall : ∀ x ∈ keepUncovered covers kept later, x ∈ kept ++ later := fun x hx =>
    List.mem_append.mpr (mem_of_mem_keepUncovered hx)
  apply le_antisymm
  · exact joinOf_le fun x hx => le_joinOf (hall x hx)
  · refine joinOf_le fun x hx => ?_
    rcases List.mem_append.mp hx with hkept | hlater
    · exact le_joinOf (mem_keepUncovered_of_mem hkept)
    · rcases kept_or_covered hlater with hmem | ⟨y, hy, hcovered⟩
      · exact le_joinOf hmem
      · exact (hcovers x hx y (hall y hy) hcovered).trans (le_joinOf hy)

end

/-- A join of propositions holds where one of them does. -/
theorem joinOf_prop_iff {P : α → Prop} {l : List α} : joinOf P l ↔ ∃ x ∈ l, P x := by
  induction l with
  | nil => exact ⟨fun h => h.elim, fun ⟨_, hx, _⟩ => absurd hx List.not_mem_nil⟩
  | cons y l ih =>
      show P y ∨ joinOf P l ↔ _
      rw [ih, List.exists_mem_cons_iff]

/-- A join of sets has the members of each. -/
theorem mem_joinOf_iff {β : Type} {f : α → Set β} {l : List α} {b : β} :
    b ∈ joinOf f l ↔ ∃ x ∈ l, b ∈ f x := by
  induction l with
  | nil => exact ⟨fun h => h.elim, fun ⟨_, hx, _⟩ => absurd hx List.not_mem_nil⟩
  | cons y l ih =>
      show b ∈ f y ∨ b ∈ joinOf f l ↔ _
      rw [ih, List.exists_mem_cons_iff]

end Subsumption
