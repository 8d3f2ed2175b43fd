import QrTrust.Lib.Runs
import Mathlib.Data.List.Induction

/-! # Facts that actions set and clear

    A latch is a fact about the state of a machine that some actions set, some
    clear, and every other action leaves alone.  A latched fact holds after a
    run exactly when the run set it and nothing later cleared it, or it held at
    the start and nothing cleared it (`holds_runState_iff`). -/

namespace Runs

variable {σ ι ω : Type}

/-- A fact about the state, with the actions that set it and those that clear
    it; an action that does both sets it. -/
structure Latch (M : Machine σ ι ω) where
  Holds : σ → Prop
  Sets : ω → Prop
  Clears : ω → Prop
  apply_iff : ∀ s a, Holds (M.apply s a) ↔ Sets a ∨ (Holds s ∧ ¬ Clears a)

namespace Latch

variable {M : Machine σ ι ω} (L : Latch M)

/-- The list sets the fact and clears it no more. -/
def SetsLast (actions : List ω) : Prop :=
  ∃ before a after, actions = before ++ a :: after ∧ L.Sets a ∧ ∀ b ∈ after, ¬ L.Clears b

theorem setsLast_concat {actions : List ω} {a : ω} :
    L.SetsLast (actions ++ [a]) ↔ L.Sets a ∨ (L.SetsLast actions ∧ ¬ L.Clears a) := by
  constructor
  · rintro ⟨before, set, after, hsplit, hsets, hclears⟩
    rcases List.eq_nil_or_concat after with rfl | ⟨after, last, rfl⟩
    · obtain ⟨-, hlast⟩ := List.append_inj' hsplit rfl
      obtain rfl := (List.cons.inj hlast).1
      exact .inl hsets
    · rw [List.concat_eq_append, ← List.cons_append, ← List.append_assoc] at hsplit
      obtain ⟨rfl, hlast⟩ := List.append_inj' hsplit rfl
      obtain rfl := (List.cons.inj hlast).1
      have hafter : ∀ b ∈ after, ¬ L.Clears b := fun b hb =>
        hclears b (by rw [List.concat_eq_append]; exact List.mem_append_left _ hb)
      exact .inr ⟨⟨before, set, after, rfl, hsets, hafter⟩,
        hclears a (by rw [List.concat_eq_append]; simp)⟩
  · rintro (hsets | ⟨⟨before, set, after, rfl, hsets, hclears⟩, hlast⟩)
    · exact ⟨actions, a, [], rfl, hsets, fun b hb => absurd hb List.not_mem_nil⟩
    · refine ⟨before, set, after ++ [a], by simp, hsets, fun b hb => ?_⟩
      rcases List.mem_append.mp hb with hb | hb
      · exact hclears b hb
      · rw [List.mem_singleton.mp hb]
        exact hlast

/-- **ACTIONS**: a list of actions leaves the fact when it set it last, or when
    the fact held and nothing cleared it. -/
theorem holds_applyAll_iff (s : σ) (actions : List ω) :
    L.Holds (M.applyAll s actions) ↔
      L.SetsLast actions ∨ (L.Holds s ∧ ∀ a ∈ actions, ¬ L.Clears a) := by
  induction actions using List.reverseRecOn with
  | nil =>
      constructor
      · intro h
        exact .inr ⟨h, fun a ha => absurd ha List.not_mem_nil⟩
      · rintro (⟨before, a, after, hsplit, -⟩ | ⟨h, -⟩)
        · exact absurd hsplit.symm (by simp)
        · exact h
  | append_singleton actions a ih =>
      rw [Machine.applyAll_append, Machine.applyAll_cons, Machine.applyAll_nil, L.apply_iff, ih,
        setsLast_concat]
      simp only [List.mem_append, List.mem_singleton]
      constructor
      · rintro (hsets | ⟨hlast | ⟨hs, hall⟩, hclears⟩)
        · exact .inl (.inl hsets)
        · exact .inl (.inr ⟨hlast, hclears⟩)
        · refine .inr ⟨hs, fun b hb => ?_⟩
          rcases hb with hb | rfl
          · exact hall b hb
          · exact hclears
      · rintro ((hsets | ⟨hlast, hclears⟩) | ⟨hs, hall⟩)
        · exact .inl hsets
        · exact .inr ⟨.inl hlast, hclears⟩
        · exact .inr ⟨.inr ⟨hs, fun b hb => hall b (.inl hb)⟩, hall a (.inr rfl)⟩

/-- **RUNS**: the fact holds after a run exactly when some input set it and no
    later action cleared it, or it held and no action cleared it. -/
theorem holds_runState_iff (s : σ) (inputs : List ι) :
    L.Holds (M.runState s inputs) ↔
      (∃ earlier i later, inputs = earlier ++ i :: later
        ∧ L.SetsLast (M.plan (M.runState s earlier) i)
        ∧ ∀ a ∈ M.actions (M.step (M.runState s earlier) i) later, ¬ L.Clears a)
      ∨ (L.Holds s ∧ ∀ a ∈ M.actions s inputs, ¬ L.Clears a) := by
  induction inputs generalizing s with
  | nil =>
      constructor
      · intro h
        exact .inr ⟨h, fun a ha => absurd ha List.not_mem_nil⟩
      · rintro (⟨earlier, i, later, hsplit, -⟩ | ⟨h, -⟩)
        · exact absurd hsplit.symm (by simp)
        · exact h
  | cons i rest ih =>
      rw [Machine.runState_cons, ih, Machine.step, L.holds_applyAll_iff, Machine.actions_cons]
      simp only [List.mem_append]
      constructor
      · rintro (⟨earlier, j, later, rfl, hlast, hlater⟩ | ⟨hlast | ⟨hs, hplan⟩, hrest⟩)
        · exact .inl ⟨i :: earlier, j, later, rfl, hlast, hlater⟩
        · exact .inl ⟨[], i, rest, rfl, hlast, hrest⟩
        · refine .inr ⟨hs, fun a ha => ?_⟩
          rcases ha with ha | ha
          · exact hplan a ha
          · exact hrest a ha
      · rintro (⟨earlier, j, later, hsplit, hlast, hlater⟩ | ⟨hs, hall⟩)
        · cases earlier with
          | nil =>
              obtain ⟨rfl, rfl⟩ := List.cons.inj hsplit
              exact .inr ⟨.inl hlast, hlater⟩
          | cons first earlier =>
              obtain ⟨rfl, rfl⟩ := List.cons.inj hsplit
              exact .inl ⟨earlier, j, later, rfl, hlast, hlater⟩
        · exact .inr ⟨.inr ⟨hs, fun a ha => hall a (.inl ha)⟩, fun a ha => hall a (.inr ha)⟩

end Latch

end Runs
