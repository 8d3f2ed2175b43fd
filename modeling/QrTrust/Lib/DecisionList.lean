import Mathlib.Data.List.Forall2
import Mathlib.Order.Basic

/-! # Decision lists: ordered arms with a default answer

    A decision list is a list of arms, each of which either answers (`some a`)
    or stays silent (`none`), followed by a default.  Its value is the answer
    of the first arm that speaks.  This is the shape of every chain of early
    returns, so one inversion lemma and one comparison lemma serve them all:

    * `firstAnswer_of_unanswered`: a value no arm can give is the default, and
      then every arm is silent;
    * `firstAnswer_mem`: a value is the default or the answer of some arm;
    * `firstAnswer_le`: two lists whose arms are pairwise comparable have
      comparable values;
    * `firstAnswer_map_perm_iff`: the value does not depend on the order of the
      arms exactly where those that speak say the same. -/

namespace DecisionList

variable {α β : Type}

/-- The answer of the first arm that speaks, or the default. -/
def firstAnswer : List (Option α) → α → α
  | [], d => d
  | some a :: _, _ => a
  | none :: rest, d => firstAnswer rest d

@[simp] theorem firstAnswer_nil (d : α) : firstAnswer [] d = d := rfl

@[simp] theorem firstAnswer_some (a d : α) (rest : List (Option α)) :
    firstAnswer (some a :: rest) d = a := rfl

@[simp] theorem firstAnswer_none (d : α) (rest : List (Option α)) :
    firstAnswer (none :: rest) d = firstAnswer rest d := rfl

/-- A list split in two answers with its first half, the second half standing
    in for the default. -/
theorem firstAnswer_append (as bs : List (Option α)) (d : α) :
    firstAnswer (as ++ bs) d = firstAnswer as (firstAnswer bs d) := by
  induction as with
  | nil => rfl
  | cons hd rest ih =>
      cases hd with
      | none => exact ih
      | some a => rfl

/-- **SPEAKING PREFIX**: where some arm of the first half speaks, the second half
    and the default do not matter, and the value is an answer of the first half. -/
theorem firstAnswer_append_mem {as : List (Option α)}
    (hspeaks : ∃ arm ∈ as, arm ≠ none) (bs : List (Option α)) (d : α) :
    some (firstAnswer (as ++ bs) d) ∈ as := by
  induction as with
  | nil =>
      obtain ⟨arm, harm, -⟩ := hspeaks
      exact nomatch harm
  | cons hd rest ih =>
      cases hd with
      | some a => exact List.mem_cons_self ..
      | none =>
          obtain ⟨arm, harm, hne⟩ := hspeaks
          rcases List.mem_cons.mp harm with h | h
          · exact absurd h hne
          · exact List.mem_cons_of_mem _ (ih ⟨arm, h, hne⟩)

/-- The value of a decision list is the default or the answer of an arm. -/
theorem firstAnswer_mem (arms : List (Option α)) (d : α) :
    firstAnswer arms d = d ∨ some (firstAnswer arms d) ∈ arms := by
  induction arms with
  | nil => exact .inl rfl
  | cons hd rest ih =>
      cases hd with
      | none =>
          rcases ih with h | h
          · exact .inl h
          · exact .inr (List.mem_cons_of_mem _ h)
      | some a => exact .inr (by simp)

/-- **RULE OF CASES**: what holds of the default and of every answer an arm can
    give holds of the value. -/
theorem firstAnswer_induct (P : α → Prop) {arms : List (Option α)} {d : α}
    (harms : ∀ a, some a ∈ arms → P a) (hd : P d) : P (firstAnswer arms d) := by
  rcases firstAnswer_mem arms d with h | h
  · rw [h]; exact hd
  · exact harms _ h

/-- **RULE OF SILENCE**: a value that no arm gives is the default, and it is
    reached only with every arm silent. -/
theorem firstAnswer_of_unanswered (P : α → Prop) {arms : List (Option α)} {d : α}
    (harms : ∀ a, some a ∈ arms → ¬ P a) (hP : P (firstAnswer arms d)) :
    (∀ arm ∈ arms, arm = none) ∧ P d := by
  induction arms with
  | nil => exact ⟨fun arm harm => (nomatch harm), hP⟩
  | cons hd rest ih =>
      cases hd with
      | some a => exact absurd hP (harms a (by simp))
      | none =>
          obtain ⟨hrest, hd'⟩ := ih (fun a ha => harms a (List.mem_cons_of_mem _ ha)) hP
          refine ⟨fun arm harm => ?_, hd'⟩
          rcases List.mem_cons.mp harm with h | h
          · exact h
          · exact hrest arm h

/-! ## Comparing two decision lists -/

/-- One arm is dominated by another: both are silent, both speak and the
    answers are related, or only the dominating arm speaks and its answer
    dominates everything. -/
def ArmLe (le : α → β → Prop) : Option α → Option β → Prop
  | none, none => True
  | some a, some b => le a b
  | none, some b => ∀ a, le a b
  | some _, none => False

@[simp] theorem armLe_none_none (le : α → β → Prop) :
    ArmLe le none none = True := rfl

@[simp] theorem armLe_some_some (le : α → β → Prop) (a : α) (b : β) :
    ArmLe le (some a) (some b) = le a b := rfl

@[simp] theorem armLe_none_some (le : α → β → Prop) (b : β) :
    ArmLe le none (some b) = ∀ a, le a b := rfl

/-- An arm is dominated by itself under a reflexive comparison. -/
theorem armLe_refl {le : α → α → Prop} (hrefl : ∀ a, le a a) (arm : Option α) :
    ArmLe le arm arm := by
  cases arm with
  | none => trivial
  | some a => exact hrefl a

/-- **COMPARISON**: pairwise dominated arms and comparable defaults give
    comparable values. -/
theorem firstAnswer_le {le : α → β → Prop} {as : List (Option α)}
    {bs : List (Option β)} {d : α} {e : β}
    (harms : List.Forall₂ (ArmLe le) as bs) (hde : le d e) :
    le (firstAnswer as d) (firstAnswer bs e) := by
  induction harms with
  | nil => exact hde
  | @cons a b as bs hab _ ih =>
      cases a with
      | none =>
          cases b with
          | none => exact ih
          | some b => exact hab _
      | some a =>
          cases b with
          | none => exact hab.elim
          | some b => exact hab

/-! ## The order of the arms -/

/-- Arms that speak with one voice give its answer. -/
theorem firstAnswer_eq_of_agree {arms : List (Option α)} {a : α} (hmem : some a ∈ arms)
    (hagree : ∀ b, some b ∈ arms → b = a) (d : α) : firstAnswer arms d = a := by
  have hspeaks := firstAnswer_append_mem ⟨some a, hmem, Option.some_ne_none a⟩ [] d
  rw [List.append_nil] at hspeaks
  exact hagree _ hspeaks

/-- Arms that are all silent leave the default. -/
theorem firstAnswer_eq_default {arms : List (Option α)} (hsilent : ∀ arm ∈ arms, arm = none)
    (d : α) : firstAnswer arms d = d := by
  rcases firstAnswer_mem arms d with hdefault | hmem
  · exact hdefault
  · exact absurd (hsilent _ hmem) (Option.some_ne_none _)

/-- Arms made of part of a list only: the rest is silent. -/
theorem firstAnswer_filterMap {γ : Type} (g : β → Option γ) (f : γ → Option α) (l : List β)
    (d : α) :
    firstAnswer ((l.filterMap g).map f) d = firstAnswer (l.map fun x => (g x).bind f) d := by
  induction l with
  | nil => rfl
  | cons hd rest ih =>
      cases hg : g hd with
      | none =>
          rw [List.filterMap_cons_none hg, List.map_cons, hg]
          exact ih
      | some c =>
          rw [List.filterMap_cons_some hg, List.map_cons, List.map_cons, hg]
          show firstAnswer (f c :: _) d = firstAnswer (f c :: _) d
          cases f c with
          | none => exact ih
          | some a => rfl

/-- **ORDER**: the value is the same for every order of the list the arms are made
    of exactly where any two that speak give the same answer. -/
theorem firstAnswer_map_perm_iff {f : β → Option α} {l : List β} {d : α} :
    (∀ l' : List β, l'.Perm l → firstAnswer (l'.map f) d = firstAnswer (l.map f) d)
      ↔ ∀ x ∈ l, ∀ y ∈ l, ∀ a b, f x = some a → f y = some b → a = b := by
  constructor
  · intro hperm
    -- either arm can be the first to speak
    have hfirst : ∀ x ∈ l, ∀ a, f x = some a → firstAnswer (l.map f) d = a := by
      intro x hx a ha
      obtain ⟨s, t, rfl⟩ := List.append_of_mem hx
      rw [← hperm (x :: (s ++ t)) List.perm_middle.symm, List.map_cons, ha]
      rfl
    intro x hx y hy a b ha hb
    exact (hfirst x hx a ha).symm.trans (hfirst y hy b hb)
  · intro hagree l' hl'
    by_cases hspeaks : ∃ x ∈ l, ∃ a, f x = some a
    · obtain ⟨x, hx, a, ha⟩ := hspeaks
      have hall : ∀ l'' : List β, l''.Perm l → firstAnswer (l''.map f) d = a := by
        intro l'' hl''
        refine firstAnswer_eq_of_agree (List.mem_map.mpr ⟨x, hl''.mem_iff.mpr hx, ha⟩) ?_ d
        intro b hb
        obtain ⟨y, hy, hyb⟩ := List.mem_map.mp hb
        exact hagree y (hl''.mem_iff.mp hy) x hx b a hyb ha
      exact (hall l' hl').trans (hall l (List.Perm.refl l)).symm
    · have hall : ∀ l'' : List β, l''.Perm l → firstAnswer (l''.map f) d = d := by
        intro l'' hl''
        refine firstAnswer_eq_default (fun arm harm => ?_) d
        obtain ⟨y, hy, rfl⟩ := List.mem_map.mp harm
        cases hfy : f y with
        | none => rfl
        | some a => exact absurd ⟨y, hl''.mem_iff.mp hy, a, hfy⟩ hspeaks
      exact (hall l' hl').trans (hall l (List.Perm.refl l)).symm

end DecisionList
