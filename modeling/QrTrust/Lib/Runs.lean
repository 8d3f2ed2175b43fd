import Mathlib.Data.List.Basic
import Mathlib.Tactic.Common

/-! # Machines that plan their actions

    A machine reads one input at a time, plans a list of actions from its state
    and the input, and applies them one after the other.  An observer may look
    at the state between any two actions, so a safety property is about every
    prefix of the action list of a run:

    * `actions_append`, `runState_eq_foldl`: a run is its action list;
    * `prefix_invariant`: an invariant that every admitted action preserves
      holds at every prefix of a run of admitted actions. -/

namespace Runs

variable {σ ι ω : Type}

/-- A machine: what it plans for an input, and what one action does. -/
structure Machine (σ ι ω : Type) where
  plan : σ → ι → List ω
  apply : σ → ω → σ

namespace Machine

variable (M : Machine σ ι ω)

/-- The state after a list of actions. -/
def applyAll (s : σ) (actions : List ω) : σ := actions.foldl M.apply s

/-- The state after one input. -/
def step (s : σ) (i : ι) : σ := M.applyAll s (M.plan s i)

/-- The state after a list of inputs. -/
def runState (s : σ) (inputs : List ι) : σ := inputs.foldl M.step s

/-- The trace of a run: every input with the state it met and the actions
    planned for it. -/
def trace : σ → List ι → List (ι × σ × List ω)
  | _, [] => []
  | s, i :: rest => (i, s, M.plan s i) :: trace (M.step s i) rest

/-- All actions of a run, in order. -/
def actions (s : σ) (inputs : List ι) : List ω :=
  (M.trace s inputs).flatMap fun entry => entry.2.2

@[simp] theorem runState_nil (s : σ) : M.runState s [] = s := rfl

@[simp] theorem runState_cons (s : σ) (i : ι) (rest : List ι) :
    M.runState s (i :: rest) = M.runState (M.step s i) rest := rfl

theorem runState_append (s : σ) (is js : List ι) :
    M.runState s (is ++ js) = M.runState (M.runState s is) js :=
  List.foldl_append

@[simp] theorem actions_nil (s : σ) : M.actions s [] = [] := rfl

theorem actions_cons (s : σ) (i : ι) (rest : List ι) :
    M.actions s (i :: rest) = M.plan s i ++ M.actions (M.step s i) rest := rfl

@[simp] theorem applyAll_nil (s : σ) : M.applyAll s [] = s := rfl

@[simp] theorem applyAll_cons (s : σ) (a : ω) (rest : List ω) :
    M.applyAll s (a :: rest) = M.applyAll (M.apply s a) rest := rfl

theorem applyAll_append (s : σ) (as bs : List ω) :
    M.applyAll s (as ++ bs) = M.applyAll (M.applyAll s as) bs :=
  List.foldl_append

/-- **RUNS ARE ACTION LISTS**: the state after a run is the state after its
    actions. -/
theorem runState_eq_applyAll (s : σ) (inputs : List ι) :
    M.runState s inputs = M.applyAll s (M.actions s inputs) := by
  induction inputs generalizing s with
  | nil => rfl
  | cons i rest ih =>
      rw [runState_cons, actions_cons, applyAll_append, ih (M.step s i)]
      rfl

/-- Every trace entry is planned by the machine. -/
theorem mem_trace {s : σ} {inputs : List ι} {i : ι} {s' : σ} {as : List ω}
    (h : (i, s', as) ∈ M.trace s inputs) : i ∈ inputs ∧ as = M.plan s' i := by
  induction inputs generalizing s with
  | nil => exact nomatch h
  | cons j rest ih =>
      rcases List.mem_cons.mp h with heq | hmem
      · obtain ⟨rfl, hpair⟩ := Prod.mk.inj heq
        obtain ⟨rfl, rfl⟩ := Prod.mk.inj hpair
        exact ⟨List.mem_cons_self .., rfl⟩
      · obtain ⟨hi, has⟩ := ih hmem
        exact ⟨List.mem_cons_of_mem _ hi, has⟩

/-- Every input of a run has a trace entry. -/
theorem exists_trace_of_mem {s : σ} {inputs : List ι} {i : ι} (h : i ∈ inputs) :
    ∃ s', (i, s', M.plan s' i) ∈ M.trace s inputs := by
  induction inputs generalizing s with
  | nil => exact nomatch h
  | cons j rest ih =>
      rcases List.mem_cons.mp h with rfl | hmem
      · exact ⟨s, List.mem_cons_self ..⟩
      · obtain ⟨s', hs'⟩ := @ih (M.step s j) hmem
        exact ⟨s', List.mem_cons_of_mem _ hs'⟩

/-! ## Invariants -/

/-- Every action of the list meets a condition on it and the state before it. -/
def EachMeets (Meets : σ → ω → Prop) : σ → List ω → Prop
  | _, [] => True
  | s, a :: rest => Meets s a ∧ EachMeets Meets (M.apply s a) rest

/-- What is left of an admitted list is admitted where it starts. -/
theorem EachMeets.rest {M : Machine σ ι ω} {Meets : σ → ω → Prop} {s : σ} {before after : List ω}
    (h : M.EachMeets Meets s (before ++ after)) :
    M.EachMeets Meets (M.applyAll s before) after := by
  induction before generalizing s with
  | nil => exact h
  | cons b before ih => exact ih h.2

/-- The first part of an admitted list is admitted. -/
theorem EachMeets.left {M : Machine σ ι ω} {Meets : σ → ω → Prop} {s : σ} {before after : List ω}
    (h : M.EachMeets Meets s (before ++ after)) : M.EachMeets Meets s before := by
  induction before generalizing s with
  | nil => trivial
  | cons b before ih => exact ⟨h.1, ih h.2⟩

/-- An action of an admitted list is admitted where it is applied. -/
theorem EachMeets.next {M : Machine σ ι ω} {Meets : σ → ω → Prop} {s : σ} {actions before : List ω}
    {a : ω} (h : M.EachMeets Meets s actions) (hnext : before ++ [a] <+: actions) :
    Meets (M.applyAll s before) a := by
  obtain ⟨after, rfl⟩ := hnext
  rw [List.append_assoc] at h
  exact h.rest.1

/-- **PREFIX INVARIANT**: what every admitted action preserves holds at every
    point between two actions of an admitted list. -/
theorem prefix_invariant {I : σ → Prop} {Meets : σ → ω → Prop}
    (hstep : ∀ s a, I s → Meets s a → I (M.apply s a))
    {s : σ} {actions : List ω} (hinit : I s) (hmeets : M.EachMeets Meets s actions) :
    ∀ before, before <+: actions → I (M.applyAll s before) := by
  intro before hbefore
  induction actions generalizing s before with
  | nil =>
      rw [List.prefix_nil.mp hbefore]
      exact hinit
  | cons a rest ih =>
      obtain ⟨hmeets_a, hmeets_rest⟩ := hmeets
      cases before with
      | nil => exact hinit
      | cons b before =>
          obtain ⟨rfl, htail⟩ := List.cons_prefix_cons.mp hbefore
          exact ih (hstep s b hinit hmeets_a) hmeets_rest before htail

/-- What every admitted action is like. -/
theorem EachMeets.forall_mem {M : Machine σ ι ω} {Meets : σ → ω → Prop} {P : ω → Prop} {s : σ}
    {actions : List ω} (h : M.EachMeets Meets s actions) (hlike : ∀ s a, Meets s a → P a) :
    ∀ a ∈ actions, P a := by
  induction actions generalizing s with
  | nil => exact fun a hmem => absurd hmem List.not_mem_nil
  | cons b rest ih => exact List.forall_mem_cons.mpr ⟨hlike s b h.1, ih h.2⟩

/-- What holds of every action may join what the actions meet. -/
theorem EachMeets.and_forall {M : Machine σ ι ω} {Meets : σ → ω → Prop} {P : ω → Prop} {s : σ}
    {actions : List ω} (h : M.EachMeets Meets s actions) (hall : ∀ a ∈ actions, P a) :
    M.EachMeets (fun s a => Meets s a ∧ P a) s actions := by
  induction actions generalizing s with
  | nil => trivial
  | cons a rest ih =>
      obtain ⟨ha, hrest⟩ := List.forall_mem_cons.mp hall
      exact ⟨⟨h.1, ha⟩, ih h.2 hrest⟩

/-- **SEGMENT INVARIANT**: what every admitted action preserves holds from any
    point of a run on. -/
theorem segment_invariant {I : σ → Prop} {Meets : σ → ω → Prop}
    (hstep : ∀ s a, I s → Meets s a → I (M.apply s a))
    {s : σ} {actions earlier later : List ω} (hmeets : M.EachMeets Meets s actions)
    (hlater : later <+: actions) (hearlier : earlier <+: later)
    (h : I (M.applyAll s earlier)) : I (M.applyAll s later) := by
  obtain ⟨between, rfl⟩ := hearlier
  obtain ⟨after, rfl⟩ := hlater
  rw [List.append_assoc] at hmeets
  rw [applyAll_append]
  exact M.prefix_invariant hstep h hmeets.rest between (List.prefix_append ..)

/-- What every action of a list preserves holds after the list. -/
theorem applyAll_invariant {I : σ → Prop} {actions : List ω}
    (hstep : ∀ s, ∀ a ∈ actions, I s → I (M.apply s a)) {s : σ} (hinit : I s) :
    I (M.applyAll s actions) := by
  induction actions generalizing s with
  | nil => exact hinit
  | cons a rest ih =>
      exact ih (fun s b hb => hstep s b (List.mem_cons_of_mem _ hb))
        (hstep s a (List.mem_cons_self ..) hinit)

/-- **ESTABLISHED ONCE**: what one action of a list establishes and every action
    of it preserves holds after the list. -/
theorem applyAll_established {I : σ → Prop} {actions : List ω} {a : ω}
    (hmem : a ∈ actions) (hestablish : ∀ s, I (M.apply s a))
    (hstep : ∀ s, ∀ b ∈ actions, I s → I (M.apply s b)) (s : σ) :
    I (M.applyAll s actions) := by
  induction actions generalizing s with
  | nil => exact nomatch hmem
  | cons b rest ih =>
      have hrest : ∀ s, ∀ c ∈ rest, I s → I (M.apply s c) :=
        fun s c hc => hstep s c (List.mem_cons_of_mem _ hc)
      rcases List.mem_cons.mp hmem with rfl | hmem
      · exact M.applyAll_invariant hrest (hestablish s)
      · exact ih hmem hrest (M.apply s b)

/-- What every input of a list preserves holds after the run. -/
theorem runState_invariant {I : σ → Prop} {inputs : List ι}
    (hstep : ∀ s, ∀ i ∈ inputs, I s → I (M.step s i)) {s : σ} (hinit : I s) :
    I (M.runState s inputs) := by
  induction inputs generalizing s with
  | nil => exact hinit
  | cons i rest ih =>
      exact ih (fun s j hj => hstep s j (List.mem_cons_of_mem _ hj))
        (hstep s i (List.mem_cons_self ..) hinit)

end Machine

end Runs
