import Mathlib.Data.List.Basic
import Mathlib.Tactic.Common

/-! # Replaying a log

    A log is applied to a state once, and then once more.  Where an action
    leaves no trace of itself under a later occurrence of the same action, the
    second pass changes nothing (`Settles.replay`).  Actions that write a
    constant, actions that filter and actions that overwrite one field are of
    this kind, alone and mixed.

    The condition is on single actions (`Settles`), and a state of many parts is
    compared part by part (`foldl_view`). -/

namespace Replay

variable {σ ω X : Type}

/-- **SETTLES**: an action repeats without effect, and what it makes equal stays
    equal, up to that action, under every other action. -/
structure Settles (act : X → ω → X) : Prop where
  idem : ∀ x a, act (act x a) a = act x a
  absorbs : ∀ x y a b, act x a = act y a → act (act x b) a = act (act y b) a

namespace Settles

variable {act : X → ω → X} (h : Settles act)

include h

/-- What an action makes equal stays equal, up to it, under a log. -/
theorem foldl_absorbs {x y : X} {a : ω} (log : List ω) (heq : act x a = act y a) :
    act (log.foldl act x) a = act (log.foldl act y) a := by
  induction log generalizing x y with
  | nil => exact heq
  | cons b rest ih => exact ih (h.absorbs x y a b heq)

/-- An action that comes again later may be left out. -/
theorem foldl_drop {log : List ω} {a : ω} (hmem : a ∈ log) (x : X) :
    log.foldl act (act x a) = log.foldl act x := by
  obtain ⟨earlier, later, rfl⟩ := List.append_of_mem hmem
  have hmeet : act (earlier.foldl act (act x a)) a = act (earlier.foldl act x) a :=
    h.foldl_absorbs earlier (h.idem x a)
  rw [List.foldl_append, List.foldl_append, List.foldl_cons, List.foldl_cons, hmeet]

/-- So may a list of actions that all come again later. -/
theorem foldl_dropAll {log : List ω} (earlier : List ω) (hmem : ∀ a ∈ earlier, a ∈ log) (x : X) :
    log.foldl act (earlier.foldl act x) = log.foldl act x := by
  induction earlier generalizing x with
  | nil => rfl
  | cons a rest ih =>
      rw [List.foldl_cons, ih (fun b hb => hmem b (List.mem_cons_of_mem _ hb)),
        h.foldl_drop (hmem a (List.mem_cons_self ..))]

/-- **REPLAY**: the second pass over a log changes nothing. -/
theorem replay (log : List ω) (x : X) : log.foldl act (log.foldl act x) = log.foldl act x :=
  h.foldl_dropAll log (fun _ ha => ha) x

end Settles

/-- A part of the state that the actions treat on its own. -/
theorem foldl_view {apply : σ → ω → σ} {act : X → ω → X} {view : σ → X}
    (hview : ∀ s a, view (apply s a) = act (view s) a) (log : List ω) (s : σ) :
    view (log.foldl apply s) = log.foldl act (view s) := by
  induction log generalizing s with
  | nil => rfl
  | cons a rest ih => rw [List.foldl_cons, List.foldl_cons, ih, hview]

/-- **A PART SETTLES**: after the second pass it is what it was after the first. -/
theorem Settles.replay_view {apply : σ → ω → σ} {act : X → ω → X} {view : σ → X}
    (h : Settles act) (hview : ∀ s a, view (apply s a) = act (view s) a) (log : List ω) (s : σ) :
    view (log.foldl apply (log.foldl apply s)) = view (log.foldl apply s) := by
  rw [foldl_view hview, foldl_view hview, h.replay]

/-! ## Kinds of actions that settle -/

/-- Actions that set a fact, clear it, or leave it. -/
theorem settles_latch (Sets Clears : ω → Prop) :
    Settles fun (fact : Prop) a => Sets a ∨ (fact ∧ ¬ Clears a) := by
  refine ⟨fun x a => propext ?_, fun x y a b heq => propext ?_⟩
  · tauto
  · have hiff : Sets a ∨ (x ∧ ¬ Clears a) ↔ Sets a ∨ (y ∧ ¬ Clears a) := iff_of_eq heq
    tauto

/-- What an action does to an entry that may be absent: write it, keep it under a
    condition, or change it in place. -/
inductive EntryAction (V : Type) where
  | write (value : V)
  | keep (condition : V → Bool)
  | change (update : V → V)

/-- The entry after an action. -/
def EntryAction.apply {V : Type} (entry : Option V) : EntryAction V → Option V
  | .write value => some value
  | .keep condition => entry.filter condition
  | .change update => entry.map update

/-- **COMPATIBLE**: no condition looks at what the updates change, and the updates
    settle among themselves. -/
structure Compatible {V : Type} (entryOf : ω → EntryAction V) : Prop where
  condition : ∀ a b condition update, entryOf a = .keep condition → entryOf b = .change update →
    ∀ v, condition (update v) = condition v
  idem : ∀ a update, entryOf a = .change update → ∀ v, update (update v) = update v
  absorbs : ∀ a b update update', entryOf a = .change update → entryOf b = .change update' →
    ∀ v w, update v = update w → update (update' v) = update (update' w)

theorem filter_filter_comm {V : Type} (entry : Option V) (p q : V → Bool) :
    (entry.filter p).filter q = (entry.filter q).filter p := by
  rw [Option.filter_filter, Option.filter_filter]
  exact congrArg entry.filter (funext fun v => Bool.and_comm ..)

theorem map_filter_comm {V : Type} (entry : Option V) (p : V → Bool) (f : V → V)
    (h : ∀ v, p (f v) = p v) : (entry.map f).filter p = (entry.filter p).map f := by
  cases entry with
  | none => rfl
  | some v =>
      rw [Option.map_some, Option.filter_some, Option.filter_some, h v]
      cases p v <;> rfl

/-- **ENTRIES**: writes, removals and updates of an entry settle. -/
theorem settles_entry {V : Type} {entryOf : ω → EntryAction V} (h : Compatible entryOf) :
    Settles fun (entry : Option V) a => (entryOf a).apply entry := by
  refine ⟨fun x a => ?_, fun x y a b heq => ?_⟩
  · cases ha : entryOf a with
    | write value => rfl
    | keep condition =>
        show (x.filter condition).filter condition = x.filter condition
        rw [Option.filter_filter]
        exact congrArg x.filter (funext fun v => Bool.and_self _)
    | change update =>
        show (x.map update).map update = x.map update
        rw [Option.map_map]
        exact congrArg (fun f => x.map f) (funext (h.idem a update ha))
  · cases ha : entryOf a with
    | write value => rfl
    | keep condition =>
        rw [ha] at heq
        have hkept : x.filter condition = y.filter condition := heq
        cases hb : entryOf b with
        | write value => rfl
        | keep condition' =>
            show (x.filter condition').filter condition = (y.filter condition').filter condition
            rw [filter_filter_comm, hkept, filter_filter_comm]
        | change update =>
            show (x.map update).filter condition = (y.map update).filter condition
            have hblind := h.condition a b condition update ha hb
            rw [map_filter_comm _ _ _ hblind, hkept, map_filter_comm _ _ _ hblind]
    | change update =>
        rw [ha] at heq
        have hchanged : x.map update = y.map update := heq
        cases hb : entryOf b with
        | write value => rfl
        | keep condition =>
            show (x.filter condition).map update = (y.filter condition).map update
            have hblind := h.condition b a condition update hb ha
            rw [← map_filter_comm _ _ _ hblind, hchanged, map_filter_comm _ _ _ hblind]
        | change update' =>
            show (x.map update').map update = (y.map update').map update
            cases x with
            | none =>
                cases y with
                | none => rfl
                | some w => cases hchanged
            | some v =>
                cases y with
                | none => cases hchanged
                | some w =>
                    exact congrArg some
                      (h.absorbs a b update update' ha hb v w (Option.some.inj hchanged))

end Replay
