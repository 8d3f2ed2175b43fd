import Mathlib.Order.Lattice
import Mathlib.Data.List.Basic

/-! # Decisions over time

    A timed decision is a chain of tests against a clock.  Each test compares the
    clock with one boundary: an answer holds before it (`pending`), or from it on
    (`expiring`), and otherwise the next test decides.  The answer found at one
    time is still the answer later exactly when no boundary it was read from has
    been reached in between, as long as the answers can be told apart. -/

/-- A chain of tests against a clock in `τ`, with answers in `α`. -/
inductive Timed (τ α : Type) where
  | done (a : α)
  | pending (b : τ) (a : α) (rest : Timed τ α)
  | expiring (b : τ) (a : α) (rest : Timed τ α)

namespace Timed

variable {τ α β ε : Type}

/-- The answers a chain can give. -/
def answers : Timed τ α → List α
  | done a => [a]
  | pending _ a rest => a :: rest.answers
  | expiring _ a rest => a :: rest.answers

/-- The answer of a test is given nowhere below it. -/
def Distinct : Timed τ α → Prop
  | done _ => True
  | pending _ a rest => a ∉ rest.answers ∧ rest.Distinct
  | expiring _ a rest => a ∉ rest.answers ∧ rest.Distinct

/-- The chain of a computation that may fail before its tests. -/
def ofExcept (x : Except ε β) (next : β → Timed τ (Except ε α)) : Timed τ (Except ε α) :=
  match x with
  | .error e => done (.error e)
  | .ok b => next b

theorem distinct_ofExcept {x : Except ε β} {next : β → Timed τ (Except ε α)}
    (h : ∀ b, x = .ok b → (next b).Distinct) : (ofExcept x next).Distinct := by
  cases x with
  | error e => trivial
  | ok b => exact h b rfl

/-- A success among the answers comes from the chain that follows. -/
theorem mem_answers_ofExcept {x : Except ε β} {next : β → Timed τ (Except ε α)} {a : α}
    (h : .ok a ∈ (ofExcept x next).answers) : ∃ b, x = .ok b ∧ .ok a ∈ (next b).answers := by
  cases x with
  | error e => cases List.mem_singleton.mp h
  | ok b => exact ⟨b, rfl, h⟩

variable [LinearOrder τ]

/-- The answer at a time. -/
def value : Timed τ α → τ → α
  | done a, _ => a
  | pending b a rest, t => if t < b then a else rest.value t
  | expiring b a rest, t => if b ≤ t then a else rest.value t

/-- The boundaries the answer at a time was read from. -/
def consulted : Timed τ α → τ → List τ
  | done _, _ => []
  | pending b _ rest, t => if t < b then [b] else b :: rest.consulted t
  | expiring b _ rest, t => if b ≤ t then [b] else b :: rest.consulted t

/-- No boundary the answer at `t` was read from is reached after `t` and up to
    `t'`. -/
def Settled (d : Timed τ α) (t t' : τ) : Prop := ∀ b ∈ d.consulted t, ¬ (t < b ∧ b ≤ t')

instance (d : Timed τ α) (t t' : τ) : Decidable (d.Settled t t') :=
  inferInstanceAs (Decidable (∀ b ∈ d.consulted t, ¬ (t < b ∧ b ≤ t')))

@[simp] theorem value_done (a : α) (t : τ) : (done a : Timed τ α).value t = a := rfl

theorem value_pending_of_lt {b t : τ} (h : t < b) (a : α) (rest : Timed τ α) :
    (pending b a rest).value t = a := if_pos h

theorem value_pending_of_le {b t : τ} (h : b ≤ t) (a : α) (rest : Timed τ α) :
    (pending b a rest).value t = rest.value t := if_neg (not_lt.mpr h)

theorem value_expiring_of_le {b t : τ} (h : b ≤ t) (a : α) (rest : Timed τ α) :
    (expiring b a rest).value t = a := if_pos h

theorem value_expiring_of_lt {b t : τ} (h : t < b) (a : α) (rest : Timed τ α) :
    (expiring b a rest).value t = rest.value t := if_neg (not_le.mpr h)

theorem settled_done (a : α) (t t' : τ) : (done a : Timed τ α).Settled t t' := by
  intro b hb
  exact absurd hb List.not_mem_nil

/-- Where the test answers, its boundary is the only one. -/
theorem settled_pending_of_lt {b t t' : τ} (h : t < b) (a : α) (rest : Timed τ α) :
    (pending b a rest).Settled t t' ↔ t' < b := by
  rw [Settled, consulted, if_pos h]
  simp [h]

/-- Where the test passes, its boundary is behind. -/
theorem settled_pending_of_le {b t t' : τ} (h : b ≤ t) (a : α) (rest : Timed τ α) :
    (pending b a rest).Settled t t' ↔ rest.Settled t t' := by
  rw [Settled, consulted, if_neg (not_lt.mpr h)]
  simp [Settled, not_lt.mpr h]

theorem settled_expiring_of_le {b t t' : τ} (h : b ≤ t) (a : α) (rest : Timed τ α) :
    (expiring b a rest).Settled t t' := by
  rw [Settled, consulted, if_pos h]
  simp [not_lt.mpr h]

theorem settled_expiring_of_lt {b t t' : τ} (h : t < b) (a : α) (rest : Timed τ α) :
    (expiring b a rest).Settled t t' ↔ t' < b ∧ rest.Settled t t' := by
  rw [Settled, consulted, if_neg (not_le.mpr h)]
  simp [Settled, h]

/-- An answer is one of the answers. -/
theorem value_mem_answers (d : Timed τ α) (t : τ) : d.value t ∈ d.answers := by
  induction d with
  | done a => exact List.mem_singleton.mpr rfl
  | pending b a rest ih =>
      rw [value, answers]
      split
      · exact List.mem_cons_self ..
      · exact List.mem_cons_of_mem _ ih
  | expiring b a rest ih =>
      rw [value, answers]
      split
      · exact List.mem_cons_self ..
      · exact List.mem_cons_of_mem _ ih

/-- **STABILITY**: with answers that can be told apart, the answer at `t` is the
    answer at a later `t'` exactly when none of its boundaries is reached in
    between. -/
theorem value_eq_iff_settled {d : Timed τ α} (hdistinct : d.Distinct) {t t' : τ} (h : t ≤ t') :
    d.value t' = d.value t ↔ d.Settled t t' := by
  induction d with
  | done a => exact ⟨fun _ => settled_done a t t', fun _ => rfl⟩
  | pending b a rest ih =>
      obtain ⟨hfresh, hrest⟩ := hdistinct
      rcases lt_or_ge t b with hb | hb
      · rw [value_pending_of_lt hb, settled_pending_of_lt hb]
        rcases lt_or_ge t' b with hb' | hb'
        · exact ⟨fun _ => hb', fun _ => value_pending_of_lt hb' a rest⟩
        · rw [value_pending_of_le hb']
          constructor
          · intro heq
            -- the answer before the boundary is given nowhere after it
            exact absurd (heq ▸ rest.value_mem_answers t') hfresh
          · intro hlt
            exact absurd hlt (not_lt.mpr hb')
      · rw [value_pending_of_le hb, value_pending_of_le (hb.trans h), settled_pending_of_le hb]
        exact ih hrest
  | expiring b a rest ih =>
      obtain ⟨hfresh, hrest⟩ := hdistinct
      rcases lt_or_ge t b with hb | hb
      · rw [value_expiring_of_lt hb, settled_expiring_of_lt hb]
        rcases lt_or_ge t' b with hb' | hb'
        · rw [value_expiring_of_lt hb', ih hrest]
          exact ⟨fun hs => ⟨hb', hs⟩, And.right⟩
        · rw [value_expiring_of_le hb']
          constructor
          · intro heq
            exact absurd (heq ▸ rest.value_mem_answers t) hfresh
          · rintro ⟨hlt, -⟩
            exact absurd hlt (not_lt.mpr hb')
      · rw [value_expiring_of_le hb, value_expiring_of_le (hb.trans h)]
        exact ⟨fun _ => settled_expiring_of_le hb a rest, fun _ => rfl⟩

/-- A chain after a computation that may fail: the failure is the answer. -/
theorem value_ofExcept (x : Except ε β) (next : β → Timed τ (Except ε α)) (t : τ) :
    (ofExcept x next).value t = x.bind fun b => (next b).value t := by
  cases x with
  | error e => rfl
  | ok b => rfl

end Timed
