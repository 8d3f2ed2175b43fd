import Mathlib.Data.List.Forall2
import Mathlib.Tactic.Common

/-! # Effects that fail or die

    An effect ends with a value, with a failure that its caller may catch, or it
    dies of an exception that nothing catches.  A batch catches the failures of
    its items and dies with the first item that dies:

    * `forEach_caught_iff`: a batch that ends has what each of its items ends with
      alone, so it ends exactly when none of them dies. -/

/-- How an effect ends. -/
inductive Exit (ε α : Type) where
  | succeed (value : α)
  | fail (error : ε)
  | die
  deriving DecidableEq, Repr

namespace Exit

variable {ε ε' α β ι : Type}

/-- One effect after another. -/
def bind (x : Exit ε α) (f : α → Exit ε β) : Exit ε β :=
  match x with
  | succeed value => f value
  | fail error => fail error
  | die => die

instance : Monad (Exit ε) where
  pure := succeed
  bind := bind

/-- Catch the failure of an effect. -/
def either (x : Exit ε α) : Exit ε' (Except ε α) :=
  match x with
  | succeed value => succeed (.ok value)
  | fail error => succeed (.error error)
  | die => die

/-- An effect for each item, in order. -/
def forEach (f : ι → Exit ε α) : List ι → Exit ε (List α)
  | [] => succeed []
  | i :: rest => (f i).bind fun value => (forEach f rest).bind fun values =>
      succeed (value :: values)

/-- An effect that has ended, as what a caller that catches failures has of it. -/
def caught (x : Exit ε α) : Option (Except ε α) :=
  match x with
  | succeed value => some (.ok value)
  | fail error => some (.error error)
  | die => none

/-- **BIND**: a sequence succeeds when both effects do. -/
theorem bind_eq_succeed_iff {x : Exit ε α} {f : α → Exit ε β} {b : β} :
    x.bind f = succeed b ↔ ∃ a, x = succeed a ∧ f a = succeed b := by
  cases x with
  | succeed value =>
      constructor
      · intro h; exact ⟨value, rfl, h⟩
      · rintro ⟨a, h, hf⟩
        obtain rfl := succeed.inj h
        exact hf
  | fail error =>
      constructor
      · intro h; cases h
      · rintro ⟨a, h, -⟩; cases h
  | die =>
      constructor
      · intro h; cases h
      · rintro ⟨a, h, -⟩; cases h

/-- **DEATH OF A SEQUENCE**: it is in one of the effects that were reached. -/
theorem bind_eq_die_iff {x : Exit ε α} {f : α → Exit ε β} :
    x.bind f = die ↔ x = die ∨ ∃ a, x = succeed a ∧ f a = die := by
  cases x with
  | succeed value =>
      constructor
      · intro h; exact .inr ⟨value, rfl, h⟩
      · rintro (h | ⟨a, h, hf⟩)
        · cases h
        · obtain rfl := succeed.inj h
          exact hf
  | fail error =>
      constructor
      · intro h; cases h
      · rintro (h | ⟨a, h, -⟩)
        · cases h
        · cases h
  | die => exact iff_of_true rfl (.inl rfl)

theorem caught_isSome_iff {x : Exit ε α} : x.caught.isSome = true ↔ x ≠ die := by
  cases x <;> simp [caught]

theorem either_eq_succeed_iff {x : Exit ε α} {outcome : Except ε α} :
    (x.either : Exit ε' _) = succeed outcome ↔ x.caught = some outcome := by
  cases x with
  | succeed value =>
      constructor
      · intro h; exact congrArg some (succeed.inj h)
      · intro h; exact congrArg succeed (Option.some.inj h)
  | fail error =>
      constructor
      · intro h; exact congrArg some (succeed.inj h)
      · intro h; exact congrArg succeed (Option.some.inj h)
  | die => exact iff_of_false (fun h => by cases h) (fun h => by cases h)

/-- **BATCH**: a batch ends with what each of its items ends with alone. -/
theorem forEach_caught_iff {f : ι → Exit ε α} {items : List ι} {outcomes : List (Except ε α)} :
    (forEach (fun i => (f i).either) items : Exit ε' _) = succeed outcomes
      ↔ List.Forall₂ (fun i outcome => (f i).caught = some outcome) items outcomes := by
  induction items generalizing outcomes with
  | nil =>
      constructor
      · intro h
        obtain rfl := succeed.inj h
        exact .nil
      · rintro ⟨⟩
        rfl
  | cons i rest ih =>
      rw [forEach, bind_eq_succeed_iff]
      constructor
      · rintro ⟨outcome, hi, h⟩
        obtain ⟨others, hrest, h⟩ := bind_eq_succeed_iff.mp h
        obtain rfl := succeed.inj h
        exact .cons (either_eq_succeed_iff.mp hi) (ih.mp hrest)
      · rintro (_ | ⟨hi, hrest⟩)
        exact ⟨_, either_eq_succeed_iff.mpr hi,
          bind_eq_succeed_iff.mpr ⟨_, ih.mpr hrest, rfl⟩⟩

/-- Two batches after one another, item by item. -/
theorem exists_forall₂_iff {γ : Type} {P : α → β → Prop} {Q : β → γ → Prop} {l : List α}
    {n : List γ} :
    (∃ m, List.Forall₂ P l m ∧ List.Forall₂ Q m n)
      ↔ List.Forall₂ (fun a c => ∃ b, P a b ∧ Q b c) l n := by
  constructor
  · rintro ⟨m, hfirst, hsecond⟩
    induction hfirst generalizing n with
    | nil =>
        cases hsecond
        exact .nil
    | cons hP _ ih =>
        cases hsecond with
        | cons hQ hrest => exact .cons ⟨_, hP, hQ⟩ (ih hrest)
  · intro h
    induction h with
    | nil => exact ⟨[], .nil, .nil⟩
    | cons hstep _ ih =>
        obtain ⟨b, hP, hQ⟩ := hstep
        obtain ⟨m, hfirst, hsecond⟩ := ih
        exact ⟨b :: m, .cons hP hfirst, .cons hQ hsecond⟩

theorem exists_of_mem_left {P : α → β → Prop} {l : List α} {m : List β} {a : α}
    (h : List.Forall₂ P l m) (hmem : a ∈ l) : ∃ b ∈ m, P a b := by
  induction h with
  | nil => cases hmem
  | cons hP _ ih =>
      obtain rfl | hmem := List.mem_cons.mp hmem
      · exact ⟨_, List.mem_cons_self, hP⟩
      · obtain ⟨b, hb, hPb⟩ := ih hmem
        exact ⟨b, List.mem_cons_of_mem _ hb, hPb⟩

/-- A list of steps has a result when each of them has. -/
theorem exists_forall₂ {P : α → β → Prop} {l : List α} (h : ∀ a ∈ l, ∃ b, P a b) :
    ∃ m, List.Forall₂ P l m := by
  induction l with
  | nil => exact ⟨[], .nil⟩
  | cons a rest ih =>
      obtain ⟨⟨b, hb⟩, hrest⟩ := List.forall_mem_cons.mp h
      obtain ⟨m, hm⟩ := ih hrest
      exact ⟨b :: m, .cons hb hm⟩

end Exit
