import Mathlib.Data.List.Forall2

/-! # Fallible computations

    Inversion of the steps of a computation in `Except`, and of a list of such
    steps: from a success, the value each step returned, and of the errors, which
    step may raise them. -/

namespace Fallible

variable {ε α β : Type}

/-- **BIND**: a sequence succeeds when both steps do. -/
theorem bind_eq_ok_iff {x : Except ε α} {f : α → Except ε β} {b : β} :
    (x >>= f) = .ok b ↔ ∃ a, x = .ok a ∧ f a = .ok b := by
  cases x with
  | error e =>
      constructor
      · intro h; exact nomatch h
      · rintro ⟨a, h, -⟩; exact nomatch h
  | ok a =>
      constructor
      · intro h; exact ⟨a, rfl, h⟩
      · rintro ⟨a', h, hf⟩
        obtain rfl := Except.ok.inj h
        exact hf

/-- Forgetting the error keeps the success. -/
theorem toOption_eq_some_iff {x : Except ε α} {a : α} : x.toOption = some a ↔ x = .ok a := by
  cases x with
  | error e =>
      constructor
      · intro h; cases h
      · intro h; cases h
  | ok b =>
      constructor
      · intro h
        obtain rfl := Option.some.inj h
        rfl
      · intro h
        obtain rfl := Except.ok.inj h
        rfl

theorem exists_ok_of_isOk {x : Except ε α} (h : x.isOk = true) : ∃ a, x = .ok a := by
  cases x with
  | error e => cases h
  | ok a => exact ⟨a, rfl⟩

/-- A list of steps succeeds when every step does. -/
theorem mapM_eq_ok_iff {f : α → Except ε β} {l : List α} {r : List β} :
    l.mapM f = .ok r ↔ List.Forall₂ (fun a b => f a = .ok b) l r := by
  induction l generalizing r with
  | nil =>
      constructor
      · intro h
        obtain rfl := Except.ok.inj h
        exact .nil
      · rintro ⟨⟩
        rfl
  | cons a rest ih =>
      rw [List.mapM_cons, bind_eq_ok_iff]
      constructor
      · rintro ⟨b, hb, hrest⟩
        obtain ⟨bs, hbs, hr⟩ := bind_eq_ok_iff.mp hrest
        obtain rfl := Except.ok.inj hr
        exact .cons hb (ih.mp hbs)
      · rintro (_ | ⟨hb, hrest⟩)
        exact ⟨_, hb, bind_eq_ok_iff.mpr ⟨_, ih.mpr hrest, rfl⟩⟩

/-- What a list of steps returned holds the result of every step. -/
theorem exists_of_mapM_eq_ok {f : α → Except ε β} {l : List α} {r : List β} {a : α}
    (h : l.mapM f = .ok r) (ha : a ∈ l) : ∃ b ∈ r, f a = .ok b := by
  have hall := mapM_eq_ok_iff.mp h
  induction hall with
  | nil => exact absurd ha List.not_mem_nil
  | cons hb hrest ih =>
      rcases List.mem_cons.mp ha with rfl | hmem
      · exact ⟨_, List.mem_cons_self .., hb⟩
      · obtain ⟨b, hbmem, hfa⟩ := ih (mapM_eq_ok_iff.mpr hrest) hmem
        exact ⟨b, List.mem_cons_of_mem _ hbmem, hfa⟩

/-- A result of a list of steps is the result of one of them. -/
theorem exists_source_of_mapM_eq_ok {f : α → Except ε β} {l : List α} {r : List β} {b : β}
    (h : l.mapM f = .ok r) (hb : b ∈ r) : ∃ a ∈ l, f a = .ok b := by
  have hall := mapM_eq_ok_iff.mp h
  clear h
  induction hall with
  | nil => exact absurd hb List.not_mem_nil
  | cons hfirst _ ih =>
      rcases List.mem_cons.mp hb with rfl | hmem
      · exact ⟨_, List.mem_cons_self .., hfirst⟩
      · obtain ⟨a, ha, hfa⟩ := ih hmem
        exact ⟨a, List.mem_cons_of_mem _ ha, hfa⟩

/-! ## What a computation may raise -/

/-- Every error the computation raises is one of these. -/
def RaisesOnly (P : ε → Prop) (x : Except ε α) : Prop := ∀ e, x = .error e → P e

/-- The computation returns. -/
def RaisesNothing (x : Except ε α) : Prop := RaisesOnly (fun _ => False) x

variable {P : ε → Prop}

theorem raisesOnly_ok (a : α) : RaisesOnly P (.ok a) := by
  intro e h
  cases h

theorem raisesOnly_error_iff {e : ε} : RaisesOnly P (.error e : Except ε α) ↔ P e := by
  constructor
  · intro h
    exact h e rfl
  · intro h e' he'
    obtain rfl := Except.error.inj he'
    exact h

/-- The second step is asked about where the first one succeeds. -/
theorem raisesOnly_bind_iff {x : Except ε α} {f : α → Except ε β} :
    RaisesOnly P (x >>= f) ↔ RaisesOnly P x ∧ ∀ a, x = .ok a → RaisesOnly P (f a) := by
  cases x with
  | error e =>
      show RaisesOnly P (.error e : Except ε β) ↔ _
      rw [raisesOnly_error_iff, raisesOnly_error_iff]
      constructor
      · intro h
        exact ⟨h, fun a ha => by cases ha⟩
      · intro h
        exact h.1
  | ok a =>
      show RaisesOnly P (f a) ↔ _
      constructor
      · intro h
        refine ⟨raisesOnly_ok a, fun a' ha' => ?_⟩
        obtain rfl := Except.ok.inj ha'
        exact h
      · intro h
        exact h.2 a rfl

theorem raisesOnly_map_iff {x : Except ε α} {f : α → β} :
    RaisesOnly P (x.map f) ↔ RaisesOnly P x := by
  cases x with
  | error e =>
      show RaisesOnly P (.error e : Except ε β) ↔ _
      rw [raisesOnly_error_iff, raisesOnly_error_iff]
  | ok a =>
      show RaisesOnly P (.ok (f a) : Except ε β) ↔ _
      exact iff_of_true (raisesOnly_ok _) (raisesOnly_ok _)

/-- Where an error is turned into another, that one has to be allowed. -/
theorem raisesOnly_mapError_iff {ε' : Type} {Q : ε' → Prop} {x : Except ε α} {f : ε → ε'} :
    RaisesOnly Q (x.mapError f) ↔ RaisesOnly (fun e => Q (f e)) x := by
  cases x with
  | error e =>
      show RaisesOnly Q (.error (f e) : Except ε' α) ↔ _
      rw [raisesOnly_error_iff, raisesOnly_error_iff]
  | ok a =>
      show RaisesOnly Q (.ok a : Except ε' α) ↔ _
      exact iff_of_true (raisesOnly_ok _) (raisesOnly_ok _)

theorem RaisesOnly.mono {Q : ε → Prop} {x : Except ε α} (h : RaisesOnly P x)
    (hPQ : ∀ e, P e → Q e) : RaisesOnly Q x := fun e he => hPQ e (h e he)

theorem raisesNothing_iff {x : Except ε α} : RaisesNothing x ↔ ∃ a, x = .ok a := by
  cases x with
  | error e =>
      constructor
      · intro h
        exact (h e rfl).elim
      · rintro ⟨a, ha⟩
        cases ha
  | ok a => exact iff_of_true (raisesOnly_ok a) ⟨a, rfl⟩

/-- **TYPED ERRORS**: a computation that raises only these returns or raises one. -/
theorem raisesOnly_iff {x : Except ε α} :
    RaisesOnly P x ↔ (∃ a, x = .ok a) ∨ ∃ e, x = .error e ∧ P e := by
  cases x with
  | error e =>
      rw [raisesOnly_error_iff]
      constructor
      · intro h
        exact .inr ⟨e, rfl, h⟩
      · rintro (⟨a, ha⟩ | ⟨e', he', h⟩)
        · cases ha
        · obtain rfl := Except.error.inj he'
          exact h
  | ok a => exact iff_of_true (raisesOnly_ok a) (.inl ⟨a, rfl⟩)

/-- A list of steps returns when every step does. -/
theorem raisesNothing_mapM_iff {f : α → Except ε β} {l : List α} :
    RaisesNothing (l.mapM f) ↔ ∀ a ∈ l, RaisesNothing (f a) := by
  induction l with
  | nil => exact iff_of_true (raisesOnly_ok _) (fun a ha => absurd ha List.not_mem_nil)
  | cons hd rest ih =>
      rw [List.mapM_cons, RaisesNothing, raisesOnly_bind_iff, List.forall_mem_cons, ← ih]
      refine and_congr_right fun hhd => ?_
      obtain ⟨b, hb⟩ := raisesNothing_iff.mp hhd
      constructor
      · intro h
        exact (raisesOnly_bind_iff.mp (h b hb)).1
      · intro h b' _
        exact raisesOnly_bind_iff.mpr ⟨h, fun bs _ => raisesOnly_ok _⟩

end Fallible
