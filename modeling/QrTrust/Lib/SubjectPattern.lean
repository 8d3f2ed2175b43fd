import Mathlib.Data.List.Basic

/-! # Patterns over lists of words

    A pattern is a list of tokens: a word stands for itself, `any` for one word,
    and `rest`, which must come last, for one word or more.  One pattern is laid
    over another token by token (`covers`).  Laid over words, this is matching
    (`covers_words`); laid over a pattern, it is inclusion of what the two match,
    unless it lays `any` over a `rest` (`matches_of_covers`). -/

namespace SubjectPattern

variable {α : Type*}

inductive Token (α : Type*) where
  | word (a : α)
  | any
  | rest
  deriving DecidableEq

/-- What a list of tokens matches. -/
def Matches : List (Token α) → List α → Prop
  | [], w => w = []
  | .rest :: p, w => p = [] ∧ w ≠ []
  | .any :: p, w => ∃ a v, w = a :: v ∧ Matches p v
  | .word b :: p, w => ∃ v, w = b :: v ∧ Matches p v

/-- Is the first list the second one, token by token, or wider? -/
def covers [DecidableEq α] : List (Token α) → List (Token α) → Bool
  | [], q => q.isEmpty
  | .rest :: p, q => p.isEmpty && !q.isEmpty
  | .any :: _, [] => false
  | .any :: p, _ :: q => covers p q
  | .word _ :: _, [] => false
  | .word b :: p, t :: q => t = .word b && covers p q

section Matching

variable {a b : α} {p : List (Token α)} {w : List α}

@[simp] theorem matches_nil : Matches [] w ↔ w = [] := Iff.rfl

@[simp] theorem matches_rest : Matches (.rest :: p) w ↔ p = [] ∧ w ≠ [] := Iff.rfl

@[simp] theorem matches_any_cons : Matches (.any :: p) (a :: w) ↔ Matches p w := by
  constructor
  · rintro ⟨_, _, heq, h⟩
    obtain ⟨rfl, rfl⟩ := List.cons.inj heq
    exact h
  · intro h
    exact ⟨a, w, rfl, h⟩

@[simp] theorem matches_word_cons : Matches (.word b :: p) (a :: w) ↔ a = b ∧ Matches p w := by
  constructor
  · rintro ⟨_, heq, h⟩
    obtain ⟨rfl, rfl⟩ := List.cons.inj heq
    exact ⟨rfl, h⟩
  · rintro ⟨rfl, h⟩
    exact ⟨w, rfl, h⟩

/-- Only the empty list of tokens matches the empty list of words. -/
@[simp] theorem matches_nil_right : Matches p [] ↔ p = [] := by
  cases p with
  | nil => exact iff_of_true rfl rfl
  | cons t p =>
      refine iff_of_false ?_ (List.cons_ne_nil _ _)
      cases t with
      | word b =>
          rintro ⟨_, heq, -⟩
          exact absurd heq.symm (List.cons_ne_nil _ _)
      | any =>
          rintro ⟨_, _, heq, -⟩
          exact absurd heq.symm (List.cons_ne_nil _ _)
      | rest =>
          intro h
          exact h.2 rfl

/-- A list of words, as a pattern, matches itself only. -/
theorem matches_words {v : List α} : Matches (v.map Token.word) w ↔ w = v := by
  induction v generalizing w with
  | nil => rfl
  | cons b v ih =>
      cases w with
      | nil => simp
      | cons a w =>
          rw [List.map_cons, matches_word_cons, ih, List.cons.injEq]

end Matching

section Covering

variable [DecidableEq α] {p q : List (Token α)}

/-- **MATCHING**: a pattern covers a list of words when it matches it. -/
theorem covers_words {w : List α} : covers p (w.map Token.word) = true ↔ Matches p w := by
  induction p generalizing w with
  | nil => simp [covers]
  | cons t p ih =>
      cases t with
      | rest => simp [covers]
      | any =>
          cases w with
          | nil => simp [covers]
          | cons a w =>
              rw [List.map_cons, covers, matches_any_cons, ih]
      | word b =>
          cases w with
          | nil => simp [covers]
          | cons a w =>
              rw [List.map_cons, covers, matches_word_cons, Bool.and_eq_true, decide_eq_true_iff,
                ih, Token.word.injEq]

/-- **INCLUSION**: what is covered matches no more than what covers it, when a
    `rest` is only laid over a `rest`. -/
theorem matches_of_covers {w : List α} (h : covers p q = true)
    (hrest : Token.rest ∈ q → Token.rest ∈ p) (hw : Matches q w) : Matches p w := by
  induction p generalizing q w with
  | nil =>
      rw [covers, List.isEmpty_iff] at h
      rwa [h] at hw
  | cons t p ih =>
      cases q with
      | nil => cases t <;> simp [covers] at h
      | cons s q =>
          cases t with
          | rest =>
              rw [covers, Bool.and_eq_true, List.isEmpty_iff] at h
              refine ⟨h.1, ?_⟩
              rintro rfl
              exact absurd (matches_nil_right.mp hw) (List.cons_ne_nil _ _)
          | any =>
              rw [covers] at h
              have hinner : Token.rest ∈ s :: q → Token.rest ∈ p := fun hmem =>
                (List.mem_cons.mp (hrest hmem)).resolve_left (by simp)
              cases s with
              | rest =>
                  -- nothing comes after a `rest`, so the covering list has no `rest` left
                  obtain ⟨rfl, -⟩ := hw
                  cases p with
                  | nil => exact absurd (hinner (List.mem_cons_self ..)) List.not_mem_nil
                  | cons t p => cases t <;> simp [covers] at h
              | any =>
                  obtain ⟨a, v, rfl, hv⟩ := hw
                  exact matches_any_cons.mpr
                    (ih h (fun hmem => hinner (List.mem_cons_of_mem _ hmem)) hv)
              | word b =>
                  obtain ⟨v, rfl, hv⟩ := hw
                  exact matches_any_cons.mpr
                    (ih h (fun hmem => hinner (List.mem_cons_of_mem _ hmem)) hv)
          | word b =>
              rw [covers, Bool.and_eq_true, decide_eq_true_iff] at h
              obtain ⟨rfl, h⟩ := h
              obtain ⟨v, rfl, hv⟩ := hw
              refine matches_word_cons.mpr ⟨rfl, ih h (fun hmem => ?_) hv⟩
              exact (List.mem_cons.mp (hrest (List.mem_cons_of_mem _ hmem))).resolve_left (by simp)

/-- **NARROWING**: words under a token of the pattern, as far as the pattern covers
    them, match what both the pattern and the words under `any` match. -/
theorem covers_and_matches_iff {t : Token α} (ht : t ≠ .rest) {v w : List α} :
    (covers (t :: p) (t :: v.map Token.word) = true ∧ Matches (t :: v.map Token.word) w)
      ↔ Matches (t :: p) w ∧ Matches (.any :: v.map Token.word) w := by
  cases w with
  | nil => simp
  | cons a w =>
      have hsame : Matches p v ∧ w = v ↔ Matches p w ∧ w = v :=
        and_congr_left fun heq => heq ▸ Iff.rfl
      cases t with
      | rest => exact absurd rfl ht
      | any =>
          rw [covers, covers_words, matches_any_cons, matches_any_cons, matches_words]
          exact hsame
      | word b =>
          rw [covers, Bool.and_eq_true, decide_eq_true_iff, covers_words, matches_word_cons,
            matches_word_cons, matches_any_cons, matches_words]
          constructor
          · rintro ⟨⟨-, hp⟩, hab, hw⟩
            exact ⟨⟨hab, (hsame.mp ⟨hp, hw⟩).1⟩, hw⟩
          · rintro ⟨⟨hab, hp⟩, hw⟩
            exact ⟨⟨rfl, (hsame.mpr ⟨hp, hw⟩).1⟩, hab, hw⟩

end Covering

end SubjectPattern
