import Mathlib.Algebra.Order.Group.Defs
import Mathlib.Data.List.Basic
import Mathlib.Tactic.Common

/-! # Spaced logs

    A log of times, oldest first, to which a time is added only while fewer than
    `n` times of the log lie in the window that ends at it.  No window of that
    width, wherever it is placed, then holds more than `n` times of the log
    (`Spaced.length_filter_le`), and dropping what has left the window before a
    time is added does not change what is seen later (`since_since_append`). -/

namespace SpacedLog

variable {τ : Type} [LinearOrder τ]

/-- The times of a log after a cutoff. -/
def since (cutoff : τ) (log : List τ) : List τ := log.dropWhile (· ≤ cutoff)

theorem since_suffix (cutoff : τ) (log : List τ) : since cutoff log <:+ log :=
  List.dropWhile_suffix _

theorem since_cons_of_le {cutoff t : τ} (h : t ≤ cutoff) (log : List τ) :
    since cutoff (t :: log) = since cutoff log := by
  rw [since, List.dropWhile_cons, if_pos (by simpa using h)]
  rfl

theorem since_cons_of_lt {cutoff t : τ} (h : cutoff < t) (log : List τ) :
    since cutoff (t :: log) = t :: log := by
  rw [since, List.dropWhile_cons, if_neg (by simpa using h)]

/-- What an earlier cutoff drops, a later one would drop too. -/
theorem since_since_append {cutoff later : τ} (h : cutoff ≤ later) (log more : List τ) :
    since later (since cutoff log ++ more) = since later (log ++ more) := by
  induction log with
  | nil => rfl
  | cons t rest ih =>
      rcases le_or_gt t cutoff with hle | hlt
      · rw [since_cons_of_le hle, List.cons_append, since_cons_of_le (hle.trans h)]
        exact ih
      · rw [since_cons_of_lt hlt]

theorem since_since {cutoff later : τ} (h : cutoff ≤ later) (log : List τ) :
    since later (since cutoff log) = since later log := by
  have happend := since_since_append h log []
  rwa [List.append_nil, List.append_nil] at happend

/-- In a log in order, what comes after the cutoff is all that is later than it. -/
theorem since_eq_filter {log : List τ} (hsorted : log.Pairwise (· ≤ ·)) (cutoff : τ) :
    since cutoff log = log.filter (cutoff < ·) := by
  induction log with
  | nil => rfl
  | cons t rest ih =>
      obtain ⟨hfirst, hrest⟩ := List.pairwise_cons.mp hsorted
      rcases le_or_gt t cutoff with hle | hlt
      · rw [since_cons_of_le hle, ih hrest, List.filter_cons_of_neg (by simpa using hle)]
      · have hall : ∀ s ∈ t :: rest, cutoff < s := by
          intro s hs
          rcases List.mem_cons.mp hs with rfl | hs
          · exact hlt
          · exact hlt.trans_le (hfirst s hs)
        rw [since_cons_of_lt hlt, List.filter_eq_self.mpr (by simpa using hall)]

/-- A cutoff at or after the first time drops it. -/
theorem length_since_cons_le {cutoff t : τ} (h : t ≤ cutoff) (log : List τ) :
    (since cutoff (t :: log)).length ≤ log.length := by
  rw [since_cons_of_le h]
  exact (since_suffix cutoff log).length_le

section Spaced

variable [AddCommGroup τ]

/-- **SPACED**: each time was added after the earlier ones, while fewer than `n` of
    them lay in the window that ends at it. -/
inductive Spaced (n : Nat) (window : τ) : List τ → Prop where
  | nil : Spaced n window []
  | concat {log : List τ} {now : τ} (front : Spaced n window log) (past : ∀ t ∈ log, t ≤ now)
      (room : (log.filter (now - window < ·)).length < n) : Spaced n window (log ++ [now])

variable {n : Nat} {window : τ} {log : List τ}

/-- A spaced log is in order. -/
theorem Spaced.pairwise (h : Spaced n window log) : log.Pairwise (· ≤ ·) := by
  induction h with
  | nil => exact List.Pairwise.nil
  | concat front past room ih =>
      refine List.pairwise_append.mpr ⟨ih, List.pairwise_singleton .., ?_⟩
      intro t ht s hs
      rw [List.mem_singleton.mp hs]
      exact past t ht

/-- **ANY WINDOW**: no set of times, each two of them closer than the window is
    wide, holds more than `n` times of the log. -/
theorem Spaced.length_filter_le (h : Spaced n window log) (p : τ → Bool)
    (hp : ∀ s t, p s = true → p t = true → s ≤ t → t - window < s) :
    (log.filter p).length ≤ n := by
  induction h with
  | nil => exact Nat.zero_le n
  | @concat log now front past room ih =>
      rw [List.filter_append, List.length_append]
      cases hnow : p now with
      | false =>
          rw [List.filter_cons_of_neg (by simp [hnow]), List.filter_nil, List.length_nil]
          exact ih
      | true =>
          -- the last time sees all the others of the set in its window
          have hseen : (log.filter p).length ≤ (log.filter (now - window < ·)).length := by
            rw [← List.countP_eq_length_filter, ← List.countP_eq_length_filter]
            refine List.countP_mono_left fun t ht hpt => ?_
            exact decide_eq_true (hp t now hpt hnow (past t ht))
          rw [List.filter_cons_of_pos hnow, List.filter_nil, List.length_singleton]
          omega

end Spaced

end SpacedLog
