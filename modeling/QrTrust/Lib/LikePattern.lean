import Mathlib.Data.List.Infix

/-! # SQL patterns

    `text like pattern` with the default escape.  Where the pattern is a percent
    sign before a text of its own characters only, it is a suffix test
    (`like_percent_plain`). -/

namespace LikePattern

/-- Does the text match the pattern?  A percent sign stands for any text, an
    underscore for any character, and a backslash takes the next character as it
    is.  A backslash at the very end, which a server refuses, matches nothing. -/
def like : List Char → List Char → Bool
  | [], text => text.isEmpty
  | c :: pattern, text =>
      if c = '%' then text.tails.any fun rest => like pattern rest
      else if c = '_' then text ≠ [] && like pattern text.tail
      else if c = '\\' then
        match pattern with
        | [] => false
        | escaped :: pattern => text.head? = some escaped && like pattern text.tail
      else text.head? = some c && like pattern text.tail

/-- **PLAIN**: no character of the pattern means anything but itself. -/
def Plain (pattern : List Char) : Prop := ∀ c ∈ pattern, c ∉ ['%', '_', '\\']

theorem Plain.tail {c : Char} {pattern : List Char} (h : Plain (c :: pattern)) : Plain pattern :=
  fun d hd => h d (List.mem_cons_of_mem _ hd)

theorem head?_eq_some_iff_cons {c : Char} {text : List Char} :
    text.head? = some c ↔ text = c :: text.tail := by
  cases text with
  | nil =>
      constructor
      · intro h; cases h
      · intro h; cases h
  | cons d rest =>
      show some d = some c ↔ d :: rest = c :: rest
      rw [Option.some.injEq, List.cons.injEq, and_iff_left rfl]

/-- A plain pattern matches itself and nothing else. -/
theorem like_plain {pattern text : List Char} (hplain : Plain pattern) :
    like pattern text = true ↔ text = pattern := by
  induction pattern generalizing text with
  | nil =>
      rw [like, List.isEmpty_iff]
  | cons c pattern ih =>
      have hc := hplain c (List.mem_cons_self ..)
      simp only [List.mem_cons, List.not_mem_nil, or_false, not_or] at hc
      obtain ⟨hpercent, hunderscore, hbackslash⟩ := hc
      rw [like.eq_def]
      simp only [if_neg hpercent, if_neg hunderscore, if_neg hbackslash, Bool.and_eq_true,
        decide_eq_true_eq, ih hplain.tail, head?_eq_some_iff_cons]
      constructor
      · rintro ⟨htext, htail⟩
        rw [htext, htail]
      · rintro rfl
        exact ⟨rfl, rfl⟩

/-- A percent sign before a plain pattern is a suffix test. -/
theorem like_percent_plain {pattern text : List Char} (hplain : Plain pattern) :
    like ('%' :: pattern) text = true ↔ pattern <:+ text := by
  rw [like.eq_def]
  simp only [if_true, List.any_eq_true]
  constructor
  · rintro ⟨rest, hrest, hlike⟩
    obtain rfl := (like_plain hplain).mp hlike
    exact (List.mem_tails ..).mp hrest
  · intro hsuffix
    exact ⟨pattern, (List.mem_tails ..).mpr hsuffix, (like_plain hplain).mpr rfl⟩

end LikePattern
