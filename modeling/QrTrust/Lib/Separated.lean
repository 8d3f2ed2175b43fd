import Mathlib

/-! # Pieces joined by a separator

    A name that is made of pieces tells them apart again as long as no piece has
    the separator in it: at the first separator (`first_separator`), at the last
    one (`last_separator`), and all along (`joined_injective`,
    `joined_injective_of_length`). -/

namespace Separated

variable {α : Type} {x : α}

/-- Pieces with a separator between them. -/
def joined (x : α) (pieces : List (List α)) : List α := (pieces.intersperse [x]).flatten

@[simp] theorem joined_nil : joined x [] = [] := rfl

@[simp] theorem joined_singleton (p : List α) : joined x [p] = p := List.append_nil p

@[simp] theorem joined_cons_cons (p q : List α) (ps : List (List α)) :
    joined x (p :: q :: ps) = p ++ x :: joined x (q :: ps) := rfl

/-- The pieces up to the first separator are determined. -/
theorem first_separator {a a' b b' : List α} (ha : x ∉ a) (ha' : x ∉ a')
    (h : a ++ x :: b = a' ++ x :: b') : a = a' ∧ b = b' := by
  induction a generalizing a' with
  | nil =>
      cases a' with
      | nil => exact ⟨rfl, (List.cons.inj h).2⟩
      | cons c a' => exact absurd (List.cons.inj h).1 (List.ne_of_not_mem_cons ha')
  | cons c a ih =>
      cases a' with
      | nil => exact absurd (List.cons.inj h).1.symm (List.ne_of_not_mem_cons ha)
      | cons c' a' =>
          obtain ⟨rfl, htail⟩ := List.cons.inj h
          obtain ⟨rfl, hb⟩ := ih (List.not_mem_of_not_mem_cons ha)
            (List.not_mem_of_not_mem_cons ha') htail
          exact ⟨rfl, hb⟩

/-- The pieces from the last separator on are determined. -/
theorem last_separator {a a' b b' : List α} (hb : x ∉ b) (hb' : x ∉ b')
    (h : a ++ x :: b = a' ++ x :: b') : a = a' ∧ b = b' := by
  have hreversed := congrArg List.reverse h
  simp only [List.reverse_append, List.reverse_cons, List.append_assoc,
    List.singleton_append] at hreversed
  obtain ⟨hb, ha⟩ := first_separator (List.mem_reverse.not.mpr hb) (List.mem_reverse.not.mpr hb')
    hreversed
  exact ⟨List.reverse_inj.mp ha, List.reverse_inj.mp hb⟩

/-- A piece, and nothing but a piece, has no separator. -/
theorem joined_ne_piece {p q r : List α} {ps : List (List α)} (hp : x ∉ p) :
    p ≠ joined x (q :: r :: ps) := by
  intro h
  rw [joined_cons_cons] at h
  exact hp (h ▸ List.mem_append_right _ (List.mem_cons_self ..))

/-- **INJECTIVE**: joined pieces that are not empty and have no separator in them
    are determined by the result. -/
theorem joined_injective {ps qs : List (List α)} (hps : ∀ p ∈ ps, p ≠ [] ∧ x ∉ p)
    (hqs : ∀ q ∈ qs, q ≠ [] ∧ x ∉ q) (h : joined x ps = joined x qs) : ps = qs := by
  have hempty : ∀ {p : List α} {rs : List (List α)}, p ≠ [] → joined x (p :: rs) ≠ [] := by
    intro p rs hp hnil
    cases rs with
    | nil => exact hp ((joined_singleton p).symm.trans hnil)
    | cons r rs => exact List.append_ne_nil_of_right_ne_nil _ (List.cons_ne_nil _ _) hnil
  induction ps generalizing qs with
  | nil =>
      cases qs with
      | nil => rfl
      | cons q qs => exact absurd h.symm (hempty (hqs q (List.mem_cons_self ..)).1)
  | cons p ps ih =>
      obtain ⟨⟨hp, hxp⟩, hrest⟩ := List.forall_mem_cons.mp hps
      cases qs with
      | nil => exact absurd h (hempty hp)
      | cons q qs =>
          obtain ⟨⟨hq, hxq⟩, hrest'⟩ := List.forall_mem_cons.mp hqs
          cases ps with
          | nil =>
              cases qs with
              | nil =>
                  rw [joined_singleton, joined_singleton] at h
                  rw [h]
              | cons q' qs => exact absurd ((joined_singleton p).symm.trans h) (joined_ne_piece hxp)
          | cons p' ps =>
              cases qs with
              | nil =>
                  exact absurd ((joined_singleton q).symm.trans h.symm) (joined_ne_piece hxq)
              | cons q' qs =>
                  rw [joined_cons_cons, joined_cons_cons] at h
                  obtain ⟨rfl, htail⟩ := first_separator hxp hxq h
                  rw [ih hrest hrest' htail]

/-- The separators of a result are those between the pieces and those in them. -/
theorem count_joined [DecidableEq α] (p : List α) (ps : List (List α)) :
    (joined x (p :: ps)).count x = ps.length + ((p :: ps).map (List.count x)).sum := by
  induction ps generalizing p with
  | nil => simp
  | cons q qs ih =>
      rw [joined_cons_cons, List.count_append, List.count_cons_self, ih q]
      simp only [List.length_cons, List.map_cons, List.sum_cons]
      omega

/-- **DETERMINED**: pieces without a separator in them, empty or not, are the only
    ones of their number with that result. -/
theorem joined_injective_of_length [DecidableEq α] {ps qs : List (List α)}
    (hlength : ps.length = qs.length) (hqs : ∀ q ∈ qs, x ∉ q) (h : joined x ps = joined x qs) :
    ps = qs := by
  -- the separators are used up between the pieces, so no piece has one
  have hps : ∀ p ∈ ps, x ∉ p := by
    cases ps with
    | nil => exact fun p hp => absurd hp List.not_mem_nil
    | cons p ps =>
        cases qs with
        | nil => exact absurd hlength (Nat.succ_ne_zero _)
        | cons q qs =>
            have hcount := congrArg (List.count x) h
            rw [count_joined, count_joined, Nat.succ.inj hlength] at hcount
            have hzero : ((q :: qs).map (List.count x)).sum = 0 := by
              rw [List.sum_eq_zero_iff_forall_eq_nat]
              intro n hn
              obtain ⟨r, hr, rfl⟩ := List.mem_map.mp hn
              exact List.count_eq_zero.mpr (hqs r hr)
            have hsum : ((p :: ps).map (List.count x)).sum = 0 := by omega
            intro r hr
            exact List.count_eq_zero.mp
              (List.sum_eq_zero_iff_forall_eq_nat.mp hsum _ (List.mem_map_of_mem hr))
  induction ps generalizing qs with
  | nil => exact (List.length_eq_zero_iff.mp hlength.symm).symm
  | cons p ps ih =>
      cases qs with
      | nil => exact absurd hlength (Nat.succ_ne_zero _)
      | cons q qs =>
          obtain ⟨hp, hps'⟩ := List.forall_mem_cons.mp hps
          obtain ⟨hq, hqs'⟩ := List.forall_mem_cons.mp hqs
          have hrest : ps.length = qs.length := Nat.succ.inj hlength
          cases ps with
          | nil =>
              obtain rfl := List.length_eq_zero_iff.mp hrest.symm
              rw [joined_singleton, joined_singleton] at h
              rw [h]
          | cons p' ps =>
              cases qs with
              | nil => exact absurd hrest (Nat.succ_ne_zero _)
              | cons q' qs =>
                  rw [joined_cons_cons, joined_cons_cons] at h
                  obtain ⟨rfl, htail⟩ := first_separator hp hq h
                  rw [ih hrest hqs' htail hps']

end Separated
