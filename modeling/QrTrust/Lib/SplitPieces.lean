import QrTrust.Lib.Separated
import Mathlib.Data.List.DropRight

/-! # Splitting into pieces

    Splitting at a separator undoes joining, and joining undoes splitting.  On
    pieces without a separator in them, trailing separators are trailing empty
    pieces (`rdropWhile_joined`), and a prefix that ends at a separator is a
    prefix of the pieces (`joined_prefix_iff`). -/

namespace Separated

variable {α : Type} {x : α} {ps qs : List (List α)}

theorem joined_cons (p : List α) (h : ps ≠ []) : joined x (p :: ps) = p ++ x :: joined x ps := by
  obtain ⟨q, qs, rfl⟩ := List.exists_cons_of_ne_nil h
  exact joined_cons_cons p q qs

theorem joined_append (hps : ps ≠ []) (hqs : qs ≠ []) :
    joined x (ps ++ qs) = joined x ps ++ x :: joined x qs := by
  induction ps with
  | nil => exact absurd rfl hps
  | cons p ps ih =>
      cases ps with
      | nil =>
          rw [joined_singleton]
          exact joined_cons p hqs
      | cons q ps =>
          show p ++ x :: joined x (q :: ps ++ qs) = p ++ x :: joined x (q :: ps) ++ x :: joined x qs
          rw [ih (List.cons_ne_nil _ _), List.append_assoc]
          rfl

theorem mem_joined {c : α} (h : c ∈ joined x ps) : c = x ∨ ∃ p ∈ ps, c ∈ p := by
  induction ps with
  | nil => exact absurd h List.not_mem_nil
  | cons p ps ih =>
      by_cases hps : ps = []
      · rw [hps, joined_singleton] at h
        exact .inr ⟨p, List.mem_cons_self .., h⟩
      · rw [joined_cons p hps, List.mem_append, List.mem_cons] at h
        rcases h with h | rfl | h
        · exact .inr ⟨p, List.mem_cons_self .., h⟩
        · exact .inl rfl
        · exact (ih h).imp_right fun ⟨q, hq, hc⟩ => ⟨q, List.mem_cons_of_mem _ hq, hc⟩

theorem mem_joined_of_mem {c : α} {p : List α} (hp : p ∈ ps) (hc : c ∈ p) : c ∈ joined x ps := by
  induction ps with
  | nil => exact absurd hp List.not_mem_nil
  | cons q ps ih =>
      by_cases hps : ps = []
      · rw [hps, List.mem_singleton] at hp
        rwa [hps, joined_singleton, ← hp]
      · rw [joined_cons q hps, List.mem_append, List.mem_cons]
        rcases List.mem_cons.mp hp with rfl | hp
        · exact .inl hc
        · exact .inr (.inr (ih hp))

theorem head?_joined {p : List α} (hp : p ≠ []) : (joined x (p :: ps)).head? = p.head? := by
  by_cases hps : ps = []
  · rw [hps, joined_singleton]
  · rw [joined_cons p hps, List.head?_append_of_ne_nil _ hp]

theorem getLast?_joined {p : List α} (hp : p ≠ []) :
    (joined x (ps ++ [p])).getLast? = p.getLast? := by
  by_cases hps : ps = []
  · rw [hps, List.nil_append, joined_singleton]
  · rw [joined_append hps (List.cons_ne_nil _ _), joined_singleton, List.getLast?_append,
      List.getLast?_cons]
    obtain ⟨front, last, rfl⟩ := (List.eq_nil_or_concat p).resolve_left hp
    simp

/-! ## Splitting -/

/-- A piece of a split has what was split in it, and no separator. -/
theorem of_mem_splitOnP {p : α → Bool} {l piece : List α} {c : α} (hpiece : piece ∈ l.splitOnP p)
    (hc : c ∈ piece) : c ∈ l ∧ p c = false := by
  induction l generalizing piece with
  | nil =>
      rw [List.splitOnP_nil, List.mem_singleton] at hpiece
      exact absurd (hpiece ▸ hc) List.not_mem_nil
  | cons d l ih =>
      rw [List.splitOnP_cons_eq_if_modifyHead] at hpiece
      split at hpiece
      · rcases List.mem_cons.mp hpiece with rfl | hpiece
        · exact absurd hc List.not_mem_nil
        · exact (ih hpiece hc).imp_left (List.mem_cons_of_mem _)
      · rename_i hd
        obtain ⟨first, more, hsplit⟩ := List.exists_cons_of_ne_nil (List.splitOnP_ne_nil p l)
        rw [hsplit, List.modifyHead_cons] at hpiece
        rcases List.mem_cons.mp hpiece with rfl | hpiece
        · rcases List.mem_cons.mp hc with rfl | hc
          · exact ⟨List.mem_cons_self .., Bool.eq_false_iff.mpr hd⟩
          · exact (ih (hsplit ▸ List.mem_cons_self ..) hc).imp_left (List.mem_cons_of_mem _)
        · exact (ih (hsplit ▸ List.mem_cons_of_mem _ hpiece) hc).imp_left (List.mem_cons_of_mem _)

theorem splitOnP_congr {p q : α → Bool} {l : List α} (h : ∀ c ∈ l, p c = q c) :
    l.splitOnP p = l.splitOnP q := by
  induction l with
  | nil => rfl
  | cons c l ih =>
      rw [List.splitOnP_cons_eq_if_modifyHead, List.splitOnP_cons_eq_if_modifyHead,
        h c (List.mem_cons_self ..), ih fun d hd => h d (List.mem_cons_of_mem _ hd)]

variable [DecidableEq α]

theorem joined_splitOn (x : α) (l : List α) : joined x (l.splitOn x) = l :=
  List.intercalate_splitOn x

theorem splitOn_joined (h : ∀ p ∈ ps, x ∉ p) (hne : ps ≠ []) : (joined x ps).splitOn x = ps :=
  List.splitOn_intercalate x h hne

theorem splitOn_cons_self (l : List α) : (x :: l).splitOn x = [] :: l.splitOn x := by
  rw [List.splitOn_cons_eq_if_modifyHead, if_pos (beq_self_eq_true x)]

/-- A piece of a split has no separator in it. -/
theorem not_mem_of_mem_splitOn {l p : List α} (h : p ∈ l.splitOn x) : x ∉ p := by
  intro hx
  rw [List.splitOn_eq_splitOnP] at h
  exact absurd (of_mem_splitOnP h hx).2 (by simp)

/-- Splitting what was joined splits the pieces. -/
theorem splitOn_joined_eq_flatMap (hne : ps ≠ []) :
    (joined x ps).splitOn x = ps.flatMap (List.splitOn x) := by
  induction ps with
  | nil => exact absurd rfl hne
  | cons p ps ih =>
      by_cases hps : ps = []
      · rw [hps, joined_singleton, List.flatMap_singleton]
      · rw [joined_cons p hps, List.splitOn_append_cons_self, ih hps, List.flatMap_cons]

/-- Trailing separators are trailing empty pieces. -/
theorem rdropWhile_joined (h : ∀ p ∈ ps, x ∉ p) :
    (joined x ps).rdropWhile (· = x) = joined x (ps.rdropWhile (· = [])) := by
  induction ps using List.reverseRecOn with
  | nil => rfl
  | append_singleton ps p ih =>
      have hps : ∀ q ∈ ps, x ∉ q := fun q hq => h q (List.mem_append_left _ hq)
      have hp : x ∉ p := h p (List.mem_append_right _ (List.mem_singleton_self _))
      rcases List.eq_nil_or_concat p with rfl | ⟨front, last, rfl⟩
      · -- an empty piece goes, and with it the separator before it
        rw [List.rdropWhile_concat_pos _ _ _ (by simp), ← ih hps]
        by_cases hne : ps = []
        · subst hne
          rfl
        · rw [joined_append hne (List.cons_ne_nil _ _), joined_singleton,
            List.rdropWhile_concat_pos _ _ _ (by simp)]
      · -- a piece that is not empty ends in no separator
        rw [List.concat_eq_append] at hp ⊢
        have hlast : last ≠ x := fun heq =>
          hp (List.mem_append_right _ (heq ▸ List.mem_singleton_self _))
        rw [List.rdropWhile_concat_neg _ _ _ (by simp)]
        by_cases hne : ps = []
        · subst hne
          rw [List.nil_append, joined_singleton, List.rdropWhile_concat_neg _ _ _ (by simpa)]
        · rw [joined_append hne (List.cons_ne_nil _ _), joined_singleton, ← List.cons_append,
            ← List.append_assoc, List.rdropWhile_concat_neg _ _ _ (by simpa)]

/-- **PREFIXES**: a prefix that ends at a separator, or is all, is a prefix of the
    pieces. -/
theorem joined_prefix_iff (hps : ∀ p ∈ ps, x ∉ p) (hqs : ∀ q ∈ qs, x ∉ q) (hps' : ps ≠ [])
    (hqs' : qs ≠ []) :
    joined x qs = joined x ps ∨ joined x ps ++ [x] <+: joined x qs ↔ ps <+: qs := by
  constructor
  · rintro (heq | ⟨tail, htail⟩)
    · have hsame : ps = qs := by
        rw [← splitOn_joined hps hps', ← heq, splitOn_joined hqs hqs']
      exact hsame ▸ List.prefix_rfl
    · rw [List.append_assoc, List.singleton_append] at htail
      refine ⟨tail.splitOn x, ?_⟩
      rw [← splitOn_joined hqs hqs', ← htail, List.splitOn_append_cons_self,
        splitOn_joined hps hps']
  · rintro ⟨more, rfl⟩
    by_cases hmore : more = []
    · left
      rw [hmore, List.append_nil]
    · right
      refine ⟨joined x more, ?_⟩
      rw [joined_append hps' hmore, List.append_assoc]
      rfl

end Separated
