import QrTrust.Lib.KeyedSort
import Mathlib.Data.List.Nodup

/-! # The head of a sorted list

    Candidates are sorted by a count, the greatest first, and the list is cut.
    A list in which every entry is ahead of those behind it says so by its
    positions: an entry is among the first `n` exactly where fewer than `n` are
    ahead of it (`mem_take_iff`).  A stable sort by a count puts an entry ahead by
    its count, and ahead of those with the same count as before
    (`pairwise_sortDesc`). -/

namespace SortedCut

variable {α : Type} {ahead : α → α → Prop}

/-- Nothing is ahead of what is ahead of it. -/
def Asymm (ahead : α → α → Prop) : Prop := ∀ a b, ahead a b → ¬ ahead b a

theorem Asymm.irrefl (h : Asymm ahead) (a : α) : ¬ ahead a a := fun haa => h a a haa haa

theorem Asymm.nodup (h : Asymm ahead) {l : List α} (hl : l.Pairwise ahead) : l.Nodup := by
  refine hl.imp fun {a b} hab => ?_
  rintro rfl
  exact h.irrefl a hab

section Cut

variable [DecidableEq α] [DecidableRel ahead]

/-- **POSITION**: an entry stands behind those ahead of it. -/
theorem idxOf_eq_countP (h : Asymm ahead) {l : List α} (hl : l.Pairwise ahead) {a : α}
    (ha : a ∈ l) : l.idxOf a = l.countP fun b => ahead b a := by
  induction l with
  | nil => cases ha
  | cons hd rest ih =>
      obtain ⟨hhd, hrest⟩ := List.pairwise_cons.mp hl
      rcases List.mem_cons.mp ha with rfl | hmem
      · rw [List.idxOf_cons_self, eq_comm, List.countP_eq_zero]
        intro b hb hahead
        rcases List.mem_cons.mp hb with rfl | hb
        · exact h.irrefl b (of_decide_eq_true hahead)
        · exact h a b (hhd b hb) (of_decide_eq_true hahead)
      · have hne : hd ≠ a := by
          rintro rfl
          exact h.irrefl hd (hhd hd hmem)
        rw [List.idxOf_cons_ne _ hne, List.countP_cons_of_pos (by simpa using hhd a hmem),
          ih hrest hmem]

/-- **CUT**: the first `n` are those with fewer than `n` ahead of them. -/
theorem mem_take_iff (h : Asymm ahead) {l : List α} (hl : l.Pairwise ahead) {a : α} {n : Nat} :
    a ∈ l.take n ↔ a ∈ l ∧ (l.countP fun b => ahead b a) < n := by
  constructor
  · intro htake
    have ha := List.mem_of_mem_take htake
    rw [List.mem_take_iff_idxOf_lt ha, idxOf_eq_countP h hl ha] at htake
    exact ⟨ha, htake⟩
  · rintro ⟨ha, hcount⟩
    rw [List.mem_take_iff_idxOf_lt ha, idxOf_eq_countP h hl ha]
    exact hcount

theorem take_perm_filter (h : Asymm ahead) {l : List α} (hl : l.Pairwise ahead) (n : Nat) :
    (l.take n).Perm (l.filter fun a => (l.countP fun b => ahead b a) < n) := by
  have hnodup := h.nodup hl
  refine (List.perm_ext_iff_of_nodup (hnodup.sublist (List.take_sublist n l))
    (hnodup.filter _)).mpr fun a => ?_
  rw [mem_take_iff h hl, List.mem_filter, decide_eq_true_iff]

end Cut

/-! ## Sorting -/

/-- Ahead by the count, or by the order of before where the counts are the same. -/
def Ahead (count : α → Nat) (ahead : α → α → Prop) (a b : α) : Prop :=
  count b < count a ∨ count a = count b ∧ ahead a b

instance {count : α → Nat} [DecidableRel ahead] : DecidableRel (Ahead count ahead) :=
  fun a b => inferInstanceAs (Decidable (count b < count a ∨ count a = count b ∧ ahead a b))

theorem Asymm.byCount (h : Asymm ahead) (count : α → Nat) : Asymm (Ahead count ahead) := by
  rintro a b (hlt | ⟨heq, hab⟩) (hlt' | ⟨heq', hba⟩)
  · omega
  · omega
  · omega
  · exact h a b hab hba

/-- The greatest count first. -/
def sortDesc (count : α → Nat) (l : List α) : List α :=
  l.insertionSort fun a b => count b ≤ count a

theorem sortDesc_perm (count : α → Nat) (l : List α) : (sortDesc count l).Perm l :=
  List.perm_insertionSort ..

theorem map_sortDesc {β : Type} {count : β → Nat} (f : α → β) (l : List α) :
    (sortDesc (fun a => count (f a)) l).map f = sortDesc count (l.map f) :=
  List.map_insertionSort _ _ f l fun _ _ _ _ => Iff.rfl

/-- **STABLE**: sorting a list by a count puts an entry ahead by its count, or where
    the counts are the same by its place in the list. -/
theorem pairwise_sortDesc (h : Asymm ahead) (count : α → Nat) {l : List α}
    (hl : l.Pairwise ahead) : (sortDesc count l).Pairwise (Ahead count ahead) := by
  have : Std.Total fun a b : α => count b ≤ count a := ⟨fun a b => le_total (count b) (count a)⟩
  have : IsTrans α fun a b => count b ≤ count a := ⟨fun _ _ _ hxy hyz => hyz.trans hxy⟩
  have hnodup : (sortDesc count l).Nodup := (sortDesc_perm count l).nodup_iff.mpr (h.nodup hl)
  have hsorted := List.pairwise_insertionSort (fun a b : α => count b ≤ count a) l
  refine List.pairwise_iff_forall_sublist.mpr fun {a b} hab => ?_
  have hle : count b ≤ count a := List.pairwise_iff_forall_sublist.mp hsorted hab
  rcases hle.lt_or_eq with hlt | heq
  · exact .inl hlt
  refine .inr ⟨heq.symm, ?_⟩
  -- of two with the same count the first one stays the first
  have hmem : ∀ x ∈ [a, b], x ∈ l := fun x hx =>
    (sortDesc_perm count l).mem_iff.mp (hab.subset hx)
  rcases KeyedSort.sublist_or_sublist (hmem a (by simp)) (hmem b (by simp))
    (KeyedSort.ne_of_sublist hnodup hab) with hl' | hl'
  · exact List.pairwise_iff_forall_sublist.mp hl hl'
  · have hba := List.pair_sublist_insertionSort (r := fun a b : α => count b ≤ count a)
      heq.ge hl'
    exact absurd hba (KeyedSort.not_sublist_of_sublist hnodup hab)

/-- A list without repetitions is in the order of its positions. -/
theorem pairwise_idxOf [DecidableEq α] {l : List α} (h : l.Nodup) :
    l.Pairwise fun a b => l.idxOf a < l.idxOf b := by
  induction l with
  | nil => exact .nil
  | cons hd rest ih =>
      obtain ⟨hfresh, hrest⟩ := List.nodup_cons.mp h
      have hshift : ∀ b ∈ rest, (hd :: rest).idxOf b = rest.idxOf b + 1 := by
        intro b hb
        refine List.idxOf_cons_ne _ ?_
        rintro rfl
        exact hfresh hb
      refine List.pairwise_cons.mpr
        ⟨fun b hb => ?_, (ih hrest).imp_of_mem fun {a b} ha hb hab => ?_⟩
      · rw [List.idxOf_cons_self, hshift b hb]
        exact Nat.succ_pos _
      · rw [hshift a ha, hshift b hb]
        exact Nat.succ_lt_succ hab

end SortedCut
