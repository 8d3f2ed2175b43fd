import Mathlib.Data.List.Sort

/-! # Sorting entries by key

    A comparison of keys leaves no choice where it ranks the keys: entries whose
    keys it tells apart have one sorted list, whatever order they come in
    (`StrictWeak.sortByKey_eq_of_perm`).  A strict total order tells all distinct
    keys apart (`StrictTotal.sortByKey_eq_of_perm`).  Entries whose keys it ranks
    equal keep their order, so two orders of the same entries sort to one list
    exactly when they have the tied entries in one order
    (`StrictWeak.filter_sortByKey_eq_iff`).  A fold that keeps the better of two
    ends with an entry that nothing in the list is better than
    (`StrictWeak.best_spec`). -/

namespace KeyedSort

variable {κ ν α : Type}

/-- A strict total order, as the answers of a comparison function. -/
structure StrictTotal (less : κ → κ → Bool) : Prop where
  irrefl : ∀ a, less a a = false
  trans : ∀ {a b c}, less a b = true → less b c = true → less a c = true
  total : ∀ {a b}, a ≠ b → less a b = true ∨ less b a = true

/-- The entries in the order of their keys, by insertion. -/
def sortByKey (less : κ → κ → Bool) (entries : List (κ × ν)) : List (κ × ν) :=
  entries.insertionSort fun a b => less b.1 a.1 = false

variable {less : κ → κ → Bool}

theorem perm_sortByKey (entries : List (κ × ν)) : (sortByKey less entries).Perm entries :=
  List.perm_insertionSort ..

/-- Not above is the reflexive closure of below. -/
theorem StrictTotal.not_less_iff (h : StrictTotal less) {a b : κ} :
    less b a = false ↔ a = b ∨ less a b = true := by
  constructor
  · intro hba
    by_cases heq : a = b
    · exact .inl heq
    · rcases h.total heq with hab | hba'
      · exact .inr hab
      · rw [hba] at hba'
        cases hba'
  · rintro (rfl | hab)
    · exact h.irrefl a
    · -- both directions at once would make `a` smaller than itself
      cases hba : less b a with
      | false => rfl
      | true =>
          have haa := h.trans hab hba
          rw [h.irrefl] at haa
          cases haa

/-- The comparison of a linear order. -/
theorem strictTotal_lt [LinearOrder κ] [DecidableRel fun a b : κ => a < b] :
    StrictTotal fun a b : κ => decide (a < b) where
  irrefl a := decide_eq_false (lt_irrefl a)
  trans hab hbc := decide_eq_true (lt_trans (of_decide_eq_true hab) (of_decide_eq_true hbc))
  total hne := (lt_or_gt_of_ne hne).imp decide_eq_true decide_eq_true

/-! ## Comparisons that may tie -/

/-- A strict weak order: a comparison that may tie keys, but ranks the ties. -/
structure StrictWeak (less : κ → κ → Bool) : Prop where
  asymm : ∀ {a b}, less a b = true → less b a = false
  not_above_trans : ∀ {a b c}, less b a = false → less c b = false → less c a = false

/-- A strict total order ties no keys. -/
theorem StrictTotal.weak (h : StrictTotal less) : StrictWeak less where
  asymm hab := h.not_less_iff.mpr (.inr hab)
  not_above_trans hab hbc := by
    rcases h.not_less_iff.mp hab with hab | hab
    · rw [hab]
      exact hbc
    · rcases h.not_less_iff.mp hbc with hbc | hbc
      · exact h.not_less_iff.mpr (.inr (hbc ▸ hab))
      · exact h.not_less_iff.mpr (.inr (h.trans hab hbc))

theorem StrictWeak.irrefl (h : StrictWeak less) (a : κ) : less a a = false := by
  cases haa : less a a with
  | false => rfl
  | true =>
      rw [h.asymm haa] at haa
      cases haa

theorem StrictWeak.pairwise_sortByKey (h : StrictWeak less) (entries : List (κ × ν)) :
    (sortByKey less entries).Pairwise fun a b => less b.1 a.1 = false := by
  have htotal : Std.Total fun a b : κ × ν => less b.1 a.1 = false := by
    refine ⟨fun a b => ?_⟩
    cases hba : less b.1 a.1 with
    | false => exact .inl rfl
    | true => exact .inr (h.asymm hba)
  have htrans : IsTrans (κ × ν) fun a b => less b.1 a.1 = false :=
    ⟨fun _ _ _ hab hbc => h.not_above_trans hab hbc⟩
  exact List.pairwise_insertionSort _ entries

/-- **ONE ORDER**: entries that are all told apart sort to the same list. -/
theorem StrictWeak.sortByKey_eq_of_perm (h : StrictWeak less) {left right : List (κ × ν)}
    (hapart : ∀ a ∈ left, ∀ b ∈ left, less a.1 b.1 = false → less b.1 a.1 = false → a = b)
    (hperm : left.Perm right) : sortByKey less left = sortByKey less right := by
  refine List.Perm.eq_of_pairwise (fun a b ha hb hab hba => ?_)
    (h.pairwise_sortByKey left) (h.pairwise_sortByKey right)
    ((perm_sortByKey left).trans (hperm.trans (perm_sortByKey right).symm))
  have hmemA : a ∈ left := (perm_sortByKey left).mem_iff.mp ha
  have hmemB : b ∈ left := hperm.mem_iff.mpr ((perm_sortByKey right).mem_iff.mp hb)
  exact hapart a hmemA b hmemB hba hab

/-- A strict total order gives the same entries with distinct keys one list. -/
theorem StrictTotal.sortByKey_eq_of_perm (h : StrictTotal less) {left right : List (κ × ν)}
    (hnodup : (left.map Prod.fst).Nodup) (hperm : left.Perm right) :
    sortByKey less left = sortByKey less right := by
  refine h.weak.sortByKey_eq_of_perm (fun a ha b hb hab hba => ?_) hperm
  -- neither key is above the other, so the keys are one, and with them the entries
  have hkey : a.1 = b.1 := by
    rcases h.not_less_iff.mp hba with heq | hlt
    · exact heq
    · rw [hab] at hlt
      cases hlt
  exact List.inj_on_of_nodup_map hnodup ha hb hkey

/-! ## Which of two entries comes first -/

/-- In a list without repetitions, one of two entries comes first. -/
theorem not_sublist_of_sublist {l : List α} (h : l.Nodup) {x y : α} (hxy : [x, y].Sublist l) :
    ¬ [y, x].Sublist l := by
  induction l with
  | nil =>
      intro _
      cases hxy
  | cons a l ih =>
      obtain ⟨ha, hl⟩ := List.nodup_cons.mp h
      intro hyx
      cases hxy with
      | cons _ hxy =>
          cases hyx with
          | cons _ hyx => exact ih hl hxy hyx
          | cons_cons _ hyx => exact ha (hxy.subset (List.mem_cons_of_mem _ (List.mem_cons_self ..)))
      | cons_cons _ hxy =>
          cases hyx with
          | cons _ hyx => exact ha (hyx.subset (List.mem_cons_of_mem _ (List.mem_cons_self ..)))
          | cons_cons _ hyx => exact ha (hxy.subset (List.mem_cons_self ..))

/-- Of two entries of a list, one stands before the other. -/
theorem sublist_or_sublist {l : List α} {x y : α} (hx : x ∈ l) (hy : y ∈ l) (hne : x ≠ y) :
    [x, y].Sublist l ∨ [y, x].Sublist l := by
  induction l with
  | nil => cases hx
  | cons a l ih =>
      rcases List.mem_cons.mp hx with rfl | hx'
      · rcases List.mem_cons.mp hy with rfl | hy'
        · exact absurd rfl hne
        · exact .inl ((List.singleton_sublist.mpr hy').cons_cons _)
      · rcases List.mem_cons.mp hy with rfl | hy'
        · exact .inr ((List.singleton_sublist.mpr hx').cons_cons _)
        · exact (ih hx' hy').imp (·.cons _) (·.cons _)

/-- The two entries of a list without repetitions that come in an order are two. -/
theorem ne_of_sublist {l : List α} (h : l.Nodup) {x y : α} (hxy : [x, y].Sublist l) : x ≠ y := by
  have hpair := h.sublist hxy
  rintro rfl
  simp at hpair

/-! ## Ties -/

/-- Entries that are not ranked the other way keep their order. -/
theorem sublist_sortByKey {l : List (κ × ν)} {x y : κ × ν} (hless : less y.1 x.1 = false)
    (h : [x, y].Sublist l) : [x, y].Sublist (sortByKey less l) :=
  List.pair_sublist_insertionSort hless h

/-- **STABLE**: sorted tied entries come in the order they came in. -/
theorem sublist_of_sublist_sortByKey {l : List (κ × ν)} (hnodup : l.Nodup) {x y : κ × ν}
    (hless : less x.1 y.1 = false) (h : [x, y].Sublist (sortByKey less l)) : [x, y].Sublist l := by
  have hsorted : (sortByKey less l).Nodup := (perm_sortByKey l).nodup_iff.mpr hnodup
  have hmem : ∀ z ∈ [x, y], z ∈ l := fun z hz => (perm_sortByKey l).mem_iff.mp (h.subset hz)
  rcases sublist_or_sublist (hmem x (by simp)) (hmem y (by simp)) (ne_of_sublist hsorted h)
    with hxy | hyx
  · exact hxy
  · exact absurd (sublist_sortByKey hless hyx) (not_sublist_of_sublist hsorted h)

/-- The tied entries among those that satisfy `p` come in the order of `right`. -/
def TiesAs (less : κ → κ → Bool) (p : κ × ν → Bool) (left right : List (κ × ν)) : Prop :=
  ∀ x y, p x = true → p y = true → less x.1 y.1 = false → less y.1 x.1 = false →
    [x, y].Sublist left → [x, y].Sublist right

/-- What a sorted list says of two entries, and of two that are tied. -/
theorem StrictWeak.pairwise_filter_sortByKey (h : StrictWeak less) {p : κ × ν → Bool}
    {left right : List (κ × ν)} (hnodup : left.Nodup) (hties : TiesAs less p left right) :
    ((sortByKey less left).filter p).Pairwise fun x y =>
      less y.1 x.1 = false ∧ (less x.1 y.1 = false → [x, y].Sublist right) := by
  refine List.pairwise_iff_forall_sublist.mpr fun {x y} hxy => ?_
  have hsorted : [x, y].Sublist (sortByKey less left) := hxy.trans List.filter_sublist
  have hp : ∀ z ∈ [x, y], p z = true := fun z hz => (List.mem_filter.mp (hxy.subset hz)).2
  have hyx := List.pairwise_iff_forall_sublist.mp (h.pairwise_sortByKey left) hsorted
  refine ⟨hyx, fun hxy' => ?_⟩
  exact hties x y (hp x (by simp)) (hp y (by simp)) hxy' hyx
    (sublist_of_sublist_sortByKey hnodup hxy' hsorted)

/-- **TIES DECIDE**: two orders of the same entries sort to one list, as far as
    `p` looks at it, when the tied entries come in one order, and only then. -/
theorem StrictWeak.filter_sortByKey_eq_iff (h : StrictWeak less) {left right : List (κ × ν)}
    (hnodup : left.Nodup) (hperm : left.Perm right) (p : κ × ν → Bool) :
    (sortByKey less left).filter p = (sortByKey less right).filter p
      ↔ TiesAs less p left right := by
  have hnodup' : right.Nodup := hperm.nodup_iff.mp hnodup
  constructor
  · intro heq x y hpx hpy hxy hyx hleft
    have hsorted : [x, y].Sublist (sortByKey less right) := by
      have hfiltered := (sublist_sortByKey hyx hleft).filter p
      rw [heq, List.filter_cons_of_pos hpx, List.filter_cons_of_pos hpy] at hfiltered
      exact hfiltered.trans List.filter_sublist
    exact sublist_of_sublist_sortByKey hnodup' hxy hsorted
  · intro hties
    have hright : TiesAs less p right right := fun _ _ _ _ _ _ hsub => hsub
    refine List.Perm.eq_of_pairwise (fun x y _ _ hxy hyx => ?_)
      (h.pairwise_filter_sortByKey hnodup hties) (h.pairwise_filter_sortByKey hnodup' hright)
      (((perm_sortByKey left).trans (hperm.trans (perm_sortByKey right).symm)).filter p)
    -- entries that are each before the other would be tied and come in both orders
    exact absurd (hyx.2 hxy.1) (not_sublist_of_sublist hnodup' (hxy.2 hyx.1))

/-! ## The best of a list -/

/-- The entry that is left of a list when the better of two is kept, from the
    first on; of two that rank equal the earlier one. -/
def best (better : α → α → Bool) (first : α) (rest : List α) : α :=
  rest.foldl (fun kept next => if better next kept then next else kept) first

/-- A listed entry that no listed entry is better than. -/
def IsBest (better : α → α → Bool) (entries : List α) (a : α) : Prop :=
  a ∈ entries ∧ ∀ b ∈ entries, better b a = false

variable {better : α → α → Bool}

/-- The comparison the other way round. -/
theorem StrictWeak.flip (h : StrictWeak better) : StrictWeak fun a b => better b a where
  asymm hab := h.asymm hab
  not_above_trans hab hbc := h.not_above_trans hbc hab

/-- **BEST**: nothing in the list is better than what is left. -/
theorem StrictWeak.best_spec (h : StrictWeak better) (first : α) (rest : List α) :
    IsBest better (first :: rest) (best better first rest) := by
  induction rest generalizing first with
  | nil =>
      refine ⟨List.mem_cons_self .., fun b hb => ?_⟩
      rw [List.mem_singleton.mp hb]
      exact h.irrefl first
  | cons next rest ih =>
      show IsBest better (first :: next :: rest)
        (best better (if better next first then next else first) rest)
      obtain ⟨hmem, hbest⟩ := ih (if better next first then next else first)
      -- what is kept of the first two stands for both
      have hkept := hbest _ (List.mem_cons_self ..)
      by_cases hbetter : better next first = true
      · rw [if_pos hbetter] at hmem hbest hkept ⊢
        refine ⟨List.mem_cons_of_mem _ hmem, fun b hb => ?_⟩
        rcases List.mem_cons.mp hb with rfl | hb
        · exact h.not_above_trans hkept (h.asymm hbetter)
        · exact hbest b hb
      · rw [if_neg hbetter] at hmem hbest hkept ⊢
        have hnot := Bool.eq_false_iff.mpr hbetter
        refine ⟨?_, fun b hb => ?_⟩
        · rcases List.mem_cons.mp hmem with heq | hrest
          · rw [heq]
            exact List.mem_cons_self ..
          · exact List.mem_cons_of_mem _ (List.mem_cons_of_mem _ hrest)
        · rcases List.mem_cons.mp hb with rfl | hb
          · exact hkept
          · rcases List.mem_cons.mp hb with rfl | hrest
            · exact h.not_above_trans hkept hnot
            · exact hbest b (List.mem_cons_of_mem _ hrest)

end KeyedSort
