import Mathlib.Data.List.Sort

/-! # The first of a stable sort by rank

    Sorting by descending rank and taking the head chooses one of the entries of
    the greatest rank: the first listed.  What is read of the choice depends on
    the order of the list exactly when entries of the greatest rank differ in it
    (`map_top_perm_iff`). -/

namespace TopRanked

variable {α β κ : Type} [LinearOrder κ]

/-- The first entry of the list, sorted by descending rank. -/
def top (rank : α → κ) (entries : List α) : Option α :=
  (entries.insertionSort fun left right => rank right ≤ rank left).head?

/-- Listed, and no entry ranks above it. -/
def IsTop (rank : α → κ) (entries : List α) (a : α) : Prop :=
  a ∈ entries ∧ ∀ b ∈ entries, rank b ≤ rank a

variable {rank : α → κ} {entries entries' : List α}

theorem IsTop.perm {a : α} (h : IsTop rank entries a) (hperm : entries.Perm entries') :
    IsTop rank entries' a :=
  ⟨hperm.mem_iff.mp h.1, fun b hb => h.2 b (hperm.mem_iff.mpr hb)⟩

/-- Entries that all have the greatest rank have the same rank. -/
theorem IsTop.rank_eq {a b : α} (ha : IsTop rank entries a) (hb : IsTop rank entries b) :
    rank a = rank b :=
  le_antisymm (hb.2 a ha.1) (ha.2 b hb.1)

/-- The chosen entry is listed, and no entry ranks above it. -/
theorem isTop_of_top {a : α} (h : top rank entries = some a) : IsTop rank entries a := by
  have hmem : a ∈ entries := (List.mem_insertionSort ..).mp (List.mem_of_head? h)
  refine ⟨hmem, fun b hb => ?_⟩
  have : Std.Total fun left right : α => rank right ≤ rank left :=
    ⟨fun left right => le_total (rank right) (rank left)⟩
  have : IsTrans α fun left right => rank right ≤ rank left :=
    ⟨fun _ _ _ hxy hyz => hyz.trans hxy⟩
  have hsorted := List.pairwise_insertionSort (fun left right => rank right ≤ rank left) entries
  obtain ⟨rest, hrest⟩ := List.head?_eq_some_iff.mp h
  rw [hrest] at hsorted
  have hlisted : b ∈ a :: rest := hrest ▸ (List.mem_insertionSort ..).mpr hb
  rcases List.mem_cons.mp hlisted with rfl | hbelow
  · exact le_refl _
  · exact List.rel_of_pairwise_cons hsorted hbelow

theorem top_eq_none_iff : top rank entries = none ↔ entries = [] := by
  rw [top, List.head?_eq_none_iff, ← List.length_eq_zero_iff, List.length_insertionSort,
    List.length_eq_zero_iff]

/-- An entry of the greatest rank that is listed first is chosen. -/
theorem top_cons {a : α} (h : ∀ b ∈ entries, rank b ≤ rank a) :
    top rank (a :: entries) = some a := by
  rw [top, List.insertionSort_cons_of_forall_rel _ h, List.head?_cons]

/-- **ORDER**: what is read of the choice is the same for every order of the list
    when the entries of the greatest rank agree in it, and only then. -/
theorem map_top_perm_iff [DecidableEq α] (p : α → Bool) (f : α → β) (all : List α) :
    (∀ all' : List α, all'.Perm all →
        (top rank (all'.filter p)).map f = (top rank (all.filter p)).map f)
      ↔ ∀ a b, IsTop rank (all.filter p) a → IsTop rank (all.filter p) b → f a = f b := by
  constructor
  · intro hsame
    -- each of the two is chosen from the list in which it comes first
    have hfirst : ∀ a, IsTop rank (all.filter p) a →
        (top rank (all.filter p)).map f = some (f a) := by
      intro a ha
      obtain ⟨hmem, hp⟩ := List.mem_filter.mp ha.1
      have hperm := List.perm_cons_erase hmem
      have hfilter := hperm.filter p
      rw [List.filter_cons_of_pos hp] at hfilter
      have hchosen := hsame _ hperm.symm
      rw [List.filter_cons_of_pos hp,
        top_cons fun b hb => (ha.perm hfilter).2 b (List.mem_cons_of_mem a hb)] at hchosen
      exact hchosen.symm
    intro a b ha hb
    exact Option.some.inj ((hfirst a ha).symm.trans (hfirst b hb))
  · intro hagree all' hperm
    have hfilter := hperm.filter p
    cases htop' : top rank (all'.filter p) with
    | none =>
        rw [top_eq_none_iff.mp htop'] at hfilter
        rw [top_eq_none_iff.mpr hfilter.symm.eq_nil]
    | some a =>
        cases htop : top rank (all.filter p) with
        | none =>
            rw [top_eq_none_iff.mp htop] at hfilter
            rw [top_eq_none_iff.mpr hfilter.eq_nil] at htop'
            cases htop'
        | some b =>
            have ha := (isTop_of_top htop').perm hfilter
            rw [Option.map_some, Option.map_some, hagree a b ha (isTop_of_top htop)]

end TopRanked
