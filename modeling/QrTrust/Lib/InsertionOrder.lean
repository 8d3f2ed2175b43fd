import QrTrust.Lib.OrderedMap

/-! # The order of an insertion-ordered map

    `Before m k k'` says that `k` comes before `k'` in the map.  A write of a new
    key puts it last, and every other operation keeps the order of what it
    keeps (`InsertsLast`).  So over a log of operations one key comes to stand
    before another exactly when it stood there, or when it overtook: the other
    was absent at some point, and from then on the first stayed
    (`before_foldl_iff`). -/

namespace OrderedMap

variable {κ ν : Type} [DecidableEq κ]

/-! ## The order -/

omit [DecidableEq κ] in
/-- **BEFORE**: both keys are present, the first one earlier. -/
def Before (m : OrderedMap κ ν) (k k' : κ) : Prop := [k, k'].Sublist m.keys

variable {m m' : OrderedMap κ ν} {k k' : κ}

omit [DecidableEq κ] in
omit [DecidableEq κ] in
theorem before_of_split {earlier later : List κ} (hsplit : m.keys = earlier ++ k :: later)
    (hk' : k' ∈ later) : Before m k k' := by
  rw [Before, hsplit]
  exact ((List.singleton_sublist.mpr hk').cons_cons k).trans (List.sublist_append_right ..)

omit [DecidableEq κ] in
theorem before_of_split' {earlier later : List κ} (hsplit : m.keys = earlier ++ k :: later)
    (hk' : k' ∈ earlier) : Before m k' k := by
  rw [Before, hsplit]
  have hhead : [k'].Sublist earlier := List.singleton_sublist.mpr hk'
  have htail : [k].Sublist (k :: later) := List.singleton_sublist.mpr (List.mem_cons_self ..)
  exact hhead.append htail

omit [DecidableEq κ] in
/-- Two different keys stand one way or the other. -/
theorem before_or_before (hk : k ∈ m.keys) (hk' : k' ∈ m.keys) (hne : k ≠ k') :
    Before m k k' ∨ Before m k' k := by
  obtain ⟨earlier, later, hsplit⟩ := List.append_of_mem hk
  rw [hsplit, List.mem_append, List.mem_cons] at hk'
  rcases hk' with hearlier | rfl | hlater
  · exact .inr (before_of_split' hsplit hearlier)
  · exact absurd rfl hne
  · exact .inl (before_of_split hsplit hlater)

omit [DecidableEq κ] in
/-- In a list without repetitions two elements stand one way only. -/
theorem not_sublist_swap {keys : List κ} (hnodup : keys.Nodup)
    (h : [k, k'].Sublist keys) : ¬ [k', k].Sublist keys := by
  induction keys with
  | nil => cases h
  | cons first rest ih =>
      obtain ⟨hfirst, hrest⟩ := List.nodup_cons.mp hnodup
      intro h'
      rcases List.sublist_cons_iff.mp h with hin | ⟨_, heq, hin⟩
      · rcases List.sublist_cons_iff.mp h' with hin' | ⟨_, heq', hin'⟩
        · exact ih hrest hin hin'
        · obtain ⟨rfl, -⟩ := List.cons.inj heq'
          exact hfirst (hin.subset (List.mem_cons_of_mem _ (List.mem_cons_self ..)))
      · obtain ⟨rfl, rfl⟩ := List.cons.inj heq
        rcases List.sublist_cons_iff.mp h' with hin' | ⟨_, heq', hin'⟩
        · exact hfirst (hin'.subset (List.mem_cons_of_mem _ (List.mem_cons_self ..)))
        · obtain ⟨rfl, rfl⟩ := List.cons.inj heq'
          exact hfirst (hin.subset (List.mem_cons_self ..))

omit [DecidableEq κ] in
theorem Before.asymm (h : Before m k k') : ¬ Before m k' k := not_sublist_swap m.nodup h

omit [DecidableEq κ] in
theorem keys_split {earlier later : List (κ × ν)} {v : ν}
    (hsplit : m.entries = earlier ++ (k, v) :: later) :
    m.keys = earlier.map Prod.fst ++ k :: later.map Prod.fst := by
  rw [keys, hsplit, List.map_append, List.map_cons]

/-- **FIRST**: a search finds the entry that comes before every other entry with
    the property. -/
theorem find?_values_iff {p : ν → Bool} {v : ν} :
    m.values.find? p = some v ↔ ∃ k, m.get? k = some v ∧ p v = true
      ∧ ∀ k' v', m.get? k' = some v' → p v' = true → k' ≠ k → Before m k k' := by
  constructor
  · intro h
    rw [values, List.find?_map, Option.map_eq_some_iff] at h
    obtain ⟨⟨k, v'⟩, hfound, rfl⟩ := h
    obtain ⟨hp, earlier, later, hsplit, hearlier⟩ := List.find?_eq_some_iff_append.mp hfound
    refine ⟨k, (get?_eq_some_iff ..).mpr (hsplit ▸ by simp), hp, fun k' v' hget hp' hne => ?_⟩
    have hmem := (get?_eq_some_iff ..).mp hget
    rw [hsplit, List.mem_append, List.mem_cons] at hmem
    rcases hmem with hin | heq | hin
    · have hnot := hearlier _ hin
      rw [Function.comp_apply, hp'] at hnot
      cases hnot
    · exact absurd (Prod.mk.inj heq).1 hne
    · exact before_of_split (keys_split hsplit) (List.mem_map.mpr ⟨_, hin, rfl⟩)
  · rintro ⟨k, hget, hp, hfirst⟩
    obtain ⟨earlier, later, hsplit⟩ := List.append_of_mem ((get?_eq_some_iff ..).mp hget)
    rw [values, List.find?_map, Option.map_eq_some_iff]
    refine ⟨(k, v), List.find?_eq_some_iff_append.mpr ⟨hp, earlier, later, hsplit, ?_⟩, rfl⟩
    rintro ⟨k', v'⟩ hin
    cases hp' : (p ∘ Prod.snd) (k', v') with
    | false => rfl
    | true =>
        -- an earlier entry with the property would stand on both sides of this one
        have hmem' : (k', v') ∈ m.entries := hsplit ▸ List.mem_append_left _ hin
        have hbefore : Before m k' k :=
          before_of_split' (keys_split hsplit) (List.mem_map.mpr ⟨_, hin, rfl⟩)
        have hne : k' ≠ k := by
          rintro rfl
          exact hbefore.asymm hbefore
        exact absurd hbefore
          (hfirst k' v' ((get?_eq_some_iff ..).mpr hmem') hp' hne).asymm

/-! ## What operations do to the order -/

omit [DecidableEq κ] in
/-- **INSERTS LAST**: an operation that keeps the order of the keys it keeps, and
    adds one key at most, behind the others. -/
structure InsertsLast (m m' : OrderedMap κ ν) : Prop where
  kept : ∀ k k', Before m k k' → k ∈ m'.keys → k' ∈ m'.keys → Before m' k k'
  inserted : ∀ k k', k ∈ m.keys → k ∈ m'.keys → k' ∉ m.keys → k' ∈ m'.keys → Before m' k k'
  single : ∀ k k', k ∉ m.keys → k ∈ m'.keys → k' ∉ m.keys → k' ∈ m'.keys → k = k'

omit [DecidableEq κ] in
theorem insertsLast_refl (m : OrderedMap κ ν) : InsertsLast m m :=
  ⟨fun _ _ h _ _ => h, fun _ _ _ _ hnot hin => absurd hin hnot,
    fun _ _ hnot hin _ _ => absurd hin hnot⟩

theorem keys_set_of_mem {key : κ} (v : ν) (h : key ∈ m.keys) : (m.set key v).keys = m.keys := by
  show (setEntries m.entries key v).map Prod.fst = m.entries.map Prod.fst
  have hkey : key ∈ m.entries.map Prod.fst := h
  rw [setEntries, if_pos hkey, map_fst_overwrite]

theorem keys_set_of_not_mem {key : κ} (v : ν) (h : key ∉ m.keys) :
    (m.set key v).keys = m.keys ++ [key] := by
  show (setEntries m.entries key v).map Prod.fst = m.entries.map Prod.fst ++ [key]
  have hkey : key ∉ m.entries.map Prod.fst := h
  rw [setEntries, if_neg hkey, List.map_append]
  rfl

theorem insertsLast_set (m : OrderedMap κ ν) (key : κ) (v : ν) : InsertsLast m (m.set key v) := by
  by_cases hkey : key ∈ m.keys
  · -- an old key keeps its place
    have hkeys := keys_set_of_mem v hkey
    refine ⟨fun k k' h _ _ => ?_, fun k k' _ _ hnot hin => ?_, fun k k' hnot hin _ _ => ?_⟩
    · rw [Before, hkeys]
      exact h
    · exact absurd (hkeys ▸ hin) hnot
    · exact absurd (hkeys ▸ hin) hnot
  · have hkeys := keys_set_of_not_mem v hkey
    have hnew : ∀ k, k ∉ m.keys → k ∈ (m.set key v).keys → k = key := by
      intro k hnot hin
      rw [hkeys, List.mem_append, List.mem_singleton] at hin
      exact hin.resolve_left hnot
    refine ⟨fun k k' h _ _ => ?_, fun k k' hk _ hnot hin => ?_, fun k k' hnot hin hnot' hin' => ?_⟩
    · rw [Before, hkeys]
      exact h.trans (List.sublist_append_left ..)
    · obtain rfl := hnew k' hnot hin
      rw [Before, hkeys]
      exact (List.singleton_sublist.mpr hk).append (List.Sublist.refl [k'])
    · rw [hnew k hnot hin, hnew k' hnot' hin']

theorem insertsLast_filter (m : OrderedMap κ ν) (p : κ × ν → Bool) :
    InsertsLast m (m.filter p) := by
  have hsublist : (m.filter p).keys.Sublist m.keys := List.filter_sublist.map _
  refine ⟨fun k k' h hk hk' => ?_, fun k k' _ _ hnot hin => ?_, fun k k' hnot hin _ _ => ?_⟩
  · by_cases hne : k = k'
    · subst hne
      exact absurd h h.asymm
    · rcases before_or_before hk hk' hne with hbefore | hbefore
      · exact hbefore
      · exact absurd (hbefore.trans hsublist) h.asymm
  · exact absurd (hsublist.subset hin) hnot
  · exact absurd (hsublist.subset hin) hnot

omit [DecidableEq κ] in
theorem InsertsLast.before_iff (h : InsertsLast m m') (hne : k ≠ k') (hk : k ∈ m.keys)
    (hk' : k' ∈ m.keys) (hin : k ∈ m'.keys) (hin' : k' ∈ m'.keys) :
    Before m' k k' ↔ Before m k k' := by
  constructor
  · intro hafter
    rcases before_or_before hk hk' hne with hbefore | hbefore
    · exact hbefore
    · exact absurd hafter (h.kept k' k hbefore hin' hin).asymm
  · intro hbefore
    exact h.kept k k' hbefore hin hin'

/-! ## Over a log -/

section Log

variable {σ ω : Type} (view : σ → OrderedMap κ ν) (apply : σ → ω → σ)

omit [DecidableEq κ] in
/-- **OVERTAKES**: at some point of the log the second key is absent, and from
    there on the first one is present. -/
def Overtakes (s : σ) (log : List ω) (k k' : κ) : Prop :=
  ∃ before after, log = before ++ after
    ∧ k' ∉ (view (before.foldl apply s)).keys
    ∧ ∀ mid, mid <+: after → k ∈ (view ((before ++ mid).foldl apply s)).keys

variable {view apply} {s : σ}

omit [DecidableEq κ] in
/-- A key that is present at the end is overtaken before the last action. -/
theorem overtakes_concat {log : List ω} {a : ω}
    (hk : k ∈ (view ((log ++ [a]).foldl apply s)).keys)
    (hk' : k' ∈ (view ((log ++ [a]).foldl apply s)).keys) :
    Overtakes view apply s (log ++ [a]) k k' ↔ Overtakes view apply s log k k' := by
  constructor
  · rintro ⟨before, after, hsplit, habsent, hpresent⟩
    rcases List.eq_nil_or_concat after with rfl | ⟨after, last, rfl⟩
    · rw [List.append_nil] at hsplit
      exact absurd (hsplit ▸ hk') habsent
    · rw [List.concat_eq_append, ← List.append_assoc] at hsplit
      obtain ⟨rfl, -⟩ := List.append_inj' hsplit rfl
      refine ⟨before, after, rfl, habsent, fun mid hmid => hpresent mid ?_⟩
      rw [List.concat_eq_append]
      exact hmid.trans (List.prefix_append ..)
  · rintro ⟨before, after, rfl, habsent, hpresent⟩
    refine ⟨before, after ++ [a], List.append_assoc .., habsent, fun mid hmid => ?_⟩
    rcases List.prefix_concat_iff.mp hmid with rfl | hmid
    · rw [← List.append_assoc]
      exact hk
    · exact hpresent mid hmid

/-- **ORDER AFTER A LOG**: of two keys that are present before and after it, one
    stands first when it overtook the other, or stood first and was not
    overtaken. -/
theorem before_foldl_iff (hsteps : ∀ s a, InsertsLast (view s) (view (apply s a)))
    (log : List ω) (hne : k ≠ k') (hk : k ∈ (view s).keys) (hk' : k' ∈ (view s).keys)
    (hend : k ∈ (view (log.foldl apply s)).keys) (hend' : k' ∈ (view (log.foldl apply s)).keys) :
    Before (view (log.foldl apply s)) k k' ↔
      Overtakes view apply s log k k'
        ∨ (Before (view s) k k' ∧ ¬ Overtakes view apply s log k' k) := by
  induction log using List.reverseRecOn with
  | nil =>
      have hnever : ∀ {j j' : κ}, j' ∈ (view s).keys → ¬ Overtakes view apply s ([] : List ω) j j' := by
        rintro j j' hin ⟨before, after, hsplit, habsent, -⟩
        obtain ⟨rfl, -⟩ := List.append_eq_nil_iff.mp hsplit.symm
        exact habsent hin
      exact ⟨fun h => .inr ⟨h, hnever hk⟩, fun h => (h.resolve_left (hnever hk')).1⟩
  | append_singleton log a ih =>
      have hfold : (log ++ [a]).foldl apply s = apply (log.foldl apply s) a :=
        List.foldl_append ..
      have hstep := hsteps (log.foldl apply s) a
      -- a key that the last action brings back stands behind one that it kept
      have hback : ∀ {j j' : κ}, j ∈ (view (log.foldl apply s)).keys →
          j ∈ (view ((log ++ [a]).foldl apply s)).keys →
          j' ∉ (view (log.foldl apply s)).keys →
          j' ∈ (view ((log ++ [a]).foldl apply s)).keys →
          Before (view ((log ++ [a]).foldl apply s)) j j'
            ∧ Overtakes view apply s (log ++ [a]) j j' := by
        intro j j' hin hinEnd hout houtEnd
        refine ⟨?_, log, [a], rfl, hout, fun mid hmid => ?_⟩
        · rw [hfold] at hinEnd houtEnd ⊢
          exact hstep.inserted j j' hin hinEnd hout houtEnd
        · rcases List.prefix_cons_iff.mp hmid with rfl | ⟨rest, rfl, hrest⟩
          · rw [List.append_nil]
            exact hin
          · rw [List.prefix_nil.mp hrest]
            exact hinEnd
      by_cases hin : k ∈ (view (log.foldl apply s)).keys
      · by_cases hin' : k' ∈ (view (log.foldl apply s)).keys
        · rw [overtakes_concat hend hend', overtakes_concat hend' hend, ← ih hin hin']
          rw [hfold] at hend hend' ⊢
          exact hstep.before_iff hne hin hin' hend hend'
        · obtain ⟨hbefore, hovertakes⟩ := hback hin hend hin' hend'
          exact iff_of_true hbefore (.inl hovertakes)
      · by_cases hin' : k' ∈ (view (log.foldl apply s)).keys
        · obtain ⟨hbefore, hovertakes⟩ := hback hin' hend' hin hend
          refine iff_of_false hbefore.asymm ?_
          rintro (⟨before, after, hsplit, habsent, hpresent⟩ | ⟨-, hnot⟩)
          · -- the first key is absent before the last action, so nothing was left to do
            rcases List.eq_nil_or_concat after with rfl | ⟨after, last, rfl⟩
            · rw [List.append_nil] at hsplit
              exact habsent (hsplit ▸ hend')
            · rw [List.concat_eq_append, ← List.append_assoc] at hsplit
              obtain ⟨rfl, -⟩ := List.append_inj' hsplit rfl
              refine hin (hpresent after ?_)
              rw [List.concat_eq_append]
              exact List.prefix_append ..
          · exact hnot hovertakes
        · rw [hfold] at hend hend'
          exact absurd (hstep.single k k' hin hend hin' hend') hne

end Log

end OrderedMap
