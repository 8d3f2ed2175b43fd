import Mathlib.Data.List.Pairwise
import QrTrust.Backend.DestinationCanonicalization

/-! # Canonicalizing a map of verified domains

    It succeeds exactly when the raw domains canonicalize, and apart from each
    other; then it maps each canonical domain to what stood under the raw one. -/

namespace DestinationCanonicalization

variable {py : PyRuntime} {ν : Type}

/-- The raw domains canonicalize, and no two of them to the same domain. -/
def CanonicalizesApart (py : PyRuntime) (raws : List String) : Prop :=
  (∀ raw ∈ raws, ∃ domain, canonicalizeVerifiedDomain py raw = .ok domain)
    ∧ ∀ raw ∈ raws, ∀ raw' ∈ raws,
        canonicalizeVerifiedDomain py raw = canonicalizeVerifiedDomain py raw' → raw = raw'

/-- It depends on which raw domains there are only. -/
theorem CanonicalizesApart.of_mem_iff {raws raws' : List String}
    (h : CanonicalizesApart py raws) (hmem : ∀ raw, raw ∈ raws' ↔ raw ∈ raws) :
    CanonicalizesApart py raws' := by
  constructor
  · intro raw hraw
    exact h.1 raw ((hmem raw).mp hraw)
  · intro raw hraw raw' hraw' heq
    exact h.2 raw ((hmem raw).mp hraw) raw' ((hmem raw').mp hraw') heq

/-- **ENTRIES**: what the loop returns holds what it started with, and each value
    left under the canonical form of its raw domain. -/
theorem mem_canonicalizeEntries {entries : List (String × ν)} {normalized : OrderedMap String ν}
    {rawKeys : OrderedMap String String} {result : OrderedMap String ν}
    (h : canonicalizeEntries py false entries normalized rawKeys = .ok result)
    (domain : String) (value : ν) :
    (domain, value) ∈ result.entries ↔ (domain, value) ∈ normalized.entries
      ∨ ∃ raw, (raw, value) ∈ entries ∧ canonicalizeVerifiedDomain py raw = .ok domain := by
  induction entries generalizing normalized rawKeys with
  | nil =>
      obtain rfl := Except.ok.inj h
      simp
  | cons hd rest ih =>
      obtain ⟨raw, v⟩ := hd
      rw [canonicalizeEntries, if_neg (fun hblank => Bool.noConfusion hblank.1)] at h
      cases hcanonical : canonicalizeVerifiedDomain py raw with
      | error exc => rw [hcanonical] at h; exact Except.noConfusion rfl rfl (heq_of_eq h)
      | ok canonical =>
          simp only [hcanonical] at h
          split at h
          · cases h
          · rename_i hnew
            have hfresh : ∀ w, (canonical, w) ∉ normalized.entries := fun w hw =>
              hnew (OrderedMap.contains_iff.mpr (OrderedMap.mem_keys.mpr ⟨w, hw⟩))
            rw [ih h, OrderedMap.mem_set]
            constructor
            · rintro ((⟨rfl, rfl⟩ | ⟨-, hmem⟩) | ⟨raw', hmem, heq⟩)
              · exact .inr ⟨raw, List.mem_cons_self .., hcanonical⟩
              · exact .inl hmem
              · exact .inr ⟨raw', List.mem_cons_of_mem _ hmem, heq⟩
            · rintro (hmem | ⟨raw', hmem, heq⟩)
              · exact .inl (.inr ⟨fun hd => hfresh value (hd ▸ hmem), hmem⟩)
              · rcases List.mem_cons.mp hmem with hfirst | hrest
                · obtain ⟨rfl, rfl⟩ := Prod.mk.inj hfirst
                  rw [hcanonical] at heq
                  exact .inl (.inl ⟨(Except.ok.inj heq).symm, rfl⟩)
                · exact .inr ⟨raw', hrest, heq⟩

/-- **SUCCESS**: the loop succeeds when each raw domain left canonicalizes, to a
    domain that neither the map so far nor another raw domain has. -/
theorem exists_canonicalizeEntries_iff {entries : List (String × ν)}
    {normalized : OrderedMap String ν} {rawKeys : OrderedMap String String} :
    (∃ result, canonicalizeEntries py false entries normalized rawKeys = .ok result) ↔
      (∀ raw ∈ entries.map Prod.fst, ∃ domain,
          canonicalizeVerifiedDomain py raw = .ok domain ∧ domain ∉ normalized.keys)
        ∧ (entries.map Prod.fst).Pairwise fun raw raw' =>
            canonicalizeVerifiedDomain py raw ≠ canonicalizeVerifiedDomain py raw' := by
  induction entries generalizing normalized rawKeys with
  | nil =>
      constructor
      · intro _
        exact ⟨fun raw hraw => absurd hraw List.not_mem_nil, .nil⟩
      · intro _
        exact ⟨normalized, rfl⟩
  | cons hd rest ih =>
      obtain ⟨raw, v⟩ := hd
      rw [List.map_cons, List.pairwise_cons, List.forall_mem_cons]
      simp only [canonicalizeEntries, Bool.false_eq_true, false_and, if_false]
      cases hcanonical : canonicalizeVerifiedDomain py raw with
      | error exc =>
          constructor
          · rintro ⟨result, h⟩
            cases h
          · rintro ⟨⟨⟨domain, h, -⟩, -⟩, -⟩
            cases h
      | ok canonical =>
          simp only
          by_cases hknown : canonical ∈ normalized.keys
          · rw [if_pos (OrderedMap.contains_iff.mpr hknown)]
            constructor
            · rintro ⟨result, h⟩
              cases h
            · rintro ⟨⟨⟨domain, h, hfresh⟩, -⟩, -⟩
              exact absurd (Except.ok.inj h ▸ hknown) hfresh
          · rw [if_neg (fun h => hknown (OrderedMap.contains_iff.mp h)), ih]
            constructor
            · rintro ⟨hrest, hpairwise⟩
              refine ⟨⟨⟨canonical, rfl, hknown⟩, fun raw' hraw' => ?_⟩,
                fun raw' hraw' heq => ?_, hpairwise⟩
              · obtain ⟨domain, hdomain, hnot⟩ := hrest raw' hraw'
                exact ⟨domain, hdomain, fun hmem => hnot ((OrderedMap.mem_keys_set ..).mpr (.inr hmem))⟩
              · obtain ⟨domain, hdomain, hnot⟩ := hrest raw' hraw'
                rw [hdomain] at heq
                exact hnot ((OrderedMap.mem_keys_set ..).mpr (.inl (Except.ok.inj heq).symm))
            · rintro ⟨⟨-, hrest⟩, hhead, hpairwise⟩
              refine ⟨fun raw' hraw' => ?_, hpairwise⟩
              obtain ⟨domain, hdomain, hnot⟩ := hrest raw' hraw'
              refine ⟨domain, hdomain, fun hmem => ?_⟩
              rcases (OrderedMap.mem_keys_set ..).mp hmem with rfl | hold
              · exact hhead raw' hraw' hdomain.symm
              · exact hnot hold

/-- **MAP SUCCESS**: a map canonicalizes when its raw domains do, apart. -/
theorem exists_canonicalizeVerifiedDomainMap_iff {m : OrderedMap String ν} :
    (∃ result, canonicalizeVerifiedDomainMap py m false = .ok result) ↔
      CanonicalizesApart py m.keys := by
  rw [canonicalizeVerifiedDomainMap, exists_canonicalizeEntries_iff]
  show (_ ∧ m.keys.Pairwise _) ↔ _
  constructor
  · rintro ⟨hall, hpairwise⟩
    refine ⟨fun raw hraw => ?_, fun raw hraw raw' hraw' heq => ?_⟩
    · obtain ⟨domain, hdomain, -⟩ := hall raw hraw
      exact ⟨domain, hdomain⟩
    · have hsymm : Std.Symm fun raw raw' : String =>
          canonicalizeVerifiedDomain py raw ≠ canonicalizeVerifiedDomain py raw' :=
        ⟨fun _ _ hne => hne.symm⟩
      by_contra hne
      exact hpairwise.forall hraw hraw' hne heq
  · rintro ⟨hall, hapart⟩
    refine ⟨fun raw hraw => ?_, ?_⟩
    · obtain ⟨domain, hdomain⟩ := hall raw hraw
      exact ⟨domain, hdomain, List.not_mem_nil⟩
    · refine List.Nodup.pairwise_of_forall_ne m.nodup fun raw hraw raw' hraw' hne heq => ?_
      exact hne (hapart raw hraw raw' hraw' heq)

/-- **MAP LOOKUP**: a canonical domain has the value of the raw domain it comes
    from. -/
theorem get?_canonicalizeVerifiedDomainMap {m result : OrderedMap String ν}
    (h : canonicalizeVerifiedDomainMap py m false = .ok result) (domain : String) (value : ν) :
    result.get? domain = some value ↔ ∃ raw, m.get? raw = some value
      ∧ canonicalizeVerifiedDomain py raw = .ok domain := by
  rw [OrderedMap.get?_eq_some_iff, mem_canonicalizeEntries h]
  simp only [OrderedMap.get?_eq_some_iff, OrderedMap.entries_empty, List.not_mem_nil, false_or]

end DestinationCanonicalization
