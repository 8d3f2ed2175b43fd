import QrTrust.Lib.KeyedSort
import QrTrust.Lib.PrefixCode
import QrTrust.Network.ChainSoundnessProofs
import QrTrust.Network.ScannerDecision

/-! # The freshness window of an entry

    An entry expires with the least of its sources' expiry texts and is published
    with the greatest of their beginnings.  These are instants of the window as
    far as the order of the texts follows that of the instants, and the warning
    is the scanner's judgement as far as a smaller text is an instant that is not
    later: on texts of one spelling, everywhere but at the expiry itself
    (`window_iff`, `window_of_iso`). -/

namespace JsString

open PrefixCode

/-! ## Texts are told apart -/

/-- **CODE UNITS**: those of a character start those of no other. -/
theorem codeUnits_prefixFree : PrefixFree codeUnits := by
  intro a b h
  have ha : a.toNat < 0xd800 ∨ 0xdfff < a.toNat ∧ a.toNat < 0x110000 := a.valid
  have hb : b.toNat < 0xd800 ∨ 0xdfff < b.toNat ∧ b.toNat < 0x110000 := b.valid
  rw [codeUnits, codeUnits] at h
  split at h
  · split at h
    · exact Char.toNat_inj.mp (List.cons_prefix_cons.mp h).1
    · -- a character of one unit is no surrogate
      have hunit := (List.cons_prefix_cons.mp h).1
      omega
  · split at h
    · have hlength := h.length_le
      simp at hlength
    · obtain ⟨hhigh, hlow⟩ := List.cons_prefix_cons.mp h
      have hlow' := (List.cons_prefix_cons.mp hlow).1
      exact Char.toNat_inj.mp (by omega)

/-- Texts with the same code units are one text. -/
theorem units_injective : Function.Injective units := by
  intro s t h
  have hstart : ∀ c, ∃ unit rest, codeUnits c = unit :: rest ∧ unit ≠ 0x110000 := by
    intro c
    have hc : c.toNat < 0xd800 ∨ 0xdfff < c.toNat ∧ c.toNat < 0x110000 := c.valid
    rw [codeUnits]
    split
    · exact ⟨_, _, rfl, by omega⟩
    · exact ⟨_, _, rfl, by omega⟩
  have hclosed : s.toList.flatMap codeUnits ++ 0x110000 :: []
      = t.toList.flatMap codeUnits ++ 0x110000 :: [] := congrArg (· ++ [0x110000]) h
  exact String.toList_inj.mp
    (flatMap_readsBack codeUnits_prefixFree hstart s.toList t.toList [] [] hclosed).1

/-- Texts of which neither is less are one text. -/
theorem eq_of_not_less {a b : String} (hab : less a b = false) (hba : less b a = false) :
    a = b := by
  refine units_injective (le_antisymm (not_lt.mp fun hlt => ?_) (not_lt.mp fun hlt => ?_))
  · rw [less_iff.mpr hlt] at hba
    cases hba
  · rw [less_iff.mpr hlt] at hab
    cases hab

end JsString

namespace CacheMaterialization

open VerifierCache ArtifactPublication ScannerDecisions KeyedSort
open JsString (less units less_iff eq_of_not_less)

variable {host : MaterializationHost} {input : VerifierCacheMaterializationInput}

/-! ## The least and the greatest text -/

/-- Texts in the order of their code units. -/
theorem strictWeak_less : StrictWeak less where
  asymm hab := by
    rw [Bool.eq_false_iff]
    intro hba
    exact lt_asymm (less_iff.mp hab) (less_iff.mp hba)
  not_above_trans hab hbc := by
    rw [Bool.eq_false_iff] at hab hbc ⊢
    intro hca
    have hle := le_trans (not_lt.mp fun hlt => hab (less_iff.mpr hlt))
      (not_lt.mp fun hlt => hbc (less_iff.mpr hlt))
    exact not_lt.mpr hle (less_iff.mp hca)

/-- A listed text that no listed text is less than. -/
def LeastText (texts : List String) (a : String) : Prop :=
  a ∈ texts ∧ ∀ b ∈ texts, less b a = false

/-- A listed text that is less than no listed text. -/
def GreatestText (texts : List String) (a : String) : Prop :=
  a ∈ texts ∧ ∀ b ∈ texts, less a b = false

theorem LeastText.unique {texts : List String} {a b : String} (ha : LeastText texts a)
    (hb : LeastText texts b) : a = b :=
  eq_of_not_less (hb.2 a ha.1) (ha.2 b hb.1)

theorem GreatestText.unique {texts : List String} {a b : String} (ha : GreatestText texts a)
    (hb : GreatestText texts b) : a = b :=
  eq_of_not_less (ha.2 b hb.1) (hb.2 a ha.1)

/-- The earliest text is the least. -/
theorem leastText_earliestIso (first : String) (rest : List String) :
    LeastText (first :: rest) (earliestIso first rest) :=
  strictWeak_less.best_spec first rest

/-- The latest text is the greatest. -/
theorem greatestText_latestIso (first : String) (rest : List String) :
    GreatestText (first :: rest) (latestIso first rest) :=
  strictWeak_less.flip.best_spec first rest

/-! ## The window -/

section Window

variable {τ : Type} [LinearOrder τ] (instant : String → Option τ)

/-- As instants, the one text is no later than the other. -/
def NotAfter (a b : String) : Prop :=
  ∀ s t, instant a = some s → instant b = some t → s ≤ t

/-- The least of the texts is their earliest instant. -/
def LeastIsEarliest (texts : List String) : Prop :=
  ∀ a, LeastText texts a → ∀ b ∈ texts, NotAfter instant a b

/-- The greatest of the texts is their latest instant. -/
def GreatestIsLatest (texts : List String) : Prop :=
  ∀ a, GreatestText texts a → ∀ b ∈ texts, NotAfter instant b a

variable (dates : DateFunctions)

/-- **WINDOW**: the entry expires no later than each of its sources and is
    published no earlier than each of them begins, as instants, and the warning
    is raised when the scanner would find the entry expired at the time of its
    materialization. -/
structure Windowed (now : Int) (report : VerifierCacheMaterializationReport)
    (chain : SourceChain host input) : Prop where
  expires : ∀ text ∈ chain.expiries,
    NotAfter instant report.cacheEntry.freshness.cacheExpiresAt text
  published : ∀ text ∈ chain.beginnings,
    NotAfter instant text report.cacheEntry.freshness.statePublishedAt
  warned : ∀ resolution : DestinationResolution, resolution.issuer = report.issuerProjection →
    (cacheMaterializedAfterExpiryWarning ∈ report.materializationWarnings
      ↔ cacheFreshnessStatus dates resolution now = .expired)

/-- What the texts of the sources must be for it: the least expiry is the
    earliest, the greatest beginning is the latest, and the least expiry is less
    than the time of the materialization when it is no later instant. -/
structure RankedAsInstants (now : Int) (chain : SourceChain host input) : Prop where
  expiries : LeastIsEarliest instant chain.expiries
  beginnings : GreatestIsLatest instant chain.beginnings
  boundary : ∀ a, LeastText chain.expiries a →
    (less a (host.toISOString now) = true ↔ ∃ t, dates.parse a = some t ∧ t ≤ now)

/-- The expiry of the entry is the least, so what holds of a least text holds of
    it. -/
theorem forall_leastText_iff {first : String} {rest : List String} {P : String → Prop} :
    (∀ a, LeastText (first :: rest) a → P a) ↔ P (earliestIso first rest) := by
  constructor
  · intro h
    exact h _ (leastText_earliestIso first rest)
  · intro h a ha
    rw [ha.unique (leastText_earliestIso first rest)]
    exact h

theorem forall_greatestText_iff {first : String} {rest : List String} {P : String → Prop} :
    (∀ a, GreatestText (first :: rest) a → P a) ↔ P (latestIso first rest) := by
  constructor
  · intro h
    exact h _ (greatestText_latestIso first rest)
  · intro h a ha
    rw [ha.unique (greatestText_latestIso first rest)]
    exact h

theorem mem_materializationWarnings {materializedAt expiresAt : String} :
    cacheMaterializedAfterExpiryWarning ∈ materializationWarnings materializedAt expiresAt
      ↔ less expiresAt materializedAt = true := by
  rw [materializationWarnings]
  split
  · rename_i hless
    exact ⟨fun _ => hless, fun _ => List.mem_cons_self ..⟩
  · rename_i hnot
    exact ⟨fun hmem => absurd hmem List.not_mem_nil, fun hless => absurd hless hnot⟩

/-- The scanner finds an entry that was generated by now expired when its expiry
    is an instant that is not after now. -/
theorem cacheFreshnessStatus_expired_iff {resolution : DestinationResolution} {now : Int}
    (hgenerated : dates.parse resolution.issuer.cacheGeneratedAt = some now) :
    cacheFreshnessStatus dates resolution now = .expired
      ↔ ∃ t, dates.parse resolution.issuer.cacheExpiresAt = some t ∧ t ≤ now := by
  rw [cacheFreshnessStatus, hgenerated]
  cases hexpiry : dates.parse resolution.issuer.cacheExpiresAt with
  | none =>
      constructor
      · intro h
        cases h
      · rintro ⟨t, ht, -⟩
        cases ht
  | some t =>
      simp only [gt_iff_lt, lt_irrefl, if_false]
      constructor
      · intro h
        split at h
        · rename_i hle
          exact ⟨t, rfl, hle⟩
        · cases h
      · rintro ⟨t', ht', hle⟩
        obtain rfl := Option.some.inj ht'
        rw [if_pos hle]

/-- A resolution of an issuer, with nothing more to it. -/
def bareResolution (issuer : IssuerProjection) (policy : DestinationPolicyProjection) :
    DestinationResolution where
  issuer := issuer
  policy := policy
  destination := ⟨"", "", [], false, [], "", none⟩
  bindingStatus := .bound
  reasonCodes := []
  resolverUrl := none
  finalUrl := none
  observedRedirectHops := none

theorem forall_leastExpiry_iff {chain : SourceChain host input} {P : String → Prop} :
    (∀ a, LeastText chain.expiries a → P a) ↔ P chain.cacheExpiresAt :=
  forall_leastText_iff

/-- The latest beginning, by the order of texts. -/
def SourceChain.statePublishedAt (chain : SourceChain host input) : String :=
  latestIso chain.root.publication.publishedAt
    (publishedTimes chain.authority chain.record chain.policy chain.event)

theorem forall_greatestBeginning_iff {chain : SourceChain host input} {P : String → Prop} :
    (∀ a, GreatestText chain.beginnings a → P a) ↔ P chain.statePublishedAt :=
  forall_greatestText_iff

/-- The dates of a report and its warnings, as its chain has them. -/
structure DatedBy (now : Int) (report : VerifierCacheMaterializationReport)
    (chain : SourceChain host input) : Prop where
  expires : report.cacheEntry.freshness.cacheExpiresAt = chain.cacheExpiresAt
  published : report.cacheEntry.freshness.statePublishedAt = chain.statePublishedAt
  issuerExpires : report.issuerProjection.cacheExpiresAt = chain.cacheExpiresAt
  issuerGenerated : report.issuerProjection.cacheGeneratedAt = host.toISOString now
  warnings : report.materializationWarnings
    = materializationWarnings (host.toISOString now) chain.cacheExpiresAt

theorem datedBy_of_materialized {report : VerifierCacheMaterializationReport} {now : Int}
    (hnow : input.materializedAt = some now)
    (hreport : materializeVerifierCacheEntry host input = .ok report)
    (chain : SourceChain host input) : DatedBy now report chain := by
  obtain ⟨source, certificateRef, t, -, -, ht, rfl⟩ := materialized_iff.mp hreport
  obtain rfl := Option.some.inj (hnow.symm.trans ht)
  obtain rfl := chain.eq_of_decoded source
  refine ⟨rfl, ?_, rfl, rfl, rfl⟩
  rw [cacheEntry, SourceChain.statePublishedAt]

/-- **ENTRY**: an entry has its window when the texts of its sources rank as
    their instants do, and only then. -/
theorem windowed_iff {report : VerifierCacheMaterializationReport} {now : Int}
    (hnow : input.materializedAt = some now)
    (hreads : dates.parse (host.toISOString now) = some now)
    (hreport : materializeVerifierCacheEntry host input = .ok report)
    (chain : SourceChain host input) :
    Windowed instant dates now report chain ↔ RankedAsInstants instant dates now chain := by
  have hdated := datedBy_of_materialized hnow hreport chain
  have hwarned : ∀ resolution : DestinationResolution,
      resolution.issuer = report.issuerProjection →
      ((cacheMaterializedAfterExpiryWarning ∈ report.materializationWarnings
          ↔ cacheFreshnessStatus dates resolution now = .expired)
        ↔ (less chain.cacheExpiresAt (host.toISOString now) = true
          ↔ ∃ t, dates.parse chain.cacheExpiresAt = some t ∧ t ≤ now)) := by
    intro resolution hissuer
    have hgenerated : dates.parse resolution.issuer.cacheGeneratedAt = some now := by
      rw [hissuer, hdated.issuerGenerated]
      exact hreads
    rw [hdated.warnings, mem_materializationWarnings,
      cacheFreshnessStatus_expired_iff dates hgenerated, hissuer, hdated.issuerExpires]
  constructor
  · intro h
    refine ⟨forall_leastExpiry_iff.mpr ?_, forall_greatestBeginning_iff.mpr ?_,
      forall_leastExpiry_iff.mpr ?_⟩
    · rw [← hdated.expires]
      exact h.expires
    · rw [← hdated.published]
      exact h.published
    · exact (hwarned (bareResolution report.issuerProjection report.destinationPolicyProjection)
        rfl).mp (h.warned _ rfl)
  · intro h
    refine ⟨?_, ?_, fun resolution hissuer => ?_⟩
    · rw [hdated.expires]
      exact forall_leastExpiry_iff.mp h.expiries
    · rw [hdated.published]
      exact forall_greatestBeginning_iff.mp h.beginnings
    · exact (hwarned resolution hissuer).mpr (forall_leastExpiry_iff.mp h.boundary)

/-- **INSTANTS**: a materialized entry has its window when the texts of its
    sources rank as their instants do, and only then; and the expiry that the
    cache combines of an issuer and a policy is the earlier instant of the two
    when the lesser text is, and only then. -/
theorem window_iff {report : VerifierCacheMaterializationReport} {now : Int}
    (hnow : input.materializedAt = some now)
    (hreads : dates.parse (host.toISOString now) = some now)
    (hreport : materializeVerifierCacheEntry host input = .ok report) :
    (Nonempty (SourceChain host input)
      ∧ ∀ chain : SourceChain host input,
        Windowed instant dates now report chain ↔ RankedAsInstants instant dates now chain)
    ∧ ∀ (reader : Reader) (issuer : IssuerProjection) (policy : DestinationPolicyProjection)
        (issuerHost : String),
      (∀ text ∈ [issuer.cacheExpiresAt, policy.cacheExpiresAt],
          NotAfter instant (materializeIssuer reader issuer policy issuerHost).cacheExpiresAt text)
        ↔ LeastIsEarliest instant [issuer.cacheExpiresAt, policy.cacheExpiresAt] := by
  refine ⟨⟨?_, windowed_iff instant dates hnow hreads hreport⟩, ?_⟩
  · obtain ⟨source, -⟩ := materialized_iff.mp hreport
    exact ⟨source⟩
  · intro reader issuer policy issuerHost
    have hleast := @forall_leastText_iff issuer.cacheExpiresAt [policy.cacheExpiresAt]
      (fun a => ∀ text ∈ [issuer.cacheExpiresAt, policy.cacheExpiresAt], NotAfter instant a text)
    exact hleast.symm

end Window

/-! ## The end of a day, in two time zones -/

/-- The dates of the chain, and its expiry's day in the next time zone. -/
def zonedInstant (text : String) : Option Int :=
  if text = "2027-01-01T00:30:00.000+01:00" then some 1798759800000 else demoTexts.instant text

/-- The date functions of the scanner. -/
def demoDateFunctions : DateFunctions where
  parse := zonedInstant
  toISOString := demoHost.toISOString

/-- The demo chain, materialized at a time. -/
def demoInputAt (now : Int) : VerifierCacheMaterializationInput :=
  { demoInput "art_status_1" "art_status_1" with materializedAt := some now }

/-- The times of the demo chain. -/
theorem demo_times {now : Int} (chain : SourceChain demoHost (demoInputAt now)) :
    chain.beginnings = List.replicate 5 "2026-05-15T00:00:00.000Z"
      ∧ chain.expiries = List.replicate 5 "2026-12-31T23:59:59.000Z" := by
  obtain ⟨reads, hreads, hvalue⟩ := demoReads
  have hsame : openReads demoHost (demoInputAt now)
      = openReads demoHost (demoInput "art_status_1" "art_status_1") := rfl
  rw [← hsame, chain.openReads_eq, hvalue] at hreads
  have hreads' := Option.some.inj hreads
  exact ⟨congrArg (fun reads => reads.2.1) hreads', congrArg (fun reads => reads.2.2) hreads'⟩

/-- Two times at which the demo chain is materialized without a warning. -/
def unwarnedTimes : {times : List Int // times = [1782864000000, 1798761599000]
    ∧ ∀ now ∈ times, warningsOf demoHost (demoInputAt now) = some []} :=
  ⟨_, rfl, by decide +kernel⟩

theorem demoInputAt_report {now : Int} (h : now ∈ ([1782864000000, 1798761599000] : List Int)) :
    ∃ report, materializeVerifierCacheEntry demoHost (demoInputAt now) = .ok report := by
  obtain ⟨times, htimes, hall⟩ := unwarnedTimes
  rw [← htimes] at h
  exact (exists_report (hall now h)).imp fun _ h => h.1

/-- The demo chain ranks as its instants do when the end of its day is less than
    the time of its materialization and no later instant, or neither. -/
theorem demo_ranked_iff {now : Int} (chain : SourceChain demoHost (demoInputAt now)) :
    RankedAsInstants zonedInstant demoDateFunctions now chain
      ↔ (less "2026-12-31T23:59:59.000Z" (demoHost.toISOString now) = true
          ↔ ∃ t, zonedInstant "2026-12-31T23:59:59.000Z" = some t ∧ t ≤ now) := by
  obtain ⟨hbeginnings, hexpiries⟩ := demo_times chain
  have hsame : ∀ {x a b : String}, a ∈ List.replicate 5 x → b ∈ List.replicate 5 x →
      NotAfter zonedInstant a b := by
    intro x a b ha hb s t hs ht
    rw [List.eq_of_mem_replicate ha] at hs
    rw [List.eq_of_mem_replicate hb, hs] at ht
    exact le_of_eq (Option.some.inj ht)
  constructor
  · intro h
    refine h.boundary _ ?_
    rw [hexpiries]
    refine ⟨List.mem_replicate.mpr ⟨by decide, rfl⟩, fun b hb => ?_⟩
    rw [List.eq_of_mem_replicate hb]
    exact strictWeak_less.irrefl _
  · intro h
    refine ⟨fun a ha b hb => ?_, fun a ha b hb => ?_, fun a ha => ?_⟩
    · have hmem := ha.1
      rw [hexpiries] at hmem hb
      exact hsame hmem hb
    · have hmem := ha.1
      rw [hbeginnings] at hmem hb
      exact hsame hb hmem
    · have hmem := ha.1
      rw [hexpiries] at hmem
      rw [List.eq_of_mem_replicate hmem]
      exact h

/-- In the middle of its year, the entry of the demo chain has its window. -/
theorem window_iff_midyear :
    ∃ report, materializeVerifierCacheEntry demoHost (demoInputAt 1782864000000) = .ok report
      ∧ ∀ chain : SourceChain demoHost (demoInputAt 1782864000000),
        Windowed zonedInstant demoDateFunctions 1782864000000 report chain := by
  obtain ⟨report, hreport⟩ := demoInputAt_report (List.mem_cons_self ..)
  refine ⟨report, hreport, fun chain => ?_⟩
  refine ((window_iff zonedInstant demoDateFunctions rfl (by decide +kernel) hreport).1.2
    chain).mpr ((demo_ranked_iff chain).mpr ?_)
  decide +kernel

/-- At the end of its day, the entry is materialized without a warning and the
    scanner finds it expired; and of an issuer whose expiry is written in the
    next time zone and a policy that expires half an hour later, the cache takes
    the later expiry. -/
theorem expiry_missed :
    (∃ report, materializeVerifierCacheEntry demoHost (demoInputAt 1798761599000) = .ok report
      ∧ ∀ chain : SourceChain demoHost (demoInputAt 1798761599000),
        ¬ Windowed zonedInstant demoDateFunctions 1798761599000 report chain)
    ∧ ∀ (reader : Reader) (issuer : IssuerProjection) (policy : DestinationPolicyProjection)
        (issuerHost : String),
      issuer.cacheExpiresAt = "2027-01-01T00:30:00.000+01:00" →
      policy.cacheExpiresAt = "2026-12-31T23:59:59.000Z" →
      ¬ ∀ text ∈ [issuer.cacheExpiresAt, policy.cacheExpiresAt],
        NotAfter zonedInstant (materializeIssuer reader issuer policy issuerHost).cacheExpiresAt
          text := by
  constructor
  · obtain ⟨report, hreport⟩ :=
      demoInputAt_report (List.mem_cons_of_mem _ (List.mem_singleton_self _))
    refine ⟨report, hreport, fun chain hwindow => ?_⟩
    have hranked := (windowed_iff zonedInstant demoDateFunctions rfl (by decide +kernel) hreport
      chain).mp hwindow
    exact absurd ((demo_ranked_iff chain).mp hranked) (by decide +kernel)
  · intro reader issuer policy issuerHost hissuer hpolicy hall
    have hexpiry : (materializeIssuer reader issuer policy issuerHost).cacheExpiresAt
        = "2026-12-31T23:59:59.000Z" := by
      have hless : less "2026-12-31T23:59:59.000Z" "2027-01-01T00:30:00.000+01:00" = true := by
        decide +kernel
      show minIsoDate issuer.cacheExpiresAt policy.cacheExpiresAt = _
      rw [hissuer, hpolicy, minIsoDate, if_pos hless]
    rw [hexpiry, hissuer] at hall
    have hle := hall _ (List.mem_cons_self ..) 1798761599000 1798759800000 (by decide +kernel)
      (by decide +kernel)
    exact absurd hle (by decide)

end CacheMaterialization
