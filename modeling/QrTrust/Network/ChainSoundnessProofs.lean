import QrTrust.Network.CacheMaterializationProofs

/-! # When a materialized chain is sound

    A materialization without a warning has checked the namespaces, three of the
    four references and all statuses of the chain.  It has not compared the
    record's status event reference with the event, it has not compared any
    publication time with the materialization time, and it has compared the
    expiries as texts, where a text equal to the materialization time still
    passes. -/

namespace JsString

/-- The code units of a text. -/
def units (s : String) : List Nat := s.toList.flatMap codeUnits

theorem less_iff {a b : String} : less a b = true ↔ units a < units b :=
  List.lex_eq_true_iff_lt

end JsString

namespace CacheMaterialization

open VerifierCache ArtifactPublication Fallible
open JsString (less units less_iff)

variable {host : MaterializationHost} {input : VerifierCacheMaterializationInput}

/-! ## The earliest expiry -/

/-- The earliest text is below every text of the list. -/
theorem units_earliestIso_le {first : String} {rest : List String} {text : String}
    (h : text ∈ first :: rest) : units (earliestIso first rest) ≤ units text := by
  induction rest generalizing first text with
  | nil =>
      obtain rfl := List.mem_singleton.mp h
      exact le_refl _
  | cons date rest ih =>
      show units (earliestIso (if less date first = true then date else first) rest) ≤ _
      -- the smaller of the first two stands for both
      by_cases hless : less date first = true
      · rw [if_pos hless]
        rcases List.mem_cons.mp h with heq | hmem
        · rw [heq]
          exact le_trans (ih (List.mem_cons_self ..)) (le_of_lt (less_iff.mp hless))
        · exact ih hmem
      · rw [if_neg hless]
        rcases List.mem_cons.mp h with heq | hmem
        · rw [heq]
          exact ih (List.mem_cons_self ..)
        · rcases List.mem_cons.mp hmem with heq | hrest
          · have hle : units first ≤ units date := not_lt.mp fun hlt => hless (less_iff.mpr hlt)
            rw [heq]
            exact le_trans (ih (List.mem_cons_self ..)) hle
          · exact ih (List.mem_cons_of_mem _ hrest)

/-- Without a warning, no expiry comes before the materialization as a text. -/
theorem not_less_of_no_warning {chain : SourceChain host input} {materializedAt text : String}
    (h : materializationWarnings materializedAt chain.cacheExpiresAt = [])
    (hmem : text ∈ chain.expiries) : less text materializedAt = false := by
  have hearliest : less chain.cacheExpiresAt materializedAt = false := by
    rw [Bool.eq_false_iff]
    intro hless
    rw [materializationWarnings, if_pos hless] at h
    exact List.cons_ne_nil _ _ h
  rw [Bool.eq_false_iff]
  intro hless
  have hlt : units chain.cacheExpiresAt < units materializedAt :=
    lt_of_le_of_lt (units_earliestIso_le hmem) (less_iff.mp hless)
  rw [less_iff.mpr hlt] at hearliest
  cases hearliest

/-! ## Instants -/

/-- The texts of instants: `Date.parse` reads back what `toISOString` writes, and
    within the years of four digits the order of these texts is that of the
    instants. -/
structure IsoTexts (host : MaterializationHost) where
  /-- `Date.parse(text)`; `none` where it is not a number. -/
  instant : String → Option Int
  /-- an instant of the years 0 to 9999 -/
  FourDigitYear : Int → Prop
  reads : ∀ t, FourDigitYear t → instant (host.toISOString t) = some t
  ordered : ∀ s t, FourDigitYear s → FourDigitYear t →
    (less (host.toISOString s) (host.toISOString t) = true ↔ s < t)

variable (texts : IsoTexts host)

/-- An expiry that the order of texts compares with an instant as the order of
    instants does. -/
def Comparable (now : Int) (expiry : String) : Prop :=
  texts.FourDigitYear now ∧ ∃ t, texts.FourDigitYear t ∧ expiry = host.toISOString t

/-- A comparable expiry that does not come before an instant as a text is not
    earlier than it. -/
theorem le_of_comparable {now : Int} {expiry : String} (h : Comparable texts now expiry)
    (hless : less expiry (host.toISOString now) = false) :
    ∃ t, texts.instant expiry = some t ∧ now ≤ t := by
  obtain ⟨hnow, t, ht, rfl⟩ := h
  refine ⟨t, texts.reads t ht, Int.not_lt.mp fun hlt => ?_⟩
  rw [(texts.ordered t now ht hnow).mpr hlt] at hless
  cases hless

namespace SourceChain

/-- One chain of trust at an instant: the five artifacts name one root program,
    authority and issuer, each refers to the next one supplied, every status is
    active, every source has begun, and none has expired. -/
structure Sound (now : Int) (chain : SourceChain host input) : Prop where
  oneNamespace :
    OneNamespace chain.root chain.authority chain.record chain.policy chain.event
  eventIssuer : chain.event.target.issuerId = some chain.record.issuerNamespace.issuerId
  delegates :
    Delegates chain.root chain.authority input.delegatedAuthorityManifest.artifactId
  enrolls : Enrolls chain.authority chain.record input.issuerRecord.artifactId
  references : References chain.record chain.policy input.destinationPolicy.artifactId
  statusEvent : chain.record.status.statusEventRef = input.statusEvent.artifactId
  issuerActive : chain.record.status.issuerStatus = .active
  certificateActive : chain.record.status.certificateStatus = .active
  eventActive : chain.event.status = .active
  begun : ∀ text ∈ chain.beginnings, ∃ t, texts.instant text = some t ∧ t ≤ now
  unexpired : ∀ text ∈ chain.expiries, ∃ t, texts.instant text = some t ∧ now < t

/-- What the checks leave open: the record refers to the supplied status event,
    every source has begun, and an expiry that the text order can compare is not
    the materialization time itself, while any other is a later instant. -/
structure LeftOpen (now : Int) (chain : SourceChain host input) : Prop where
  statusEvent : chain.record.status.statusEventRef = input.statusEvent.artifactId
  begun : ∀ text ∈ chain.beginnings, ∃ t, texts.instant text = some t ∧ t ≤ now
  notEqual : ∀ text ∈ chain.expiries, Comparable texts now text →
    text ≠ host.toISOString now
  later : ∀ text ∈ chain.expiries, ¬ Comparable texts now text →
    ∃ t, texts.instant text = some t ∧ now < t

/-- The artifacts of an input decode in one way only. -/
theorem eq_of_decoded (chain other : SourceChain host input) : chain = other := by
  obtain ⟨r, a, i, p, s, hr, ha, hi, hp, hs⟩ := chain
  obtain ⟨r', a', i', p', s', hr', ha', hi', hp', hs'⟩ := other
  obtain rfl := Except.ok.inj (hr.symm.trans hr')
  obtain rfl := Except.ok.inj (ha.symm.trans ha')
  obtain rfl := Except.ok.inj (hi.symm.trans hi')
  obtain rfl := Except.ok.inj (hp.symm.trans hp')
  obtain rfl := Except.ok.inj (hs.symm.trans hs')
  rfl

/-- A chain whose checks passed, at a time no expiry text comes before, is sound
    exactly when what the checks leave open holds too. -/
theorem sound_iff {now : Int} {chain : SourceChain host input} (hchecked : chain.Checked)
    (hless : ∀ text ∈ chain.expiries, less text (host.toISOString now) = false) :
    chain.Sound texts now ↔ chain.LeftOpen texts now := by
  constructor
  · intro h
    refine ⟨h.statusEvent, h.begun, ?_, fun text hmem _ => h.unexpired text hmem⟩
    rintro text hmem ⟨hnow, -⟩ rfl
    obtain ⟨t, ht, hlt⟩ := h.unexpired _ hmem
    obtain rfl := Option.some.inj ((texts.reads now hnow).symm.trans ht)
    exact Int.lt_irrefl _ hlt
  · intro h
    refine ⟨hchecked.oneNamespace, hchecked.speaksFor.issuer, hchecked.delegates,
      hchecked.enrolls, hchecked.references, h.statusEvent, hchecked.issuerActive,
      hchecked.certificateActive, hchecked.speaksFor.active, h.begun, ?_⟩
    intro text hmem
    by_cases hcomp : Comparable texts now text
    · obtain ⟨t, ht, hle⟩ := le_of_comparable texts hcomp (hless text hmem)
      refine ⟨t, ht, Int.lt_iff_le_and_ne.mpr ⟨hle, ?_⟩⟩
      -- at the same instant the text would be the materialization time
      rintro rfl
      obtain ⟨-, t', hyear, rfl⟩ := hcomp
      obtain rfl := Option.some.inj ((texts.reads t' hyear).symm.trans ht)
      exact h.notEqual _ hmem ⟨hyear, t', hyear, rfl⟩ rfl
    · exact h.later text hmem hcomp

end SourceChain

/-- **SOUNDNESS**: an entry materialized without a warning comes from a sound
    chain exactly when the record refers to the supplied status event, every
    source has begun, and no expiry is the materialization time itself or, in
    another format than `toISOString` writes, an instant that has passed. -/
theorem materialization_sound_iff {report : VerifierCacheMaterializationReport} {now : Int}
    (hnow : input.materializedAt = some now)
    (hreport : materializeVerifierCacheEntry host input = .ok report)
    (hwarnings : report.materializationWarnings = []) :
    Nonempty (SourceChain host input)
      ∧ ∀ chain : SourceChain host input,
        chain.Sound texts now ↔ chain.LeftOpen texts now := by
  obtain ⟨source, certificateRef, t, hchecked, -, ht, rfl⟩ := materialized_iff.mp hreport
  obtain rfl := Option.some.inj (hnow.symm.trans ht)
  refine ⟨⟨source⟩, fun chain => ?_⟩
  obtain rfl := chain.eq_of_decoded source
  exact SourceChain.sound_iff texts hchecked fun text hmem =>
    not_less_of_no_warning hwarnings hmem

/-! ## A chain -/

/-- The dates of the chain below and the time it is materialized at. -/
def demoDates : List (Int × String) :=
  [(1778803200000, "2026-05-15T00:00:00.000Z"), (1782864000000, "2026-07-01T00:00:00.000Z"),
    (1798761599000, "2026-12-31T23:59:59.000Z")]

/-- A host that knows these dates and one URL. -/
def demoHost : MaterializationHost where
  js :=
    { parseUrl := fun value =>
        if value = "https://acme.example/pay" then
          some ⟨value, "https:", "", "", "acme.example", "/pay", []⟩
        else none
      toLowerCase := id
      toISOString := some
      hashJson := fun _ => "4dd4b6cbe3bbf3f4" }
  stringOf value := (value.bind JsonValue.asString).getD "undefined"
  toISOString t := ((demoDates.find? fun date => date.1 = t).map Prod.snd).getD ""

/-- The instants of these dates. -/
def demoTexts : IsoTexts demoHost where
  instant text := (demoDates.find? fun date => date.2 = text).map Prod.fst
  FourDigitYear t := t ∈ demoDates.map Prod.fst
  reads := by decide +kernel
  ordered := by
    have h : ∀ s ∈ demoDates.map Prod.fst, ∀ t ∈ demoDates.map Prod.fst,
        (less (demoHost.toISOString s) (demoHost.toISOString t) = true ↔ s < t) := by
      decide +kernel
    exact fun s t hs ht => h s hs t ht

/-- What is left open of an input, as its artifacts decode. -/
def openReads (host : MaterializationHost) (input : VerifierCacheMaterializationInput) :
    Option (String × List String × List String) := do
  let root ← (rootManifestBody host input.rootManifest).toOption
  let authority ← (delegatedAuthorityBody host input.delegatedAuthorityManifest).toOption
  let record ← (issuerRecordBody host input.issuerRecord).toOption
  let policy ← (destinationPolicyBody host input.destinationPolicy).toOption
  let event ← (statusEventBody host input.statusEvent).toOption
  return (record.status.statusEventRef,
    root.publication.publishedAt :: publishedTimes authority record policy event,
    root.publication.validUntil :: expiryTimes authority record policy event)

theorem SourceChain.openReads_eq (chain : SourceChain host input) :
    openReads host input
      = some (chain.record.status.statusEventRef, chain.beginnings, chain.expiries) := by
  rw [openReads, chain.rootDecoded, chain.authorityDecoded, chain.recordDecoded,
    chain.policyDecoded, chain.eventDecoded]
  rfl

/-- The warnings of a materialization that succeeds. -/
def warningsOf (host : MaterializationHost) (input : VerifierCacheMaterializationInput) :
    Option (List String) :=
  (materializeVerifierCacheEntry host input).toOption.map fun report =>
    report.materializationWarnings

theorem exists_report {warnings : List String} (h : warningsOf host input = some warnings) :
    ∃ report, materializeVerifierCacheEntry host input = .ok report
      ∧ report.materializationWarnings = warnings := by
  obtain ⟨report, hreport, hwarnings⟩ := Option.map_eq_some_iff.mp h
  exact ⟨report, toOption_eq_some_iff.mp hreport, hwarnings⟩

/-- A publication in the year of the chain. -/
def demoPublication : JsonValue :=
  .obj [("valid_until", .str "2026-12-31T23:59:59.000Z"),
    ("published_at", .str "2026-05-15T00:00:00.000Z")]

/-- An artifact with a body. -/
def demoArtifact (artifactId : String) (body : List (String × JsonValue)) : SignedArtifact :=
  ⟨artifactId, artifactId ++ ":hash", "", 1, .obj body⟩

/-- A chain whose issuer record refers to a status event, and an active event
    under an id. -/
def demoInput (statusEventRef statusEventId : String) :
    VerifierCacheMaterializationInput where
  rootManifest := demoArtifact "art_root"
    [("publication", demoPublication), ("artifact_type", .str "root_manifest"),
      ("root_program_id", .str "root:demo"),
      ("delegated_authorities", .arr [.obj
        [("status", .str "active"), ("manifest_ref", .str "art_authority"),
          ("delegated_authority_id", .str "authority:demo")]])]
  delegatedAuthorityManifest := demoArtifact "art_authority"
    [("publication", demoPublication),
      ("artifact_type", .str "delegated_authority_manifest"),
      ("root_program_id", .str "root:demo"),
      ("enrolled_issuers", .arr [.obj
        [("status", .str "active"), ("issuer_id", .str "issuer:acme"),
          ("assurance_tier", .str "verified_business"),
          ("issuer_record_ref", .str "art_issuer")]]),
      ("delegated_authority_id", .str "authority:demo")]
  issuerRecord := demoArtifact "art_issuer"
    [("status", .obj
        [("issuer_status", .str "active"), ("status_event_ref", .str statusEventRef),
          ("certificate_status", .str "active")]),
      ("publication", demoPublication), ("artifact_type", .str "issuer_record"),
      ("assurance_tier", .str "verified_business"),
      ("certificate_refs", .arr [.str "cert:acme"]),
      ("issuer_namespace", .obj
        [("issuer_id", .str "issuer:acme"), ("root_program_id", .str "root:demo"),
          ("delegated_authority_id", .str "authority:demo")]),
      ("issuer_display_name", .str "Acme Demo Issuer"),
      ("destination_policies", .arr [.obj
        [("status", .str "active"), ("policy_ref", .str "art_policy"),
          ("destination_policy_id", .str "policy:acme")]])]
  destinationPolicy := demoArtifact "art_policy"
    [("issuer_id", .str "issuer:acme"), ("publication", demoPublication),
      ("artifact_type", .str "destination_policy"),
      ("redirect_policy", .obj
        [("resolver_urls", .arr []), ("max_redirect_hops", .num 1),
          ("allowed_redirect_hosts", .arr [.str "acme.example"]),
          ("nested_shorteners_allowed", .bool false),
          ("expected_final_destinations", .arr [.str "https://acme.example/pay"]),
          ("scanner_must_display_resolver_and_final_destination", .bool true)]),
      ("root_program_id", .str "root:demo"),
      ("approved_destinations", .arr [.obj
        [("query_policy", .str "none"), ("allowed_hosts", .arr [.str "acme.example"]),
          ("path_prefixes", .arr [.str "/pay"]), ("destination_id", .str "dest:acme"),
          ("allow_subdomains", .bool false),
          ("expected_final_url", .str "https://acme.example/pay")]]),
      ("destination_policy_id", .str "policy:acme"),
      ("runtime_safety_policy", .obj
        [("provider", .str "fixture"), ("stale_behavior", .str "downgrade_or_block"),
          ("verdict_ttl_seconds", .num 3600),
          ("unavailable_behavior", .str "downgrade_to_caution")]),
      ("delegated_authority_id", .str "authority:demo")]
  statusEvent := demoArtifact statusEventId
    [("status", .str "active"),
      ("target", .obj
        [("issuer_id", .str "issuer:acme"), ("target_type", .str "issuer_record"),
          ("certificate_ref", .str "cert:acme")]),
      ("expires_at", .str "2026-12-31T23:59:59.000Z"),
      ("effective_at", .str "2026-05-15T00:00:00.000Z"),
      ("artifact_type", .str "revocation_status_event"),
      ("root_program_id", .str "root:demo"),
      ("delegated_authority_id", .str "authority:demo")]
  materializedAt := some 1782864000000
  maxStalenessSeconds := none
  staleBehavior := none

/-- The chain with its own status event and the one with another: neither leaves a
    warning. -/
def unwarnedInputs : {inputs : List VerifierCacheMaterializationInput //
    inputs = [demoInput "art_status_1" "art_status_1", demoInput "art_status_2" "art_status_1"]
      ∧ ∀ input ∈ inputs, warningsOf demoHost input = some []} :=
  ⟨_, rfl, by decide +kernel⟩

theorem demoInput_unwarned {ref : String} (h : ref ∈ ["art_status_1", "art_status_2"]) :
    warningsOf demoHost (demoInput ref "art_status_1") = some [] := by
  obtain ⟨inputs, hinputs, hall⟩ := unwarnedInputs
  rw [hinputs] at hall
  rcases List.mem_cons.mp h with rfl | h
  · exact hall _ (List.mem_cons_self ..)
  · rw [List.mem_singleton.mp h]
    exact hall _ (List.mem_cons_of_mem _ (List.mem_singleton_self _))

/-- What is read of the demo chain: its status event, and its times. -/
def demoReads : {reads : String × List String × List String //
    openReads demoHost (demoInput "art_status_1" "art_status_1") = some reads
      ∧ reads = ("art_status_1", List.replicate 5 "2026-05-15T00:00:00.000Z",
        List.replicate 5 "2026-12-31T23:59:59.000Z")} :=
  ⟨("art_status_1", List.replicate 5 "2026-05-15T00:00:00.000Z",
    List.replicate 5 "2026-12-31T23:59:59.000Z"), by decide +kernel, rfl⟩

/-- The chain with its own status event is sound. -/
theorem demo_chain_sound :
    Nonempty (SourceChain demoHost (demoInput "art_status_1" "art_status_1"))
      ∧ ∀ chain : SourceChain demoHost (demoInput "art_status_1" "art_status_1"),
        chain.Sound demoTexts 1782864000000 := by
  obtain ⟨report, hreport, hwarnings⟩ := exists_report
    (demoInput_unwarned (List.mem_cons_self ..))
  obtain ⟨hchain, hiff⟩ := materialization_sound_iff demoTexts rfl hreport hwarnings
  refine ⟨hchain, fun chain => (hiff chain).mpr ?_⟩
  obtain ⟨reads, hreads, hvalue⟩ := demoReads
  rw [chain.openReads_eq, hvalue] at hreads
  obtain ⟨hevent, hbegun, hexpires⟩ : chain.record.status.statusEventRef = "art_status_1"
      ∧ chain.beginnings = List.replicate 5 "2026-05-15T00:00:00.000Z"
      ∧ chain.expiries = List.replicate 5 "2026-12-31T23:59:59.000Z" := by
    simpa only [Option.some.injEq, Prod.mk.injEq] using hreads
  have hyear : (1782864000000 : Int) ∈ demoDates.map Prod.fst := by decide
  have hend : (1798761599000 : Int) ∈ demoDates.map Prod.fst := by decide
  refine ⟨hevent, ?_, ?_, ?_⟩
  · intro text hmem
    rw [hbegun] at hmem
    rw [List.eq_of_mem_replicate hmem]
    exact ⟨1778803200000, by decide +kernel, by decide⟩
  · intro text hmem _
    rw [hexpires] at hmem
    rw [List.eq_of_mem_replicate hmem]
    decide +kernel
  · intro text hmem hcomparable
    rw [hexpires] at hmem
    refine absurd ⟨hyear, 1798761599000, hend, ?_⟩ hcomparable
    rw [List.eq_of_mem_replicate hmem]
    decide +kernel

/-- A record that refers to its second status event is materialized, without a
    warning, from the first. -/
theorem superseded_status_event_materialized :
    ∃ report, materializeVerifierCacheEntry demoHost
        (demoInput "art_status_2" "art_status_1") = .ok report
      ∧ report.materializationWarnings = []
      ∧ ∀ chain : SourceChain demoHost (demoInput "art_status_2" "art_status_1"),
        ¬ chain.Sound demoTexts 1782864000000 := by
  obtain ⟨report, hreport, hwarnings⟩ := exists_report
    (demoInput_unwarned (List.mem_cons_of_mem _ (List.mem_singleton_self _)))
  refine ⟨report, hreport, hwarnings, fun chain hsound => ?_⟩
  have h : ((openReads demoHost (demoInput "art_status_2" "art_status_1")).map Prod.fst)
      = some "art_status_2" := by decide +kernel
  rw [chain.openReads_eq] at h
  have href : chain.record.status.statusEventRef = "art_status_2" := Option.some.inj h
  have hne : ("art_status_2" : String) ≠ "art_status_1" := by decide
  exact hne (href.symm.trans hsound.statusEvent)

end CacheMaterialization
