import QrTrust.Network.CacheHoldingsProofs
import QrTrust.Network.ScannerDecision

/-! # What a green decision vouches for

    A green decision went through every arm: a policy of an accepted root and an
    active authority context was found, a record stood under its key, the
    destination was bound, the entry was fresh, and the provider reported clear.
    `decide_green` reads that off the code.  It says what the claims of a green
    QR need (`green_sound`) as long as the joined texts tell the ids apart, the
    dates compare as texts as they do in time, and the provider looks at the
    present: the code reads the status of a runtime verdict and not the instant
    it observed. -/

namespace GreenDecisions

open VerifierCache RuntimeSafety ScannerDecisions CacheHoldings TrustFact

variable {service : ScannerDecisionService} {dates : DateFunctions} {held : Holdings}
  {cache : Cache} {input : ScannerDecisionInput} {decision : ScannerDecision}
  {randomUUID : String} {maxAge t : Int}

/-! ## Dates -/

/-- The instant lies in the window: generated by then, and not expired. -/
def Within (dates : DateFunctions) (generatedAt expiresAt : String) (t : Int) : Prop :=
  ∃ generated expires, dates.parse generatedAt = some generated
    ∧ dates.parse expiresAt = some expires ∧ generated ≤ t ∧ t < expires

/-- Fresh means within the window of the entry. -/
theorem fresh_iff {resolution : DestinationResolution} :
    cacheFreshnessStatus dates resolution t = .fresh ↔
      Within dates resolution.issuer.cacheGeneratedAt resolution.issuer.cacheExpiresAt t := by
  rw [cacheFreshnessStatus]
  constructor
  · intro h
    cases hexpires : dates.parse resolution.issuer.cacheExpiresAt with
    | none =>
        rw [hexpires] at h
        cases h
    | some expires =>
        cases hgenerated : dates.parse resolution.issuer.cacheGeneratedAt with
        | none =>
            rw [hexpires, hgenerated] at h
            cases h
        | some generated =>
            rw [hexpires, hgenerated] at h
            dsimp only at h
            split at h
            · cases h
            split at h
            · cases h
            exact ⟨generated, expires, hgenerated, hexpires, by omega, by omega⟩
  · rintro ⟨generated, expires, hgenerated, hexpires, hstarted, hrunning⟩
    rw [hexpires, hgenerated]
    dsimp only
    rw [if_neg (by omega), if_neg (by omega)]

/-- **IN STEP**: both texts are dates, and their order as texts is their order in time. -/
def InStep (dates : DateFunctions) (first second : String) : Prop :=
  ∃ s t, dates.parse first = some s ∧ dates.parse second = some t
    ∧ (JsString.less first second = true → s ≤ t)
    ∧ (JsString.less first second = false → t ≤ s)

/-- The later of two dates in step has both behind it. -/
theorem InStep.of_max {first second : String} (h : InStep dates first second) {latest : Int}
    (hlatest : dates.parse (maxIsoDate first second) = some latest) :
    ∃ s t, dates.parse first = some s ∧ dates.parse second = some t ∧ s ≤ latest ∧ t ≤ latest := by
  obtain ⟨s, t, hfirst, hsecond, hless, hnot⟩ := h
  refine ⟨s, t, hfirst, hsecond, ?_⟩
  rw [maxIsoDate] at hlatest
  cases horder : JsString.less first second with
  | true =>
      rw [horder, if_pos rfl, hsecond] at hlatest
      obtain rfl := Option.some.inj hlatest
      exact ⟨hless horder, le_refl _⟩
  | false =>
      rw [horder, if_neg Bool.false_ne_true, hfirst] at hlatest
      obtain rfl := Option.some.inj hlatest
      exact ⟨le_refl _, hnot horder⟩

/-- The earlier of two dates in step has both ahead of it. -/
theorem InStep.of_min {first second : String} (h : InStep dates second first) {earliest : Int}
    (hearliest : dates.parse (minIsoDate first second) = some earliest) :
    ∃ s t, dates.parse first = some s ∧ dates.parse second = some t
      ∧ earliest ≤ s ∧ earliest ≤ t := by
  obtain ⟨t, s, hsecond, hfirst, hless, hnot⟩ := h
  refine ⟨s, t, hfirst, hsecond, ?_⟩
  rw [minIsoDate] at hearliest
  cases horder : JsString.less second first with
  | true =>
      rw [horder, if_pos rfl, hsecond] at hearliest
      obtain rfl := Option.some.inj hearliest
      exact ⟨hless horder, le_refl _⟩
  | false =>
      rw [horder, if_neg Bool.false_ne_true, hfirst] at hearliest
      obtain rfl := Option.some.inj hearliest
      exact ⟨le_refl _, hnot horder⟩

/-- What the entry is within, its record and its policy are within. -/
theorem within_halves {issuer : IssuerProjection} {policy : DestinationPolicyProjection}
    (hgenerated : InStep dates issuer.cacheGeneratedAt policy.cacheGeneratedAt)
    (hexpires : InStep dates policy.cacheExpiresAt issuer.cacheExpiresAt)
    (h : Within dates (maxIsoDate issuer.cacheGeneratedAt policy.cacheGeneratedAt)
      (minIsoDate issuer.cacheExpiresAt policy.cacheExpiresAt) t) :
    Within dates issuer.cacheGeneratedAt issuer.cacheExpiresAt t
      ∧ Within dates policy.cacheGeneratedAt policy.cacheExpiresAt t := by
  obtain ⟨latest, earliest, hlatest, hearliest, hstarted, hrunning⟩ := h
  obtain ⟨s, s', hs, hs', hsle, hsle'⟩ := hgenerated.of_max hlatest
  obtain ⟨e, e', he, he', hele, hele'⟩ := hexpires.of_min hearliest
  exact ⟨⟨s, e, hs, he, by omega, by omega⟩, ⟨s', e', hs', he', by omega, by omega⟩⟩

/-- **PRESENT**: the verdict was observed by the instant, and not too long before. -/
def Present (dates : DateFunctions) (maxAge t : Int) (verdict : RuntimeSafetyVerdict) : Prop :=
  ∃ observed, dates.parse verdict.observedAt = some observed ∧ observed ≤ t ∧ t - observed ≤ maxAge

/-- A verdict stamped with the instant of the scan is present. -/
theorem present_of_stamped {verdict : RuntimeSafetyVerdict} (hage : 0 ≤ maxAge)
    (hreads : dates.parse (dates.toISOString t) = some t)
    (hstamped : verdict.observedAt = dates.toISOString t) : Present dates maxAge t verdict :=
  ⟨t, hstamped ▸ hreads, le_refl t, by omega⟩

/-- The clear provider and every composite one look at the scan. -/
theorem providers_present (hage : 0 ≤ maxAge)
    (hreads : dates.parse (dates.toISOString t) = some t) {runtimeInput : RuntimeSafetyInput}
    (hat : runtimeInput.observedAt = t) (options : CompositeRuntimeSafetyOptions) :
    Present dates maxAge t
        ((makeClearRuntimeSafetyProvider dates.toISOString).inspect runtimeInput)
      ∧ Present dates maxAge t
        ((makeCompositeRuntimeSafetyProvider dates.toISOString options).inspect runtimeInput) := by
  subst hat
  exact ⟨present_of_stamped hage hreads (clear_observed runtimeInput),
    present_of_stamped hage hreads (composite_observed options runtimeInput)⟩

/-! ## The arms -/

/-- Of the decisions on a verdict, the one on a clear verdict is green. -/
theorem runtimeAware_green {destination : Destination} {resolution : DestinationResolution}
    {verdict : RuntimeSafetyVerdict}
    (h : (makeRuntimeAwareBoundDecision dates randomUUID input destination resolution
      verdict).decisionColor = .green) :
    verdict.status = .clear
      ∧ makeRuntimeAwareBoundDecision dates randomUUID input destination resolution verdict
        = makeGreenDecision dates randomUUID input destination resolution verdict := by
  rw [makeRuntimeAwareBoundDecision] at h ⊢
  cases hstatus : verdict.status with
  | clear =>
      rw [if_neg (by simp), if_neg (by simp)]
      exact ⟨rfl, rfl⟩
  | risky =>
      rw [hstatus, if_neg (by simp), if_pos (.inl rfl)] at h
      cases h
  | blocked =>
      rw [hstatus, if_pos rfl] at h
      cases h
  | unavailable =>
      rw [hstatus, if_neg (by simp), if_pos (.inr rfl)] at h
      cases h

/-- The destination of the answer: the policy and the record that it is about. -/
def answerOf (service : ScannerDecisionService) (input : ScannerDecisionInput) (url : Url)
    (record : IssuerProjection) (policy : DestinationPolicyProjection) : DestinationResolution :=
  resolveDestination service.reader record policy url
    (service.reader.js.toLowerCase (input.issuerHintHost.getD url.hostname))

/-- **EVERY ARM**: what the code has checked when a decision is green. -/
structure Checked (service : ScannerDecisionService) (cache : Cache) (input : ScannerDecisionInput)
    (decision : ScannerDecision) (url : Url) (record : IssuerProjection)
    (policy : DestinationPolicyProjection) : Prop where
  parsed : service.reader.js.parseUrl input.payload = some url
  matched : resolveByDestination service.reader cache url input.issuerHintHost
    = some (answerOf service input url record policy)
  policyHeld : policy ∈ cache.policiesByKey.values
  rootAccepted : service.reader.acceptsRoot policy.ns.rootProgramId = true
  context : hasAuthorityContext cache policy.ns = true
  recordHeld : cache.issuersByPolicyKey.get? policy.policyKey = some record
  bound : (answerOf service input url record policy).bindingStatus = .bound
  fresh : cacheFreshnessStatus service.dates (answerOf service input url record policy)
    input.observedAt = .fresh
  clear : (service.runtimeSafety.inspect
    (runtimeInput input url (answerOf service input url record policy))).status = .clear
  governance : decision.governance = some (governanceOf (answerOf service input url record policy))

/-- A decision that is made was made of the resolution, whether or not it is published. -/
theorem decide_eq_ok (h : decide service cache randomUUID input = .ok decision) :
    ∃ url, service.reader.js.parseUrl input.payload = some url
      ∧ decision = makeDecisionFromResolution service.dates service.runtimeSafety randomUUID input
        url (destinationFromUrl service.reader.js url)
        (resolveByDestination service.reader cache url input.issuerHintHost) := by
  rw [ScannerDecisions.decide] at h
  cases hurl : service.reader.js.parseUrl input.payload with
  | none =>
      rw [hurl] at h
      cases h
  | some url =>
      refine ⟨url, rfl, ?_⟩
      rw [hurl] at h
      dsimp only at h
      split at h
      · exact (Except.ok.inj h).symm
      · rename_i governance _
        cases hpublished : service.publish (decisionEvent service
            (makeDecisionFromResolution service.dates service.runtimeSafety randomUUID input url
              (destinationFromUrl service.reader.js url)
              (resolveByDestination service.reader cache url input.issuerHintHost)) governance) with
        | error cause =>
            rw [hpublished] at h
            cases h
        | ok u =>
            rw [hpublished] at h
            exact (Except.ok.inj h).symm

/-- **GREEN**: a green decision went through every arm. -/
theorem decide_green (h : decide service cache randomUUID input = .ok decision)
    (hgreen : decision.decisionColor = .green) :
    ∃ url record policy, Checked service cache input decision url record policy := by
  obtain ⟨url, hurl, rfl⟩ := decide_eq_ok h
  cases hresolved : resolveByDestination service.reader cache url input.issuerHintHost with
  | none =>
      rw [hresolved] at hgreen
      cases hgreen
  | some resolution =>
      obtain ⟨⟨record, policy⟩, hfound, rfl⟩ := Option.map_eq_some_iff.mp hresolved
      obtain ⟨hpolicy, hrecord, hroot, hcontext, -⟩ := findPolicyMatch_mem hfound
      rw [hresolved, makeDecisionFromResolution] at hgreen
      split at hgreen
      · cases hgreen
      rename_i hbound
      dsimp only at hgreen
      split at hgreen
      · cases hgreen
      rename_i hfresh
      obtain ⟨hclear, heq⟩ := runtimeAware_green hgreen
      refine ⟨url, record, policy, hurl, hresolved, hpolicy, hroot, hcontext, hrecord,
        not_not.mp hbound, not_not.mp hfresh, hclear, ?_⟩
      rw [makeDecisionFromResolution, if_neg hbound]
      dsimp only
      rw [if_neg hfresh, heq]
      rfl

/-! ## Green over a run -/

/-- **VOUCHED FOR**: what a green decision at `t` should rest on, by ids. -/
structure Vouched (service : ScannerDecisionService) (held : Holdings) (cache : Cache)
    (maxAge : Int) (input : ScannerDecisionInput) (decision : ScannerDecision) (url : Url)
    (record : IssuerProjection) (policy : DestinationPolicyProjection) : Prop where
  parsed : service.reader.js.parseUrl input.payload = some url
  matched : resolveByDestination service.reader cache url input.issuerHintHost
    = some (answerOf service input url record policy)
  policyStands : held.policies ⟨policy.ns, policy.destinationPolicyId⟩ = some policy
  rootAccepted : service.reader.acceptsRoot policy.ns.rootProgramId = true
  authorityActive : ⟨policy.ns.rootProgramId, policy.ns.delegatedAuthorityId⟩ ∈ held.authorities
  issuerActive : policy.ns ∈ held.issuers
  recordStands : held.records ⟨policy.ns, policy.destinationPolicyId⟩ = some record
  recordOwn : record.ns = policy.ns ∧ record.destinationPolicyId = policy.destinationPolicyId
  bound : (answerOf service input url record policy).bindingStatus = .bound
  entryWithin : Within service.dates
    (answerOf service input url record policy).issuer.cacheGeneratedAt
    (answerOf service input url record policy).issuer.cacheExpiresAt input.observedAt
  recordWithin : Within service.dates record.cacheGeneratedAt record.cacheExpiresAt
    input.observedAt
  policyWithin : Within service.dates policy.cacheGeneratedAt policy.cacheExpiresAt
    input.observedAt
  runtimeClear : (service.runtimeSafety.inspect
    (runtimeInput input url (answerOf service input url record policy))).status = .clear
  runtimePresent : Present service.dates maxAge input.observedAt (service.runtimeSafety.inspect
    (runtimeInput input url (answerOf service input url record policy)))
  named : decision.governance = some ⟨policy.ns.rootProgramId, policy.ns.delegatedAuthorityId,
    policy.ns.issuerId, policy.destinationPolicyId⟩

/-- **TOLD APART**: no text of a policy is also that of another issuer's record, or of
    another active issuer. -/
structure ToldApart (held : Holdings) : Prop where
  records : ∀ key record key' policy, held.records key = some record →
    held.policies key' = some policy → record.policyKey = policy.policyKey → record.ns = policy.ns
  issuers : ∀ ns ∈ held.issuers, ∀ key policy, held.policies key = some policy →
    authorityIssuerKey ns = authorityIssuerKey policy.ns → ns = policy.ns

/-- **DEPENDABLE**: what stands is told apart and dated in step, and a provider that
    reports clear at `t` has looked shortly before. -/
structure Dependable (service : ScannerDecisionService) (held : Holdings) (maxAge t : Int) : Prop where
  toldApart : ToldApart held
  dated : ∀ key record policy, held.records key = some record → held.policies key = some policy →
    InStep service.dates record.cacheGeneratedAt policy.cacheGeneratedAt
      ∧ InStep service.dates policy.cacheExpiresAt record.cacheExpiresAt
  present : ∀ runtimeInput, runtimeInput.observedAt = t →
    (service.runtimeSafety.inspect runtimeInput).status = .clear →
    Present service.dates maxAge t (service.runtimeSafety.inspect runtimeInput)

/-- A record under the text of a policy is of its ids. -/
theorem ToldApart.same_key (h : ToldApart held) (hbacked : Backed held cache)
    {record : IssuerProjection} {policy : DestinationPolicyProjection}
    (hpolicy : held.policies ⟨policy.ns, policy.destinationPolicyId⟩ = some policy)
    (hrecord : cache.issuersByPolicyKey.get? policy.policyKey = some record) :
    record.ns = policy.ns ∧ record.destinationPolicyId = policy.destinationPolicyId
      ∧ held.records ⟨policy.ns, policy.destinationPolicyId⟩ = some record := by
  obtain ⟨htext, hstands⟩ := hbacked.records _ _ ((OrderedMap.get?_eq_some_iff ..).mp hrecord)
  have hns : record.ns = policy.ns := h.records _ _ _ _ hstands hpolicy htext.symm
  have hid : record.destinationPolicyId = policy.destinationPolicyId := by
    rw [DestinationPolicyProjection.policyKey, IssuerProjection.policyKey, hns] at htext
    exact (verifierCachePolicyKey_inj htext).symm
  rw [hns, hid] at hstands
  exact ⟨hns, hid, hstands⟩

/-- What the code has checked, by ids. -/
theorem Checked.vouched {url : Url} {record : IssuerProjection}
    {policy : DestinationPolicyProjection}
    (h : Checked service cache input decision url record policy) (hbacked : Backed held cache)
    (hdependable : Dependable service held maxAge input.observedAt) :
    Vouched service held cache maxAge input decision url record policy := by
  obtain ⟨text, hpolicy⟩ := OrderedMap.mem_values.mp h.policyHeld
  have hstands := (hbacked.policies text policy hpolicy).2
  obtain ⟨hauthority, hissuer⟩ := hasAuthorityContext_iff.mp h.context
  obtain ⟨ns, hns, htext⟩ := hbacked.issuers _ hissuer
  have hactive : policy.ns ∈ held.issuers := by
    rw [← hdependable.toldApart.issuers ns hns _ policy hstands htext.symm]
    exact hns
  obtain ⟨hown, hid, hrecord⟩ := hdependable.toldApart.same_key hbacked hstands h.recordHeld
  have hentry := fresh_iff.mp h.fresh
  obtain ⟨host, hmaterialized⟩ := @resolveDestination_issuer service.reader record policy url
    (service.reader.js.toLowerCase (input.issuerHintHost.getD url.hostname))
  have hhalves : Within service.dates record.cacheGeneratedAt record.cacheExpiresAt input.observedAt
      ∧ Within service.dates policy.cacheGeneratedAt policy.cacheExpiresAt input.observedAt := by
    obtain ⟨hgenerated, hexpires⟩ := hdependable.dated _ record policy hrecord hstands
    refine within_halves hgenerated hexpires ?_
    rw [answerOf, hmaterialized] at hentry
    exact hentry
  refine ⟨h.parsed, h.matched, hstands, h.rootAccepted, hbacked.authorities _ _ hauthority, hactive, hrecord,
    ⟨hown, hid⟩, h.bound, hentry, hhalves.1, hhalves.2, h.clear, hdependable.present _ rfl h.clear,
    ?_⟩
  rw [h.governance, governanceOf, answerOf, hmaterialized, ← hown, ← hid]
  rfl

/-- **GREEN SOUNDNESS**: for every initial content, every run of writer calls and every
    decision after it, a green decision is vouched for by what the run leaves standing,
    where that is told apart and dated in step, and the provider looks at the present. -/
theorem green_sound (service : ScannerDecisionService) (initial : List IssuerProjection)
    (initialDestinationPolicies : List DestinationPolicyProjection) (calls : List CacheCall)
    (randomUUID : String) (input : ScannerDecisionInput) (decision : ScannerDecision) (maxAge : Int)
    (hdependable : Dependable service
      (calls.foldl Holdings.after (heldInitially initial initialDestinationPolicies)) maxAge
      input.observedAt)
    (hdecision : ScannerDecisions.decide service
      (calls.foldl applyCall (makeInMemoryVerifierCache initial initialDestinationPolicies))
      randomUUID input = .ok decision)
    (hgreen : decision.decisionColor = .green) :
    ∃ url record policy, Vouched service
      (calls.foldl Holdings.after (heldInitially initial initialDestinationPolicies))
      (calls.foldl applyCall (makeInMemoryVerifierCache initial initialDestinationPolicies)) maxAge
      input decision url record policy := by
  obtain ⟨url, record, policy, hchecked⟩ := decide_green hdecision hgreen
  have hbacked := backed_run (backed_initially initial initialDestinationPolicies) calls
  exact ⟨url, record, policy, hchecked.vouched hbacked hdependable⟩

/-! ## The demo entry -/

/-- `demoIssuerProjection`. -/
def demoIssuerProjection : IssuerProjection where
  ns := ⟨"root:qrtrust-demo:2026", "authority:qrtrust-demo:merchant-web", "issuer:acme-demo"⟩
  issuerDisplayName := "ACME Demo"
  assuranceTier := "verified_business"
  destinationPolicyId := "policy:acme-demo:web-payments:v1"
  allowedHosts := ["acme.example", "checkout.acme.example"]
  cacheGeneratedAt := "2026-05-17T00:00:00Z"
  cacheExpiresAt := "2026-12-31T23:59:59Z"

/-- `demoDestinationPolicyProjection`. -/
def demoDestinationPolicyProjection : DestinationPolicyProjection where
  ns := demoIssuerProjection.ns
  destinationPolicyId := demoIssuerProjection.destinationPolicyId
  approvedDestinations :=
    [ { destinationId := "dest:acme-demo:pay"
        expectedFinalUrl := "https://acme.example/pay"
        allowedHosts := ["acme.example", "checkout.acme.example"]
        allowSubdomains := false
        pathPrefixes := ["/pay"]
        queryPolicy := "allow_known_payment_query"
        allowedQueryKeys := none } ]
  redirectPolicy :=
    { resolverUrls := ["https://qr.acme.example/r/pay"]
      expectedFinalDestinations := ["https://acme.example/pay"]
      allowedRedirectHosts := ["acme.example"]
      maxRedirectHops := 1
      nestedShortenersAllowed := false
      scannerMustDisplayResolverAndFinalDestination := true }
  allowedHosts := ["acme.example", "checkout.acme.example"]
  allowSubdomains := false
  cacheGeneratedAt := demoIssuerProjection.cacheGeneratedAt
  cacheExpiresAt := demoIssuerProjection.cacheExpiresAt

/-- The manifests of the demo root and authority, the record and the policy. -/
def demoCalls : List CacheCall :=
  [ .upsertRootAuthorityContext
      ⟨"root:qrtrust-demo:2026", ["authority:qrtrust-demo:merchant-web"]⟩,
    .upsertDelegatedAuthorityIssuerContext
      ⟨"root:qrtrust-demo:2026", "authority:qrtrust-demo:merchant-web", ["issuer:acme-demo"]⟩,
    .upsertIssuer demoIssuerProjection,
    .upsertDestinationPolicy demoDestinationPolicyProjection ]

/-- The dates of the demo entry, of a scan in June, and of the day a month before. -/
def demoDates : DateFunctions where
  parse text :=
    if text = "2026-05-17T00:00:00Z" then some 1778976000000
    else if text = "2026-12-31T23:59:59Z" then some 1798761599000
    else if text = "2026-06-01T00:00:00.000Z" then some 1780272000000
    else if text = "2026-05-01T00:00:00.000Z" then some 1777593600000
    else none
  toISOString _ := "2026-06-01T00:00:00.000Z"

/-- A service over one URL and a provider. -/
def demoScanner (runtimeSafety : RuntimeSafetyProvider) : ScannerDecisionService where
  reader :=
    { js :=
        { parseUrl := fun text =>
            if text = "https://acme.example/pay" then
              some
                { href := "https://acme.example/pay", protocol := "https:", username := ""
                  password := "", hostname := "acme.example", pathname := "/pay"
                  searchParams := [] }
            else none
          toLowerCase := id
          toISOString := some
          hashJson := fun _ => "" }
      acceptsRoot := fun _ => true }
  dates := demoDates
  runtimeSafety := runtimeSafety
  hashJson _ := ""
  publish _ := .ok ()

/-- The scan of the demo payment page. -/
def demoScan : ScannerDecisionInput where
  payload := "https://acme.example/pay"
  observedAt := 1780272000000

/-- The clear provider of the network, at the scan. -/
def presentProvider : RuntimeSafetyProvider :=
  makeClearRuntimeSafetyProvider demoDates.toISOString

/-- A provider that answers with the clear verdict it observed a month ago. -/
def cachedProvider : RuntimeSafetyProvider where
  inspect input := { presentProvider.inspect input with observedAt := "2026-05-01T00:00:00.000Z" }

/-- What stands after the demo calls. -/
theorem demo_stands (initially : Holdings) (hrecords : initially.records = fun _ => none)
    (hpolicies : initially.policies = fun _ => none) (hissuers : initially.issuers = ∅) :
    (∀ key record, (demoCalls.foldl Holdings.after initially).records key = some record →
        record = demoIssuerProjection)
      ∧ (∀ key policy, (demoCalls.foldl Holdings.after initially).policies key = some policy →
        policy = demoDestinationPolicyProjection)
      ∧ ∀ ns ∈ (demoCalls.foldl Holdings.after initially).issuers, ns = demoIssuerProjection.ns := by
  refine ⟨fun key record h => ?_, fun key policy h => ?_, fun ns h => ?_⟩
  · change Function.update initially.records _ (some demoIssuerProjection) key = some record at h
    rw [hrecords, Function.update_apply] at h
    split at h
    · exact (Option.some.inj h).symm
    · cases h
  · change Function.update initially.policies _ (some demoDestinationPolicyProjection) key
      = some policy at h
    rw [hpolicies, Function.update_apply] at h
    split at h
    · exact (Option.some.inj h).symm
    · cases h
  · rcases h with ⟨hequals, hissuer⟩ | ⟨-, hold⟩
    · obtain ⟨root, authority, issuer⟩ := ns
      rw [delegatedAuthorityEquals, Bool.and_eq_true, decide_eq_true_eq, decide_eq_true_eq] at hequals
      obtain ⟨rfl, rfl⟩ := hequals
      obtain rfl := List.mem_singleton.mp hissuer
      rfl
    · have hinitially : ns ∈ initially.issuers := hold
      rw [hissuers] at hinitially
      cases hinitially

/-- The two providers that find the demo page clear, now and a month ago. -/
def clearProviders : {providers : List RuntimeSafetyProvider //
    providers = [presentProvider, cachedProvider] ∧ ∀ provider ∈ providers,
      (ScannerDecisions.decide (demoScanner provider)
          (demoCalls.foldl applyCall (makeInMemoryVerifierCache [] [])) "scan"
          demoScan).toOption.map ScannerDecision.decisionColor = some .green} :=
  ⟨_, rfl, by decide +kernel⟩

/-- A scan of the demo page is green, and vouched for. -/
theorem green_sound_demo :
    ∃ decision, ScannerDecisions.decide (demoScanner presentProvider)
        (demoCalls.foldl applyCall (makeInMemoryVerifierCache [] [])) "scan" demoScan = .ok decision
      ∧ ∃ url record policy, Vouched (demoScanner presentProvider)
        (demoCalls.foldl Holdings.after (heldInitially [] []))
        (demoCalls.foldl applyCall (makeInMemoryVerifierCache [] [])) 0 demoScan decision url record
        policy := by
  obtain ⟨providers, hproviders, hclear⟩ := clearProviders
  have hmade := hclear presentProvider (hproviders ▸ List.mem_cons_self ..)
  obtain ⟨hrecords, hpolicies, hissuers⟩ := demo_stands (heldInitially [] []) rfl rfl rfl
  cases hdecision : ScannerDecisions.decide (demoScanner presentProvider)
      (demoCalls.foldl applyCall (makeInMemoryVerifierCache [] [])) "scan" demoScan with
  | error cause =>
      rw [hdecision] at hmade
      cases hmade
  | ok decision =>
      rw [hdecision] at hmade
      refine ⟨decision, rfl, green_sound (demoScanner presentProvider) [] [] demoCalls "scan"
        demoScan decision 0 ⟨⟨?_, ?_⟩, ?_, ?_⟩ hdecision (Option.some.inj hmade)⟩
      · intro key record key' policy hrecord hpolicy _
        rw [hrecords key record hrecord, hpolicies key' policy hpolicy]
        rfl
      · intro ns hns key policy hpolicy _
        rw [hissuers ns hns, hpolicies key policy hpolicy]
        rfl
      · intro key record policy hrecord hpolicy
        rw [hrecords key record hrecord, hpolicies key policy hpolicy]
        exact ⟨⟨1778976000000, 1778976000000, by decide +kernel, by decide +kernel,
            fun _ => le_refl _, fun _ => le_refl _⟩,
          ⟨1798761599000, 1798761599000, by decide +kernel, by decide +kernel,
            fun _ => le_refl _, fun _ => le_refl _⟩⟩
      · intro runtimeInput hat _
        have hreads : demoDates.parse (demoDates.toISOString 1780272000000)
            = some 1780272000000 := by decide +kernel
        exact (providers_present (by decide) hreads hat {}).1

/-- A clear verdict of a month ago makes a green decision. -/
theorem stale_verdict_green :
    ∃ decision, ScannerDecisions.decide (demoScanner cachedProvider)
        (demoCalls.foldl applyCall (makeInMemoryVerifierCache [] [])) "scan" demoScan = .ok decision
      ∧ decision.decisionColor = .green
      ∧ ¬ ∃ url record policy, Vouched (demoScanner cachedProvider)
        (demoCalls.foldl Holdings.after (heldInitially [] []))
        (demoCalls.foldl applyCall (makeInMemoryVerifierCache [] [])) 86400000 demoScan decision url
        record policy := by
  obtain ⟨providers, hproviders, hclear⟩ := clearProviders
  have hmade := hclear cachedProvider
    (hproviders ▸ List.mem_cons_of_mem _ (List.mem_singleton_self _))
  cases hdecision : ScannerDecisions.decide (demoScanner cachedProvider)
      (demoCalls.foldl applyCall (makeInMemoryVerifierCache [] [])) "scan" demoScan with
  | error cause =>
      rw [hdecision] at hmade
      cases hmade
  | ok decision =>
      rw [hdecision] at hmade
      refine ⟨decision, rfl, Option.some.inj hmade, ?_⟩
      rintro ⟨url, record, policy, hvouched⟩
      obtain ⟨observed, hobserved, -, hage⟩ := hvouched.runtimePresent
      have hread : demoDates.parse "2026-05-01T00:00:00.000Z" = some 1777593600000 := by
        decide +kernel
      obtain rfl := Option.some.inj (hread.symm.trans hobserved)
      exact absurd hage (by decide)

end GreenDecisions
