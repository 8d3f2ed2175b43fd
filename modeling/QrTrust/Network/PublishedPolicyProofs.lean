import QrTrust.Network.LatestRecordProofs
import QrTrust.Network.PolicyInterferenceProofs
import QrTrust.Network.TrustFactProofs

/-! # Every published active policy resolves

    A policy answers when four artifacts arrived, in any order, and none was
    withdrawn: the root's manifest, the authority's, the issuer's record, and
    the policy.  The record is where the service falls short: it is projected
    under the first of its active policies alone.  `published_policy_resolves_iff`
    says which policies resolve, and for which of their URLs. -/

namespace PublishedPolicy

open VerifierCache PolicyDecoding VerifierSync SyncGate SyncAcceptance SyncReplay LatestRecord
open PolicyInterference Runs

variable {service : SyncService} {start s : SyncState} {event : NetworkEvent}
  {events : List NetworkEvent} {ns : IssuerNamespace}

/-! ## The four artifacts -/

/-- An accepted root manifest that lists the authority as active. -/
def ManifestListsAuthority (service : SyncService) (ns : IssuerNamespace) (s : SyncState)
    (event : NetworkEvent) : Prop :=
  ∃ artifact manifest, Accepted service s event artifact
    ∧ rootManifestArtifactBody artifact.body = some manifest
    ∧ manifest.rootProgramId = ns.rootProgramId
    ∧ ∃ entry ∈ manifest.delegatedAuthorities,
        entry.id = ns.delegatedAuthorityId ∧ entry.status = .active

/-- An accepted manifest of the authority that lists the issuer as active. -/
def ManifestListsIssuer (service : SyncService) (ns : IssuerNamespace) (s : SyncState)
    (event : NetworkEvent) : Prop :=
  ∃ artifact manifest, Accepted service s event artifact
    ∧ delegatedAuthorityManifestArtifactBody artifact.body = some manifest
    ∧ manifest.rootProgramId = ns.rootProgramId
    ∧ manifest.delegatedAuthorityId = ns.delegatedAuthorityId
    ∧ ∃ entry ∈ manifest.enrolledIssuers, entry.id = ns.issuerId ∧ entry.status = .active

/-- An accepted active record of the issuer whose first active policy is this
    one. -/
def RecordListsFirst (service : SyncService) (ns : IssuerNamespace) (destinationPolicyId : String)
    (s : SyncState) (event : NetworkEvent) : Prop :=
  ∃ record, AcceptsRecord service s event record ∧ record.issuerNamespace = ns
    ∧ record.issuerStatus = .active ∧ record.certificateStatus = .active
    ∧ ∃ entry, record.destinationPolicies.find? (·.status = .active) = some entry
        ∧ entry.id = destinationPolicyId

/-- An accepted destination policy. -/
def PublishesPolicy (service : SyncService) (policy : DestinationPolicyProjection)
    (s : SyncState) (event : NetworkEvent) : Prop :=
  ∃ artifact, Accepted service s event artifact
    ∧ projectedPolicy service.js artifact.body event = some policy

/-- **LASTING**: some event of the log brings the fact, and no later one withdraws
    it. -/
def Lasting (L : Latch (machine service)) (Brings : SyncState → NetworkEvent → Prop)
    (start : SyncState) (events : List NetworkEvent) : Prop :=
  ∃ earlier event later, events = earlier ++ event :: later
    ∧ Brings ((machine service).runState start earlier) event
    ∧ ∀ a ∈ (machine service).actions
        ((machine service).step ((machine service).runState start earlier) event) later,
      ¬ L.Clears a

/-- A lasting fact holds after the log. -/
theorem Lasting.holds {L : Latch (machine service)} {Brings : SyncState → NetworkEvent → Prop}
    (hbrings : ∀ s event, Brings s event → L.SetsLast ((machine service).plan s event))
    (h : Lasting L Brings start events) : L.Holds ((machine service).runState start events) := by
  obtain ⟨earlier, event, later, hsplit, hevent, hlater⟩ := h
  exact (L.holds_runState_iff start events).mpr
    (.inl ⟨earlier, event, later, hsplit, hbrings _ _ hevent, hlater⟩)

/-- The same, where the event is the `k`-th of the log. -/
theorem lasting_of_getElem? {L : Latch (machine service)}
    {Brings : SyncState → NetworkEvent → Prop} (k : Nat) (hevent : events[k]? = some event)
    (hbrings : Brings ((machine service).runState start (events.take k)) event)
    (hlater : ∀ a ∈ (machine service).actions
        ((machine service).runState start (events.take (k + 1))) (events.drop (k + 1)),
      ¬ L.Clears a) : Lasting L Brings start events := by
  obtain ⟨hk, rfl⟩ := List.getElem?_eq_some_iff.mp hevent
  refine ⟨events.take k, events[k], events.drop (k + 1), ?_, hbrings, ?_⟩
  · rw [List.getElem_cons_drop, List.take_append_drop]
  · rwa [List.take_succ_eq_append_getElem hk, Machine.runState_append, Machine.runState_cons,
      Machine.runState_nil] at hlater

/-- A fact that holds after a log but not before it is lasting. -/
theorem lasting_of_holds {L : Latch (machine service)}
    {Brings : SyncState → NetworkEvent → Prop}
    (hbrings : ∀ s event, L.SetsLast ((machine service).plan s event) → Brings s event)
    (hstart : ¬ L.Holds start) (h : L.Holds ((machine service).runState start events)) :
    Lasting L Brings start events := by
  rcases (L.holds_runState_iff start events).mp h with
    ⟨earlier, event, later, hsplit, hevent, hlater⟩ | ⟨hs, -⟩
  · exact ⟨earlier, event, later, hsplit, hbrings _ _ hevent, hlater⟩
  · exact absurd hs hstart

/-- An accepted artifact with a single call sets what the call sets. -/
theorem setsLast_of_accepted {Holds : Cache → Prop} {Sets Clears : CacheCall → Prop}
    {happly : ∀ cache call, Holds (applyCall cache call) ↔
      Sets call ∨ (Holds cache ∧ ¬ Clears call)}
    {artifact : SignedArtifact} (call : CacheCall) (haccepted : Accepted service s event artifact)
    (hcalls : projectionCalls service artifact.body event = [call]) (hsets : Sets call) :
    (TrustFact.cacheLatch service Holds Sets Clears happly).SetsLast
      ((machine service).plan s event) := by
  refine ⟨[asked service s artifact.body], .cacheCall call,
    (keyStatusUpdates s.trustKeyRegistry artifact.body).map .updateTrustKeyStatus, ?_,
    ⟨call, rfl, hsets⟩, ?_⟩
  · rw [plan_accepted haccepted, projectionActions, hcalls]
    rfl
  · rintro action haction ⟨call', rfl, -⟩
    obtain ⟨input, -, heq⟩ := List.mem_map.mp haction
    cases heq

/-! ## What each artifact sets -/

theorem setsLast_authority (h : ManifestListsAuthority service ns s event) :
    (TrustFact.authority service ns.rootProgramId ns.delegatedAuthorityId).SetsLast
      ((machine service).plan s event) := by
  obtain ⟨artifact, manifest, haccepted, hmanifest, hroot, entry, hentry, hid, hactive⟩ := h
  refine setsLast_of_accepted (.upsertRootAuthorityContext ⟨manifest.rootProgramId, _⟩) haccepted
    (by rw [projectionCalls_rootManifest hmanifest, rootAuthorityContextFromArtifact, hmanifest]
        rfl) ?_
  refine ⟨hroot, List.mem_map.mpr ⟨entry, List.mem_filter.mpr ⟨hentry, ?_⟩, hid⟩⟩
  exact decide_eq_true hactive

theorem setsLast_issuer (h : ManifestListsIssuer service ns s event) :
    (TrustFact.issuer service ns).SetsLast ((machine service).plan s event) := by
  obtain ⟨artifact, manifest, haccepted, hmanifest, hroot, hauthority, entry, hentry, hid,
    hactive⟩ := h
  refine setsLast_of_accepted (.upsertDelegatedAuthorityIssuerContext
      ⟨manifest.rootProgramId, manifest.delegatedAuthorityId, _⟩) haccepted
    (by rw [projectionCalls_authorityManifest hmanifest,
          delegatedAuthorityIssuerContextFromArtifact, hmanifest]
        rfl) ?_
  refine ⟨entry.id, List.mem_map.mpr ⟨entry, List.mem_filter.mpr ⟨hentry, ?_⟩, rfl⟩, ?_⟩
  · exact decide_eq_true hactive
  · rw [hroot, hauthority, hid]

theorem setsLast_policy {policy : DestinationPolicyProjection}
    (h : PublishesPolicy service policy s event) :
    (TrustFact.policy service policy).SetsLast ((machine service).plan s event) := by
  obtain ⟨artifact, haccepted, hpolicy⟩ := h
  refine setsLast_of_accepted (.upsertDestinationPolicy policy) haccepted ?_ rfl
  rw [projectionCalls_policy (policy_type hpolicy), hpolicy]
  rfl

/-- **THE DEFECT**: exactly the records that list the policy first among their
    active ones put a record under its key. -/
theorem setsLast_record_iff {destinationPolicyId : String} :
    (TrustFact.record service ns (verifierCachePolicyKey ns destinationPolicyId)).SetsLast
        ((machine service).plan s event)
      ↔ RecordListsFirst service ns destinationPolicyId s event := by
  constructor
  · rintro ⟨before, action, after, hplan, ⟨call, rfl, hwrites⟩, -⟩
    have hplanned : SyncAction.cacheCall call ∈ (machine service).plan s event := by
      rw [hplan]
      simp
    cases call with
    | upsertIssuer projection =>
        obtain ⟨hkey, hns⟩ := hwrites
        obtain ⟨record, entry, haccepts, hstatus, hcertificate, hentry, hrecordNs, hid⟩ :=
          planned_projection_first hplanned
        refine ⟨record, haccepts, hrecordNs.symm.trans hns, hstatus, hcertificate, entry, hentry,
          ?_⟩
        rw [IssuerProjection.policyKey, hns] at hkey
        exact hid.symm.trans (verifierCachePolicyKey_inj hkey)
    | _ => exact absurd hwrites id
  · rintro ⟨record, ⟨artifact, haccepted, hrecord⟩, rfl, hstatus, hcertificate, entry, hentry,
      rfl⟩
    obtain ⟨projection, hprojection, hns, hid⟩ :=
      exists_issuerProjection hrecord hstatus hcertificate hentry
    refine setsLast_of_accepted (.upsertIssuer projection) haccepted ?_ ⟨?_, hns⟩
    · rw [projectionCalls_issuerRecord hrecord, hprojection]
      rfl
    · rw [IssuerProjection.policyKey, hns, hid]

/-! ## What a policy says about a URL -/

/-- Some rule of the policy accepts the URL. -/
def RuleAccepts (reader : Reader) (policy : DestinationPolicyProjection) (url : Url) : Prop :=
  ∃ rule ∈ policy.approvedDestinations,
    ruleAllowsHost reader rule (reader.js.toLowerCase url.hostname) = true
      ∧ directDestinationMismatchReasons rule url = []

/-- The rule that decides about the URL accepts it: the redirect policy where the
    URL is a listed resolver's, else the first rule that allows the host. -/
def DecidingRuleAccepts (reader : Reader) (policy : DestinationPolicyProjection) (url : Url) :
    Prop :=
  if (JsString.truthy (matchedResolverUrl reader policy.redirectPolicy url)).isSome then
    redirectMismatchReasons reader policy url (parseRedirectHopCount (url.searchParam "hops"))
      ((JsString.truthy (url.searchParam "final")).bind reader.js.parseUrl) = []
  else
    ∃ rule, matchedRule reader policy url = some rule
      ∧ directDestinationMismatchReasons rule url = []

/-- A resolution is bound exactly when the deciding rule accepts. -/
theorem resolveDestination_bound_iff {reader : Reader} {issuer : IssuerProjection}
    {policy : DestinationPolicyProjection} {url : Url} {lookupHost : String} :
    (resolveDestination reader issuer policy url lookupHost).bindingStatus = .bound ↔
      DecidingRuleAccepts reader policy url := by
  rw [resolveDestination, DecidingRuleAccepts, matchedRule]
  cases JsString.truthy (matchedResolverUrl reader policy.redirectPolicy url) with
  | some resolverUrl =>
      simp only [resolveRedirectDestination, Option.isSome_some, if_true]
      split
      · rename_i hreasons
        exact iff_of_true rfl hreasons
      · rename_i hreasons
        exact iff_of_false (fun heq => BindingStatus.noConfusion heq) hreasons
  | none =>
      simp only [Option.isSome_none, Bool.false_eq_true, if_false]
      cases policy.approvedDestinations.find? fun destination =>
          ruleAllowsHost reader destination (reader.js.toLowerCase url.hostname) with
      | none =>
          refine iff_of_false (fun heq => BindingStatus.noConfusion heq) ?_
          rintro ⟨rule, hrule, -⟩
          cases hrule
      | some rule =>
          simp only [Option.some.injEq, exists_eq_left']
          split
          · rename_i hreasons
            exact iff_of_true rfl hreasons
          · rename_i hreasons
            exact iff_of_false (fun heq => BindingStatus.noConfusion heq) hreasons

/-- An accepting rule allows the host of the URL. -/
theorem RuleAccepts.allowsHost {reader : Reader} {policy : DestinationPolicyProjection}
    {url : Url} (h : RuleAccepts reader policy url) :
    policyAllowsLookupHost reader policy (reader.js.toLowerCase url.hostname) = true := by
  obtain ⟨rule, hrule, hallows, -⟩ := h
  rw [policyAllowsLookupHost, policyAllowsHost, List.any_eq_true.mpr ⟨rule, hrule, hallows⟩]
  rfl

/-- Where no other policy allows the host, the search finds this one. -/
theorem find?_only {policies : List DestinationPolicyProjection}
    {p : DestinationPolicyProjection → Bool} {policy : DestinationPolicyProjection}
    (hmem : policy ∈ policies) (hp : p policy = true)
    (honly : ∀ other ∈ policies, other ≠ policy → p other = false) :
    policies.find? p = some policy := by
  cases hfound : policies.find? p with
  | none => exact absurd hp (by simpa using List.find?_eq_none.mp hfound policy hmem)
  | some other =>
      by_contra hne
      have hother := honly other (List.mem_of_find?_eq_some hfound) fun heq => hne (by rw [heq])
      rw [List.find?_some hfound] at hother
      exact Bool.noConfusion hother

/-! ## Which policies resolve -/

/-- The URL is answered bound with the issuer. -/
def BoundTo (reader : Reader) (cache : Cache) (ns : IssuerNamespace) (url : Url) : Prop :=
  ∃ answer, resolveByDestination reader cache url none = some answer
    ∧ answer.bindingStatus = .bound ∧ answer.issuer.ns = ns

/-- In a cache where authority, issuer and policy stand and no other policy
    allows the host, a record decides. -/
theorem boundTo_iff {reader : Reader} {cache : Cache} {policy : DestinationPolicyProjection}
    {url : Url} (hauthority : TrustFact.AuthorityActive policy.ns.rootProgramId
      policy.ns.delegatedAuthorityId cache)
    (hissuer : TrustFact.IssuerActive policy.ns cache)
    (hpolicy : TrustFact.PolicyStands policy cache) (haccepts : RuleAccepts reader policy url)
    (honly : ∀ other ∈ cache.policiesByKey.values, other ≠ policy →
      policyAllowsLookupHost reader other (reader.js.toLowerCase url.hostname) = false) :
    BoundTo reader cache policy.ns url ↔
      reader.acceptsRoot policy.ns.rootProgramId = true
        ∧ TrustFact.RecordStands policy.ns policy.policyKey cache
        ∧ DecidingRuleAccepts reader policy url := by
  have hmem : policy ∈ cache.policiesByKey.values :=
    OrderedMap.mem_values.mpr ⟨_, (OrderedMap.get?_eq_some_iff ..).mp hpolicy⟩
  have hcontext : hasAuthorityContext cache policy.ns = true := by
    rw [hasAuthorityContext, Bool.and_eq_true, List.contains_iff_mem, List.contains_iff_mem]
    exact ⟨hauthority, hissuer⟩
  have heligible : eligible reader cache (policyAllowsLookupHost reader)
      (reader.js.toLowerCase url.hostname) policy = reader.acceptsRoot policy.ns.rootProgramId := by
    rw [eligible, hcontext, haccepts.allowsHost, Bool.and_true, Bool.and_true]
  have hothers : ∀ other ∈ cache.policiesByKey.values, other ≠ policy →
      eligible reader cache (policyAllowsLookupHost reader) (reader.js.toLowerCase url.hostname)
        other = false := by
    intro other hother hne
    rw [eligible, honly other hother hne, Bool.and_false]
  rw [BoundTo, resolveByDestination]
  dsimp only [Option.getD_none]
  rw [findPolicyMatch_eq]
  cases hroot : reader.acceptsRoot policy.ns.rootProgramId with
  | false =>
      have hnone : cache.policiesByKey.values.find? (eligible reader cache
          (policyAllowsLookupHost reader) (reader.js.toLowerCase url.hostname)) = none := by
        rw [List.find?_eq_none]
        intro other hother
        by_cases hne : other = policy
        · rw [hne, heligible, hroot]
          exact Bool.false_ne_true
        · rw [hothers other hother hne]
          exact Bool.false_ne_true
      rw [hnone]
      exact iff_of_false (by rintro ⟨answer, hanswer, -⟩; cases hanswer) fun h =>
        Bool.noConfusion h.1
  | true =>
      rw [find?_only hmem (heligible.trans hroot) hothers, Option.bind_some, recordUnder]
      cases hrecord : cache.issuersByPolicyKey.get? policy.policyKey with
      | none =>
          refine iff_of_false (by rintro ⟨answer, hanswer, -⟩; cases hanswer) ?_
          rintro ⟨-, ⟨record, hstands, -⟩, -⟩
          rw [hrecord] at hstands
          cases hstands
      | some record =>
          have hstands : TrustFact.RecordStands policy.ns policy.policyKey cache ↔
              record.ns = policy.ns := by
            rw [TrustFact.RecordStands, hrecord]
            simp
          rw [hstands]
          simp only [Option.map_some, Option.some.injEq, exists_eq_left', true_and,
            resolveDestination_bound_iff, (resolveDestination_ns ..).1]
          exact and_comm

/-- **EVERY PUBLISHED POLICY, EXACTLY**: after any log, in any order, that brings
    the authority, the issuer and the policy for good, a URL that a rule of the
    policy accepts and no other policy allows is answered bound with the issuer
    exactly when the reader accepts the root, some record that lasts lists the
    policy first among its active ones, and the rule that decides accepts. -/
theorem published_policy_resolves_iff (service : SyncService) (reader : Reader)
    (start : SyncState) (hstart : start.cache = .empty) (events : List NetworkEvent)
    (policy : DestinationPolicyProjection)
    (hauthority : Lasting
      (TrustFact.authority service policy.ns.rootProgramId policy.ns.delegatedAuthorityId)
      (ManifestListsAuthority service policy.ns) start events)
    (hissuer : Lasting (TrustFact.issuer service policy.ns)
      (ManifestListsIssuer service policy.ns) start events)
    (hpolicy : Lasting (TrustFact.policy service policy) (PublishesPolicy service policy)
      start events)
    (url : Url) (haccepts : RuleAccepts reader policy url)
    (honly : ∀ other ∈ (syncRecent service start events).1.cache.policiesByKey.values,
      other ≠ policy →
        policyAllowsLookupHost reader other (reader.js.toLowerCase url.hostname) = false) :
    BoundTo reader (syncRecent service start events).1.cache policy.ns url ↔
      reader.acceptsRoot policy.ns.rootProgramId = true
        ∧ Lasting (TrustFact.record service policy.ns policy.policyKey)
          (RecordListsFirst service policy.ns policy.destinationPolicyId) start events
        ∧ DecidingRuleAccepts reader policy url := by
  rw [syncRecent_state] at honly ⊢
  have hrecord : TrustFact.RecordStands policy.ns policy.policyKey
        ((machine service).runState start events).cache
      ↔ Lasting (TrustFact.record service policy.ns policy.policyKey)
          (RecordListsFirst service policy.ns policy.destinationPolicyId) start events := by
    constructor
    · refine lasting_of_holds (fun _ _ => setsLast_record_iff.mp) ?_
      rintro ⟨record, hget, -⟩
      rw [hstart] at hget
      cases hget
    · exact Lasting.holds fun _ _ => setsLast_record_iff.mpr
  rw [← hrecord]
  exact boundTo_iff (hauthority.holds fun _ _ => setsLast_authority)
    (hissuer.holds fun _ _ => setsLast_issuer) (hpolicy.holds fun _ _ => setsLast_policy)
    haccepts honly

/-! ## A record with two active policies -/

/-- The second policy, for another host. -/
def otherPolicyBody : JsonValue :=
  .obj
    [ ("artifact_type", .str "destination_policy"), ("root_program_id", .str "root:demo"),
      ("delegated_authority_id", .str "authority:demo"), ("issuer_id", .str "issuer:demo"),
      ("destination_policy_id", .str "policy:other"),
      ("approved_destinations", .arr
          [ .obj
              [ ("destination_id", .str "dest:pay"),
                ("expected_final_url", .str "https://other.example/"),
                ("allowed_hosts", .arr [.str "other.example"]),
                ("allow_subdomains", .bool false), ("path_prefixes", .arr []),
                ("query_policy", .str "none") ] ]),
      ("redirect_policy", .obj
          [ ("resolver_urls", .arr []), ("expected_final_destinations", .arr []),
            ("allowed_redirect_hosts", .arr []), ("max_redirect_hops", .num 0),
            ("nested_shorteners_allowed", .bool false),
            ("scanner_must_display_resolver_and_final_destination", .bool true) ]),
      ("publication", .obj
          [ ("published_at", .str "2026-01-01T00:00:00Z"),
            ("valid_until", .str "2027-01-01T00:00:00Z") ]) ]

/-- The destination of the second policy, parsed. -/
def otherUrl : Url :=
  { demoUrl with href := "https://other.example/", hostname := "other.example" }

/-- The digests of the documents. -/
def twoPoliciesHash (body : JsonValue) : String :=
  if body.stringField "destination_policy_id" = some "policy:other" then
    "743f26ef6e7068190d305623c0512a4139fc41633d1815709821ec72c2e175a6"
  else recordHash body

/-- The record, listing both policies as active. -/
def twoPoliciesRecord : JsonValue := recordBody "active" ["policy:demo", "policy:other"]

/-- A service over manifests, record and both policies. -/
def twoPoliciesService : SyncService where
  js :=
    { demoService.js with
      parseUrl := fun text =>
        if text = otherUrl.href then some otherUrl else demoService.js.parseUrl text
      hashJson := twoPoliciesHash }
  store := (recordService twoPoliciesRecord).store.set "artifact:other"
    ⟨"sha256:" ++ twoPoliciesHash otherPolicyBody, otherPolicyBody⟩
  verifyTrustArtifact := demoService.verifyTrustArtifact

/-- A reader with the same host. -/
def twoPoliciesReader : Reader := ⟨twoPoliciesService.js, fun _ => true⟩

/-- The event of the second policy. -/
def otherPolicyEvent : NetworkEvent :=
  { demoEvent "destination.policy.published" "artifact:other" otherPolicyBody with
    artifactHash := "sha256:" ++ twoPoliciesHash otherPolicyBody }

/-- The log: both manifests, the record, and the two policies. -/
def twoPoliciesLog : List NetworkEvent :=
  [ demoEvent "root.manifest.published" "artifact:root" rootManifestBody,
    demoEvent "authority.manifest.published" "artifact:authority" authorityManifestBody,
    recordEvent twoPoliciesRecord,
    demoEvent "destination.policy.published" "artifact:policy" destinationPolicyBody,
    otherPolicyEvent ]

/-- The first policy, projected. -/
def firstPolicy : DestinationPolicyProjection := policyFor "issuer:demo"

/-- The second policy, projected. -/
def otherPolicy : DestinationPolicyProjection :=
  { firstPolicy with
    destinationPolicyId := "policy:other"
    approvedDestinations := firstPolicy.approvedDestinations.map fun rule =>
      { rule with
        expectedFinalUrl := "https://other.example/"
        allowedHosts := ["other.example"] }
    allowedHosts := ["other.example"] }

/-- The state the log starts from. -/
def emptyState : SyncState := ⟨.empty, none⟩

/-- Do the calls among the actions pass a test? -/
def callsPass (p : CacheCall → Bool) (actions : List SyncAction) : Bool :=
  actions.all fun a => match a with | .cacheCall call => p call | _ => true

/-- Actions whose calls pass a test that excludes clearing calls clear nothing. -/
theorem not_clears_of_all {Holds : Cache → Prop} {Sets Clears : CacheCall → Prop}
    {happly : ∀ cache call, Holds (applyCall cache call) ↔
      Sets call ∨ (Holds cache ∧ ¬ Clears call)}
    {actions : List SyncAction} (p : CacheCall → Bool) (hp : ∀ call, p call = true → ¬ Clears call)
    (h : callsPass p actions = true) :
    ∀ a ∈ actions, ¬ (TrustFact.cacheLatch service Holds Sets Clears happly).Clears a := by
  rintro a ha ⟨call, rfl, hclears⟩
  exact hp call (List.all_eq_true.mp h _ ha) hclears

/-- The place of a write in a publication: root, authority, record, policy. -/
def publicationRank : CacheCall → Nat
  | .upsertDelegatedAuthorityIssuerContext _ => 1
  | .upsertIssuer _ => 2
  | .upsertDestinationPolicy _ => 3
  | _ => 0

/-- The artifacts of the log, each with the event that brings it. -/
def twoPoliciesArtifacts : List (NetworkEvent × SignedArtifact) :=
  [ (demoEvent "root.manifest.published" "artifact:root" rootManifestBody,
      ⟨"sha256:" ++ demoHash rootManifestBody, rootManifestBody⟩),
    (demoEvent "authority.manifest.published" "artifact:authority" authorityManifestBody,
      ⟨"sha256:" ++ demoHash authorityManifestBody, authorityManifestBody⟩),
    (recordEvent twoPoliciesRecord,
      ⟨"sha256:" ++ recordHash twoPoliciesRecord, twoPoliciesRecord⟩),
    (demoEvent "destination.policy.published" "artifact:policy" destinationPolicyBody,
      ⟨"sha256:" ++ demoHash destinationPolicyBody, destinationPolicyBody⟩),
    (otherPolicyEvent, ⟨"sha256:" ++ twoPoliciesHash otherPolicyBody, otherPolicyBody⟩) ]

/-- The artifacts, with what the service checks of them, their signatures aside. -/
def checkedArtifacts : {artifacts : List (NetworkEvent × SignedArtifact) //
    artifacts = twoPoliciesArtifacts ∧ ∀ entry ∈ artifacts,
      hashesMatch twoPoliciesService entry.2 entry.1 = true
        ∧ isRecognizedTrustArtifact entry.2.body = true
        ∧ trustArtifactScopeMatchesBody entry.2.body = true} :=
  ⟨_, rfl, by decide +kernel⟩

theorem twoPolicies_checked : ∀ entry ∈ twoPoliciesArtifacts,
    hashesMatch twoPoliciesService entry.2 entry.1 = true
      ∧ isRecognizedTrustArtifact entry.2.body = true
      ∧ trustArtifactScopeMatchesBody entry.2.body = true := by
  obtain ⟨artifacts, hartifacts, hchecked⟩ := checkedArtifacts
  rw [← hartifacts]
  exact hchecked

/-- The service accepts them in every state. -/
theorem twoPolicies_accepted {s : SyncState} {event : NetworkEvent} {artifact : SignedArtifact}
    (h : (event, artifact) ∈ twoPoliciesArtifacts)
    (htype : event.type ≠ "scanner.decision.recorded")
    (hstored : twoPoliciesService.store.get? event.artifactId = some artifact) :
    Accepted twoPoliciesService s event artifact := by
  obtain ⟨hhash, hrecognized, hscope⟩ := twoPolicies_checked _ h
  exact ⟨⟨htype, hstored, hhash⟩, hrecognized, rfl, hscope⟩

/-- What the service does after the first `k` events of the log. -/
def laterActions (k : Nat) : List SyncAction :=
  (machine twoPoliciesService).actions
    ((machine twoPoliciesService).runState emptyState (twoPoliciesLog.take k))
    (twoPoliciesLog.drop k)

/-- The cache the log leaves, with what one evaluation of the run shows: the calls
    after each of its events, the policies, and the answer for the second one's URL. -/
def twoPoliciesCache : {cache : Cache //
    cache = (syncRecent twoPoliciesService emptyState twoPoliciesLog).1.cache
      ∧ callsPass (fun call => 1 ≤ publicationRank call) (laterActions 1) = true
      ∧ callsPass (fun call => 2 ≤ publicationRank call) (laterActions 2) = true
      ∧ callsPass (fun call => 3 ≤ publicationRank call) (laterActions 3) = true
      ∧ callsPass (fun call => call = .upsertDestinationPolicy otherPolicy)
          (laterActions 4) = true
      ∧ cache.policiesByKey.values = [firstPolicy, otherPolicy]
      ∧ resolveByDestination twoPoliciesReader cache otherUrl none = none} :=
  ⟨_, rfl, by decide +kernel⟩

theorem twoPolicies_evaluated :
    callsPass (fun call => 1 ≤ publicationRank call) (laterActions 1) = true
      ∧ callsPass (fun call => 2 ≤ publicationRank call) (laterActions 2) = true
      ∧ callsPass (fun call => 3 ≤ publicationRank call) (laterActions 3) = true
      ∧ callsPass (fun call => call = .upsertDestinationPolicy otherPolicy)
          (laterActions 4) = true
      ∧ (syncRecent twoPoliciesService emptyState
          twoPoliciesLog).1.cache.policiesByKey.values = [firstPolicy, otherPolicy]
      ∧ resolveByDestination twoPoliciesReader (syncRecent twoPoliciesService emptyState
          twoPoliciesLog).1.cache otherUrl none = none := by
  obtain ⟨cache, hcache, hevaluated⟩ := twoPoliciesCache
  rw [hcache] at hevaluated
  exact hevaluated

/-- What the bodies of the two policies project. -/
def projectedPolicies : {policies : DestinationPolicyProjection × DestinationPolicyProjection //
    policies = (firstPolicy, otherPolicy)
      ∧ projectedPolicy twoPoliciesService.js destinationPolicyBody
          (demoEvent "destination.policy.published" "artifact:policy" destinationPolicyBody)
        = some policies.1
      ∧ projectedPolicy twoPoliciesService.js otherPolicyBody otherPolicyEvent
        = some policies.2} :=
  ⟨_, rfl, by decide +kernel, by decide +kernel⟩

/-- What the policies say of their bodies, and that they go under different keys. -/
theorem twoPolicies_projected :
    projectedPolicy twoPoliciesService.js destinationPolicyBody
        (demoEvent "destination.policy.published" "artifact:policy" destinationPolicyBody)
      = some firstPolicy
      ∧ projectedPolicy twoPoliciesService.js otherPolicyBody otherPolicyEvent = some otherPolicy
      ∧ otherPolicy.policyKey ≠ firstPolicy.policyKey := by
  obtain ⟨policies, hpolicies, hfirst, hother⟩ := projectedPolicies
  rw [hpolicies] at hfirst hother
  exact ⟨hfirst, hother, by decide +kernel⟩

theorem lasting_authority : Lasting
    (TrustFact.authority twoPoliciesService "root:demo" "authority:demo")
    (ManifestListsAuthority twoPoliciesService demoNamespace) emptyState twoPoliciesLog := by
  have hmem : twoPoliciesArtifacts[0] ∈ twoPoliciesArtifacts := List.getElem_mem _
  refine lasting_of_getElem? 0 rfl ⟨_, _, twoPolicies_accepted hmem (by decide) rfl, rfl, rfl, _,
    List.mem_cons_self .., rfl, rfl⟩ ?_
  refine not_clears_of_all (fun call => 1 ≤ publicationRank call) (fun call hcall => ?_)
    twoPolicies_evaluated.1
  cases call <;> first | exact id | cases hcall

theorem lasting_issuer : Lasting (TrustFact.issuer twoPoliciesService demoNamespace)
    (ManifestListsIssuer twoPoliciesService demoNamespace) emptyState twoPoliciesLog := by
  have hmem : twoPoliciesArtifacts[1] ∈ twoPoliciesArtifacts := List.getElem_mem _
  refine lasting_of_getElem? 1 rfl ⟨_, _, twoPolicies_accepted hmem (by decide) rfl, rfl, rfl, rfl,
    _, List.mem_cons_self .., rfl, rfl⟩ ?_
  refine not_clears_of_all (fun call => 2 ≤ publicationRank call) (fun call hcall => ?_)
    twoPolicies_evaluated.2.1
  cases call <;> first | exact id | cases hcall

theorem lasting_firstPolicy : Lasting (TrustFact.policy twoPoliciesService firstPolicy)
    (PublishesPolicy twoPoliciesService firstPolicy) emptyState twoPoliciesLog := by
  have hmem : twoPoliciesArtifacts[3] ∈ twoPoliciesArtifacts := List.getElem_mem _
  refine lasting_of_getElem? 3 rfl
    ⟨_, twoPolicies_accepted hmem (by decide) rfl, twoPolicies_projected.1⟩ ?_
  refine not_clears_of_all (fun call => call = .upsertDestinationPolicy otherPolicy)
    (fun call hcall => ?_) twoPolicies_evaluated.2.2.2.1
  rw [of_decide_eq_true hcall]
  rintro ⟨hkey, -⟩
  exact twoPolicies_projected.2.2 hkey

theorem lasting_otherPolicy : Lasting (TrustFact.policy twoPoliciesService otherPolicy)
    (PublishesPolicy twoPoliciesService otherPolicy) emptyState twoPoliciesLog := by
  have hmem : twoPoliciesArtifacts[4] ∈ twoPoliciesArtifacts := List.getElem_mem _
  refine lasting_of_getElem? 4 rfl
    ⟨_, twoPolicies_accepted hmem (by decide) rfl, twoPolicies_projected.2.1⟩ ?_
  exact fun a ha => absurd ha List.not_mem_nil

/-- The record, which lists both policies as active and the first one first. -/
theorem lasting_record : Lasting
    (TrustFact.record twoPoliciesService demoNamespace firstPolicy.policyKey)
    (fun s event => RecordListsFirst twoPoliciesService demoNamespace "policy:demo" s event
      ∧ ∃ record, AcceptsRecord twoPoliciesService s event record
        ∧ record.issuerNamespace = demoNamespace ∧ Favours record "policy:other")
    emptyState twoPoliciesLog := by
  have hmem : twoPoliciesArtifacts[2] ∈ twoPoliciesArtifacts := List.getElem_mem _
  have haccepts : ∀ s, ∃ record, AcceptsRecord twoPoliciesService s
      (recordEvent twoPoliciesRecord) record
      ∧ issuerRecordArtifactBody twoPoliciesRecord = some record := fun s =>
    ⟨_, ⟨_, twoPolicies_accepted hmem (by decide) rfl, rfl⟩, rfl⟩
  obtain ⟨record, haccepts, hrecord⟩ := haccepts
    ((machine twoPoliciesService).runState emptyState (twoPoliciesLog.take 2))
  have hfields := Option.some.inj hrecord
  refine lasting_of_getElem? 2 rfl ⟨⟨record, haccepts, ?_⟩, record, haccepts, ?_⟩ ?_
  · subst hfields
    exact ⟨rfl, rfl, rfl, _, rfl, rfl⟩
  · subst hfields
    exact ⟨rfl, rfl, rfl, _, List.mem_cons_of_mem _ (List.mem_cons_self ..), rfl, rfl⟩
  · refine not_clears_of_all (fun call => 3 ≤ publicationRank call) (fun call hcall => ?_)
      twoPolicies_evaluated.2.2.1
    cases call <;> first | exact id | cases hcall

/-- The policies the log leaves in the cache. -/
theorem policies_after_log : (syncRecent twoPoliciesService emptyState
    twoPoliciesLog).1.cache.policiesByKey.values = [firstPolicy, otherPolicy] :=
  twoPolicies_evaluated.2.2.2.2.1

/-- The second policy of the record never resolves. -/
theorem second_policy_unresolved :
    Lasting (TrustFact.authority twoPoliciesService "root:demo" "authority:demo")
        (ManifestListsAuthority twoPoliciesService demoNamespace) emptyState twoPoliciesLog
      ∧ Lasting (TrustFact.issuer twoPoliciesService demoNamespace)
        (ManifestListsIssuer twoPoliciesService demoNamespace) emptyState twoPoliciesLog
      ∧ Lasting (TrustFact.record twoPoliciesService demoNamespace firstPolicy.policyKey)
        (fun s event => RecordListsFirst twoPoliciesService demoNamespace "policy:demo" s event
          ∧ ∃ record, AcceptsRecord twoPoliciesService s event record
            ∧ record.issuerNamespace = demoNamespace ∧ Favours record "policy:other")
        emptyState twoPoliciesLog
      ∧ Lasting (TrustFact.policy twoPoliciesService otherPolicy)
        (PublishesPolicy twoPoliciesService otherPolicy) emptyState twoPoliciesLog
      ∧ RuleAccepts twoPoliciesReader otherPolicy otherUrl
      ∧ (∀ other ∈ (syncRecent twoPoliciesService emptyState
            twoPoliciesLog).1.cache.policiesByKey.values, other ≠ otherPolicy →
          policyAllowsLookupHost twoPoliciesReader other "other.example" = false)
      ∧ ¬ BoundTo twoPoliciesReader (syncRecent twoPoliciesService emptyState
          twoPoliciesLog).1.cache demoNamespace otherUrl := by
  refine ⟨lasting_authority, lasting_issuer, lasting_record, lasting_otherPolicy,
    ⟨_, List.mem_cons_self .., by decide +kernel, by decide +kernel⟩, ?_, ?_⟩
  · rw [policies_after_log]
    intro other hother hne
    rcases List.mem_cons.mp hother with rfl | hlast
    · decide +kernel
    · exact absurd (List.mem_singleton.mp hlast) hne
  · rintro ⟨answer, hanswer, -⟩
    rw [twoPolicies_evaluated.2.2.2.2.2] at hanswer
    cases hanswer

/-- The first policy of the record resolves. -/
theorem first_policy_resolves :
    BoundTo twoPoliciesReader (syncRecent twoPoliciesService emptyState twoPoliciesLog).1.cache
      demoNamespace demoUrl := by
  refine (published_policy_resolves_iff twoPoliciesService twoPoliciesReader emptyState rfl
    twoPoliciesLog firstPolicy lasting_authority lasting_issuer lasting_firstPolicy demoUrl
    ⟨_, List.mem_cons_self .., by decide +kernel, by decide +kernel⟩ ?_).mpr ⟨rfl, ?_, ?_⟩
  · rw [policies_after_log]
    intro other hother hne
    rcases List.mem_cons.mp hother with rfl | hlast
    · exact absurd rfl hne
    · rw [List.mem_singleton.mp hlast]
      decide +kernel
  · obtain ⟨earlier, event, later, hsplit, ⟨hfirst, -⟩, hlater⟩ := lasting_record
    exact ⟨earlier, event, later, hsplit, hfirst, hlater⟩
  · rw [DecidingRuleAccepts, if_neg (by decide +kernel)]
    exact ⟨firstPolicy.approvedDestinations.head (by decide), by decide +kernel, by decide +kernel⟩

end PublishedPolicy
