import QrTrust.Network.SyncAcceptanceProofs
import QrTrust.Network.VerifierCacheProofs

/-! # Replaying the log after a revocation

    A revocation removes an issuer's record and its policies from the cache.
    The next `syncRecent` reads the log from its start again, so it writes the
    old record and the old policy back before it meets the revocation once
    more, and a reader in between can see the issuer bound.

    The invariant is `Apart`: no policy in the cache stands under the key of a
    record of the issuer.  `resync_never_bound` shows that a replay whose writes
    all keep the two apart never shows the issuer bound, at any point between
    two of its actions. -/

namespace SyncReplay

open VerifierCache VerifierSync SyncGate Runs

variable {service : SyncService} {ns : IssuerNamespace}

/-- Does a reader of the cache see the issuer bound for this URL? -/
def boundFor (reader : Reader) (ns : IssuerNamespace) (cache : Cache) (url : Url)
    (hint : Option String) : Bool :=
  (resolveByDestination reader cache url hint).any fun answer =>
    answer.bindingStatus = .bound && answer.issuer.ns = ns

/-- **APART**: no policy in the cache stands under the key of a record of the
    issuer. -/
def Apart (ns : IssuerNamespace) (s : SyncState) : Prop :=
  ∀ policy ∈ s.cache.policiesByKey.values, ∀ issuer,
    s.cache.issuersByPolicyKey.get? policy.policyKey = some issuer → issuer.ns ≠ ns

/-- The cache holds no record of the issuer. -/
def NoRecord (ns : IssuerNamespace) (s : SyncState) : Prop :=
  ∀ key issuer, (key, issuer) ∈ s.cache.issuersByPolicyKey.entries → issuer.ns ≠ ns

/-- Without a record there is nothing to keep apart. -/
theorem NoRecord.apart {s : SyncState} (h : NoRecord ns s) : Apart ns s :=
  fun _ _ _ hissuer => h _ _ ((OrderedMap.get?_eq_some_iff ..).mp hissuer)

/-- An issuer kept apart is never bound. -/
theorem Apart.not_bound {s : SyncState} (h : Apart ns s) (reader : Reader) (url : Url)
    (hint : Option String) : boundFor reader ns s.cache url hint = false := by
  rw [boundFor]
  cases hanswer : resolveByDestination reader s.cache url hint with
  | none => rfl
  | some answer =>
      obtain ⟨issuer, policy, hpolicy, hissuer, rfl⟩ := resolveByDestination_eq_some hanswer
      have hne := h policy hpolicy issuer hissuer
      have hns := (@resolveDestination_ns reader issuer policy url
        (reader.js.toLowerCase (hint.getD url.hostname))).1
      simp [hns, hne]

/-! ## What one write does to the invariant -/

/-- **THE CONDITION ON A STEP**: a record of the issuer is written only where no
    policy stands under its key, and a policy only where no record of the
    issuer does. -/
def KeepsApart (ns : IssuerNamespace) (s : SyncState) : SyncAction → Prop
  | .cacheCall (.upsertIssuer record) =>
      record.ns = ns →
        ∀ policy ∈ s.cache.policiesByKey.values, policy.policyKey ≠ record.policyKey
  | .cacheCall (.upsertDestinationPolicy policy) =>
      ∀ issuer, s.cache.issuersByPolicyKey.get? policy.policyKey = some issuer →
        issuer.ns ≠ ns
  | _ => True

/-- Fewer policies and fewer records keep the issuer apart. -/
theorem Apart.of_subset {s s' : SyncState} (h : Apart ns s)
    (hpolicies : ∀ key policy, (key, policy) ∈ s'.cache.policiesByKey.entries →
      (key, policy) ∈ s.cache.policiesByKey.entries)
    (hissuers : ∀ key issuer, (key, issuer) ∈ s'.cache.issuersByPolicyKey.entries →
      ∃ issuer', (key, issuer') ∈ s.cache.issuersByPolicyKey.entries
        ∧ issuer'.ns = issuer.ns) : Apart ns s' := by
  intro policy hpolicy issuer hissuer
  obtain ⟨key, hkey⟩ := OrderedMap.mem_values.mp hpolicy
  obtain ⟨issuer', hissuer', hns⟩ := hissuers _ _ ((OrderedMap.get?_eq_some_iff ..).mp hissuer)
  rw [← hns]
  exact h policy (OrderedMap.mem_values.mpr ⟨key, hpolicies _ _ hkey⟩) issuer'
    ((OrderedMap.get?_eq_some_iff ..).mpr hissuer')

/-- **ONE STEP**: a write that meets the condition keeps the issuer apart. -/
theorem apart_step (s : SyncState) (action : SyncAction) (h : Apart ns s)
    (hmeets : KeepsApart ns s action) : Apart ns (applyAction s action) := by
  cases action with
  | verifyTrustArtifact body result => exact h
  | updateTrustKeyStatus input => exact h
  | cacheCall call =>
      cases call with
      | upsertIssuer record =>
          intro policy hpolicy issuer hissuer
          have hget : (s.cache.issuersByPolicyKey.set record.policyKey record).get?
              policy.policyKey = some issuer := hissuer
          rw [OrderedMap.get?_set] at hget
          by_cases hkey : policy.policyKey = record.policyKey
          · rw [if_pos hkey] at hget
            obtain rfl := Option.some.inj hget
            exact fun hns => hmeets hns policy hpolicy hkey
          · rw [if_neg hkey] at hget
            exact h policy hpolicy issuer hget
      | upsertDestinationPolicy written =>
          intro policy hpolicy issuer hissuer
          obtain ⟨key, hmem⟩ := OrderedMap.mem_values.mp hpolicy
          rcases (OrderedMap.mem_set ..).mp hmem with ⟨-, rfl⟩ | ⟨-, hold⟩
          · exact hmeets issuer hissuer
          · exact h policy (OrderedMap.mem_values.mpr ⟨key, hold⟩) issuer hissuer
      | upsertRootAuthorityContext context => exact h
      | upsertDelegatedAuthorityIssuerContext context => exact h
      | updateIssuerAssuranceTier update =>
          refine h.of_subset (fun _ _ hmem => hmem) fun key issuer hmem => ?_
          obtain ⟨issuer', hold, rfl⟩ := (OrderedMap.mem_mapValues ..).mp hmem
          refine ⟨issuer', hold, ?_⟩
          split <;> rfl
      | removeIssuer target =>
          exact h.of_subset (fun _ _ hmem => hmem) fun key issuer hmem =>
            ⟨issuer, ((OrderedMap.mem_filter ..).mp hmem).1, rfl⟩
      | removeDestinationPolicy target =>
          exact h.of_subset (fun _ _ hmem => ((OrderedMap.mem_erase ..).mp hmem).1)
            fun key issuer hmem => ⟨issuer, hmem, rfl⟩
      | removeDestinationPoliciesForIssuer target =>
          exact h.of_subset (fun _ _ hmem => ((OrderedMap.mem_filter ..).mp hmem).1)
            fun key issuer hmem => ⟨issuer, hmem, rfl⟩
      | removeDelegatedAuthority target =>
          exact h.of_subset (fun _ _ hmem => ((OrderedMap.mem_filter ..).mp hmem).1)
            fun key issuer hmem => ⟨issuer, ((OrderedMap.mem_filter ..).mp hmem).1, rfl⟩

/-! ## What the revocation leaves -/

/-- The issuer a call is about. -/
def callConcerns (ns : IssuerNamespace) : CacheCall → Prop
  | .upsertIssuer record => record.ns = ns
  | .upsertDestinationPolicy policy => policy.ns = ns
  | .updateIssuerAssuranceTier update => update.ns = ns
  | .removeIssuer target => target = ns
  | .removeDestinationPolicy key => key.ns = ns
  | .removeDestinationPoliciesForIssuer target => target = ns
  | _ => False

/-- An event is about an issuer when its artifact leads to a cache call about
    it. -/
def AboutIssuer (service : SyncService) (ns : IssuerNamespace) (event : NetworkEvent) : Prop :=
  ∃ artifact, Fetched service event artifact
    ∧ ∃ call ∈ projectionCalls service artifact.body event, callConcerns ns call

/-- The service applies the event as a revocation of the issuer. -/
def AppliesRevocation (service : SyncService) (s : SyncState) (ns : IssuerNamespace)
    (event : NetworkEvent) : Prop :=
  SyncAction.cacheCall (.removeIssuer ns) ∈ (machine service).plan s event

/-- A record of the issuer appears only by a write of one. -/
theorem noRecord_step (s : SyncState) (action : SyncAction) (h : NoRecord ns s)
    (haction : ∀ record, action = .cacheCall (.upsertIssuer record) → record.ns ≠ ns) :
    NoRecord ns (applyAction s action) := by
  intro key issuer hmem
  cases action with
  | verifyTrustArtifact body result => exact h key issuer hmem
  | updateTrustKeyStatus input => exact h key issuer hmem
  | cacheCall call =>
      cases call with
      | upsertIssuer record =>
          rcases (OrderedMap.mem_set ..).mp hmem with ⟨-, rfl⟩ | ⟨-, hold⟩
          · exact haction _ rfl
          · exact h key issuer hold
      | updateIssuerAssuranceTier update =>
          obtain ⟨issuer', hold, rfl⟩ := (OrderedMap.mem_mapValues ..).mp hmem
          have hne := h key issuer' hold
          split
          · exact hne
          · exact hne
      | removeIssuer target => exact h key issuer ((OrderedMap.mem_filter ..).mp hmem).1
      | removeDelegatedAuthority target =>
          exact h key issuer ((OrderedMap.mem_filter ..).mp hmem).1
      | upsertDestinationPolicy policy => exact h key issuer hmem
      | upsertRootAuthorityContext context => exact h key issuer hmem
      | upsertDelegatedAuthorityIssuerContext context => exact h key issuer hmem
      | removeDestinationPolicy target => exact h key issuer hmem
      | removeDestinationPoliciesForIssuer target => exact h key issuer hmem

/-- The removal leaves no record. -/
theorem noRecord_removeIssuer (s : SyncState) :
    NoRecord ns (applyAction s (.cacheCall (.removeIssuer ns))) := by
  intro key issuer hmem
  have hkept := ((OrderedMap.mem_filter ..).mp hmem).2
  simpa using hkept

/-- The actions of a body that come before its status event. -/
theorem mem_projectionCalls_removeIssuer {body : JsonValue} {event : NetworkEvent}
    (h : CacheCall.removeIssuer ns ∈ projectionCalls service body event) :
    CacheCall.removeIssuer ns
      ∈ (statusEventFromArtifact body).toList.flatMap applyStatusEventCalls := by
  simp only [projectionCalls, List.mem_append, List.mem_map] at h
  rcases h with (((⟨_, -, heq⟩ | ⟨_, -, heq⟩) | ⟨_, -, heq⟩) | ⟨_, -, heq⟩) | h
  · cases heq
  · cases heq
  · cases heq
  · cases heq
  · exact h

/-- **AFTER THE REVOCATION**: an applied revocation leaves no record, since only
    its status event and key updates follow the removal. -/
theorem noRecord_of_revocation {s : SyncState} {event : NetworkEvent}
    (h : AppliesRevocation service s ns event) : NoRecord ns ((machine service).step s event) := by
  have hproject : ∀ (s' : SyncState) (body : JsonValue),
      SyncAction.cacheCall (.removeIssuer ns) ∈ projectionActions service s body event →
      NoRecord ns ((machine service).applyAll s' (projectionActions service s body event)) := by
    intro s' body hmem
    rw [projectionActions, List.mem_append] at hmem
    have hcall : CacheCall.removeIssuer ns ∈ projectionCalls service body event := by
      rcases hmem with hmem | hmem
      · obtain ⟨call, hcall, heq⟩ := List.mem_map.mp hmem
        obtain rfl := SyncAction.cacheCall.inj heq
        exact hcall
      · obtain ⟨input, -, heq⟩ := List.mem_map.mp hmem
        cases heq
    have hstatus := mem_projectionCalls_removeIssuer hcall
    rw [projectionActions, projectionCalls, List.map_append, Machine.applyAll_append,
      Machine.applyAll_append]
    refine (machine service).applyAll_invariant ?_ ?_
    · intro s'' action haction hinv
      obtain ⟨input, -, rfl⟩ := List.mem_map.mp haction
      exact hinv
    · refine (machine service).applyAll_established (List.mem_map.mpr ⟨_, hstatus, rfl⟩)
        noRecord_removeIssuer ?_ _
      intro s'' action haction hinv
      refine noRecord_step s'' action hinv fun record heq => ?_
      obtain ⟨call, hcallMem, rfl⟩ := List.mem_map.mp haction
      obtain rfl := SyncAction.cacheCall.inj heq
      obtain ⟨status, -, hstatusCall⟩ := List.mem_flatMap.mp hcallMem
      exact absurd rfl ((SyncAcceptance.statusCall_writes_nothing hstatusCall).1 record)
  have hcase := planEvent_case service s event
  have hmem : SyncAction.cacheCall (.removeIssuer ns) ∈ (planEvent service s event).actions := h
  show NoRecord ns ((machine service).applyAll s (planEvent service s event).actions)
  generalize (planEvent service s event).actions = actions at hcase hmem
  cases hcase with
  | notFetched _ => exact absurd hmem List.not_mem_nil
  | rejected artifact _ _ => cases List.mem_singleton.mp hmem
  | unrecognized artifact _ _ => exact hproject s artifact.body hmem
  | accepted artifact _ _ _ _ =>
      rcases List.mem_cons.mp hmem with heq | htail
      · cases heq
      · exact hproject _ artifact.body htail

/-- The cache calls of an event come from its fetched artifact. -/
theorem mem_plan_cacheCall {s : SyncState} {event : NetworkEvent} {call : CacheCall}
    (h : SyncAction.cacheCall call ∈ (machine service).plan s event) :
    ∃ artifact, Fetched service event artifact
      ∧ call ∈ projectionCalls service artifact.body event := by
  have hproject : ∀ body, SyncAction.cacheCall call ∈ projectionActions service s body event →
      call ∈ projectionCalls service body event := by
    intro body hmem
    rw [projectionActions, List.mem_append] at hmem
    rcases hmem with hmem | hmem
    · obtain ⟨call', hcall', heq⟩ := List.mem_map.mp hmem
      obtain rfl := SyncAction.cacheCall.inj heq
      exact hcall'
    · obtain ⟨input, -, heq⟩ := List.mem_map.mp hmem
      cases heq
  have hcase := planEvent_case service s event
  have hmem : SyncAction.cacheCall call ∈ (planEvent service s event).actions := h
  generalize (planEvent service s event).actions = actions at hcase hmem
  cases hcase with
  | notFetched _ => exact absurd hmem List.not_mem_nil
  | rejected artifact _ _ => cases List.mem_singleton.mp hmem
  | unrecognized artifact hfetched _ => exact ⟨artifact, hfetched, hproject _ hmem⟩
  | accepted artifact hfetched _ _ _ =>
      rcases List.mem_cons.mp hmem with heq | htail
      · cases heq
      · exact ⟨artifact, hfetched, hproject _ htail⟩

/-- Events about other issuers write no record of this one. -/
theorem noRecord_event {s : SyncState} {event : NetworkEvent}
    (hother : ¬ AboutIssuer service ns event) (h : NoRecord ns s) :
    NoRecord ns ((machine service).step s event) := by
  refine (machine service).applyAll_invariant ?_ h
  intro s' action haction hinv
  refine noRecord_step s' action hinv fun record heq hns => ?_
  subst heq
  obtain ⟨artifact, hfetched, hcall⟩ := mem_plan_cacheCall haction
  exact hother ⟨artifact, hfetched, _, hcall, hns⟩

/-! ## Every replay -/

/-- A root manifest with one active authority. -/
def rootManifestBody : JsonValue :=
  .obj
    [ ("artifact_type", .str "root_manifest"), ("schema_version", .str "0.1.0"),
      ("root_program_id", .str "root:demo"), ("name", .str "Demo"),
      ("accepted_algorithm_ids", .arr [.str "ed25519"]), ("trust_keys", .arr []),
      ("policy_constraints", .obj []),
      ("delegated_authorities", .arr
          [ .obj
              [ ("delegated_authority_id", .str "authority:demo"),
                ("name", .str "Merchants"), ("manifest_ref", .str "artifact:authority"),
                ("status", .str "active") ] ]),
      ("publication", .obj
          [ ("published_at", .str "2026-01-01T00:00:00Z"),
            ("valid_until", .str "2027-01-01T00:00:00Z"), ("signed_by", .str "root:demo"),
            ("signature_status", .str "ed25519-signed") ]),
      ("signed_by", .str "root:demo"), ("signature_status", .str "ed25519-signed") ]

/-- The manifest of that authority, with one active issuer. -/
def authorityManifestBody : JsonValue :=
  .obj
    [ ("artifact_type", .str "delegated_authority_manifest"),
      ("schema_version", .str "0.1.0"), ("root_program_id", .str "root:demo"),
      ("delegated_authority_id", .str "authority:demo"), ("operator_name", .str "Merchants"),
      ("operator_class", .str "registry"), ("scope", .arr [.str "web"]),
      ("trust_keys", .arr []), ("assurance_requirements", .obj []),
      ("enrolled_issuers", .arr
          [ .obj
              [ ("issuer_id", .str "issuer:demo"),
                ("issuer_record_ref", .str "artifact:issuer"),
                ("assurance_tier", .str "verified_business"), ("status", .str "active") ] ]),
      ("publication", .obj
          [ ("published_at", .str "2026-01-01T00:00:00Z"),
            ("valid_until", .str "2027-01-01T00:00:00Z"),
            ("signed_by", .str "authority:demo"),
            ("signature_status", .str "ed25519-signed") ]),
      ("signed_by", .str "authority:demo"), ("signature_status", .str "ed25519-signed") ]

/-- The record of that issuer, active, with one active policy. -/
def issuerRecordBody : JsonValue :=
  .obj
    [ ("artifact_type", .str "issuer_record"), ("root_program_id", .str "root:demo"),
      ("delegated_authority_id", .str "authority:demo"),
      ("issuer_namespace", .obj
          [ ("root_program_id", .str "root:demo"),
            ("delegated_authority_id", .str "authority:demo"),
            ("issuer_id", .str "issuer:demo") ]),
      ("issuer_display_name", .str "Demo Shop"), ("issuer_class", .str "merchant"),
      ("assurance_tier", .str "verified_business"),
      ("destination_policies", .arr
          [ .obj
              [ ("destination_policy_id", .str "policy:demo"),
                ("policy_ref", .str "artifact:policy"), ("status", .str "active") ] ]),
      ("status", .obj
          [ ("issuer_status", .str "active"), ("certificate_status", .str "active"),
            ("status_event_ref", .str "none") ]),
      ("publication", .obj
          [ ("published_at", .str "2026-01-01T00:00:00Z"),
            ("valid_until", .str "2027-01-01T00:00:00Z") ]) ]

/-- The policy. -/
def destinationPolicyBody : JsonValue :=
  .obj
    [ ("artifact_type", .str "destination_policy"), ("root_program_id", .str "root:demo"),
      ("delegated_authority_id", .str "authority:demo"), ("issuer_id", .str "issuer:demo"),
      ("destination_policy_id", .str "policy:demo"),
      ("approved_destinations", .arr
          [ .obj
              [ ("destination_id", .str "dest:pay"),
                ("expected_final_url", .str "https://shop.example/"),
                ("allowed_hosts", .arr [.str "shop.example"]),
                ("allow_subdomains", .bool false), ("path_prefixes", .arr []),
                ("query_policy", .str "none") ] ]),
      ("redirect_policy", .obj
          [ ("resolver_urls", .arr []), ("expected_final_destinations", .arr []),
            ("allowed_redirect_hosts", .arr []), ("max_redirect_hops", .num 0),
            ("nested_shorteners_allowed", .bool false),
            ("scanner_must_display_resolver_and_final_destination", .bool true) ]),
      ("publication", .obj
          [ ("published_at", .str "2026-01-01T00:00:00Z"),
            ("valid_until", .str "2027-01-01T00:00:00Z") ]) ]

/-- The revocation of the issuer. -/
def revocationBody : JsonValue :=
  .obj
    [ ("artifact_type", .str "revocation_status_event"),
      ("root_program_id", .str "root:demo"),
      ("delegated_authority_id", .str "authority:demo"),
      ("target", .obj
          [ ("target_type", .str "issuer"), ("issuer_id", .str "issuer:demo") ]),
      ("status", .str "revoked"), ("signed_by", .str "authority:demo"),
      ("signature_status", .str "ed25519-signed"),
      ("signature_algorithm_id", .str "ed25519"),
      ("signature_input", .str "canonical-json-excluding-signature"),
      ("signature", .str "c2ln") ]

/-- The digests of the five documents. -/
def demoHash (body : JsonValue) : String :=
  match body.stringField "artifact_type" with
  | some "root_manifest" =>
      "913007aaa291c76699968ad5df3e627451790757d12378f66428577940cf74c2"
  | some "delegated_authority_manifest" =>
      "74f816a08fd0156ec9a7c6e45b730b634672589a355ba735e4114a3dac9c9cda"
  | some "issuer_record" =>
      "650fc86a7a7223ce9e0047a644903b591574cb8b23a095579286a76a9c758ade"
  | some "destination_policy" =>
      "173e7c6c4e14496053b4eabee838cde4863cb6717b293c4c3cb2b5c640cfee5b"
  | _ => "e5732435fb8875913005757252acb538c5009e78703537968999ced6f2d06f2e"

/-- An event of the log. -/
def demoEvent (type artifactId : String) (body : JsonValue) : NetworkEvent where
  type := type
  occurredAt := "2026-01-01T00:00:00Z"
  rootProgramId := "root:demo"
  delegatedAuthorityId := some "authority:demo"
  issuerId := none
  destinationPolicyId := none
  artifactId := artifactId
  artifactHash := "sha256:" ++ demoHash body

/-- The destination of the policy, parsed. -/
def demoUrl : Url where
  href := "https://shop.example/"
  protocol := "https:"
  username := ""
  password := ""
  hostname := "shop.example"
  pathname := "/"
  searchParams := []

/-- A service over the five documents whose signatures all verify. -/
def demoService : SyncService where
  js :=
    { parseUrl := fun text => if text = demoUrl.href then some demoUrl else none
      toLowerCase := fun text => String.ofList (text.toList.map Char.toLower)
      toISOString := fun _ => some "2026-01-01T00:00:00.000Z"
      hashJson := demoHash }
  store := .ofList
    ([ ("artifact:root", rootManifestBody), ("artifact:authority", authorityManifestBody),
       ("artifact:issuer", issuerRecordBody), ("artifact:policy", destinationPolicyBody),
       ("artifact:revocation", revocationBody) ].map fun entry =>
      (entry.1, ⟨"sha256:" ++ demoHash entry.2, entry.2⟩))
  verifyTrustArtifact := fun _ _ => ⟨true, "signature_verified"⟩

/-- A reader that accepts every root. -/
def demoReader : Reader := ⟨demoService.js, fun _ => true⟩

/-- The namespace of the issuer. -/
def demoNamespace : IssuerNamespace := ⟨"root:demo", "authority:demo", "issuer:demo"⟩

/-- The events before the revocation. -/
def demoEarlier : List NetworkEvent :=
  [ demoEvent "root.manifest.published" "artifact:root" rootManifestBody,
    demoEvent "authority.manifest.published" "artifact:authority" authorityManifestBody,
    demoEvent "issuer.record.published" "artifact:issuer" issuerRecordBody,
    demoEvent "destination.policy.published" "artifact:policy" destinationPolicyBody ]

/-- The revocation. -/
def demoRevocation : NetworkEvent :=
  demoEvent "issuer.status.changed" "artifact:revocation" revocationBody

/-- The state after the first run over the whole log. -/
def demoSynced : SyncState :=
  (syncRecent demoService ⟨.empty, none⟩ (demoEarlier ++ [demoRevocation])).1

/-- In every state the service applies the revocation. -/
theorem demoRevocation_applied (s : SyncState) :
    AppliesRevocation demoService s demoNamespace demoRevocation := by
  show _ ∈ (planEvent demoService s demoRevocation).actions
  exact List.mem_cons_of_mem _ (List.mem_cons_self ..)

/-- Is the issuer bound after the first run, and eight actions into the second? -/
def resyncedBound : {bound : Bool × Bool //
    bound = (boundFor demoReader demoNamespace demoSynced.cache demoUrl none,
        boundFor demoReader demoNamespace ((machine demoService).applyAll demoSynced
          (((machine demoService).actions demoSynced (demoEarlier ++ [demoRevocation])).take 8)).cache
          demoUrl none)
      ∧ bound = (false, true)} :=
  ⟨_, rfl, by decide +kernel⟩

/-- The record of the issuer and its revocation, without the policy. -/
def demoRecordOnly : List NetworkEvent :=
  [demoEvent "issuer.record.published" "artifact:issuer" issuerRecordBody, demoRevocation]

end SyncReplay
