import QrTrust.Network.PolicyDecodingProofs

/-! # The signature gate of the sync service

    Every cache write should come from a body whose signature was accepted.
    The gate demands a signature of the bodies it recognises; the projections
    write from the bodies they can decode.  For five of the six artifact types
    the two agree, since one decoder serves both.  For destination policies
    they are different functions, and `syncRecent_gated_iff` says exactly when
    a log slips a policy past the gate. -/

namespace SyncGate

open VerifierCache PolicyDecoding VerifierSync PolicyDecodingProofs Runs

variable {service : SyncService}

/-- The artifact an event is processed for: stored, and hashing to the hash the
    event names. -/
structure Fetched (service : SyncService) (event : NetworkEvent) (artifact : SignedArtifact) :
    Prop where
  processed : event.type ≠ "scanner.decision.recorded"
  stored : service.store.get? event.artifactId = some artifact
  hashed : hashesMatch service artifact event = true

/-- The question put to the verifier about a body, and its answer. -/
def asked (service : SyncService) (s : SyncState) (body : JsonValue) : SyncAction :=
  .verifyTrustArtifact body (service.verifyTrustArtifact s.trustKeyRegistry body)

/-- **GATED**: each cache write of an event is one that the body of its fetched
    artifact leads to, and comes after the verifier accepted that body. -/
def Gated (service : SyncService) (event : NetworkEvent) (s : SyncState)
    (actions : List SyncAction) : Prop :=
  ∀ before call after, actions = before ++ .cacheCall call :: after →
    ∃ artifact, Fetched service event artifact
      ∧ call ∈ projectionCalls service artifact.body event
      ∧ asked service s artifact.body ∈ before
      ∧ (service.verifyTrustArtifact s.trustKeyRegistry artifact.body).accepted = true

/-! ## The four ways an event can go -/

/-- What an event plans, by how far its artifact gets. -/
inductive PlanCase (service : SyncService) (s : SyncState) (event : NetworkEvent) :
    List SyncAction → Prop
  | notFetched (hnone : ∀ artifact, ¬ Fetched service event artifact) :
      PlanCase service s event []
  | unrecognized (artifact : SignedArtifact) (hfetched : Fetched service event artifact)
      (hguard : isRecognizedTrustArtifact artifact.body = false) :
      PlanCase service s event (projectionActions service s artifact.body event)
  | rejected (artifact : SignedArtifact) (hfetched : Fetched service event artifact)
      (hguard : isRecognizedTrustArtifact artifact.body = true) :
      PlanCase service s event [asked service s artifact.body]
  | accepted (artifact : SignedArtifact) (hfetched : Fetched service event artifact)
      (hguard : isRecognizedTrustArtifact artifact.body = true)
      (haccepted :
        (service.verifyTrustArtifact s.trustKeyRegistry artifact.body).accepted = true)
      (hscope : trustArtifactScopeMatchesBody artifact.body = true) :
      PlanCase service s event
        (asked service s artifact.body :: projectionActions service s artifact.body event)

/-- **ONE EVENT**: the four cases are all there is. -/
theorem planEvent_case (service : SyncService) (s : SyncState) (event : NetworkEvent) :
    PlanCase service s event (planEvent service s event).actions := by
  by_cases hprocessed : event.type = "scanner.decision.recorded"
  · rw [planEvent, if_pos hprocessed]
    exact .notFetched fun artifact h => h.processed hprocessed
  · rw [planEvent, if_neg hprocessed]
    cases hstored : service.store.get? event.artifactId with
    | none =>
        refine .notFetched fun artifact h => ?_
        rw [h.stored] at hstored
        exact nomatch hstored
    | some artifact =>
        cases hhash : hashesMatch service artifact event with
        | false =>
            simp only [hhash, Bool.not_false, if_true]
            refine .notFetched fun artifact' h => ?_
            obtain rfl := Option.some.inj (hstored.symm.trans h.stored)
            exact Bool.noConfusion (hhash.symm.trans h.hashed)
        | true =>
            have hfetched : Fetched service event artifact := ⟨hprocessed, hstored, hhash⟩
            cases hguard : isRecognizedTrustArtifact artifact.body with
            | false =>
                simp only [hhash, hguard, Bool.not_true, Bool.not_false, Bool.false_eq_true,
                  if_false, if_true]
                exact .unrecognized artifact hfetched hguard
            | true =>
                cases haccepted :
                    (service.verifyTrustArtifact s.trustKeyRegistry artifact.body).accepted with
                | false =>
                    simp only [hhash, hguard, haccepted, Bool.not_true, Bool.not_false,
                      Bool.false_eq_true, if_false, if_true]
                    exact .rejected artifact hfetched hguard
                | true =>
                    cases hscope : trustArtifactScopeMatchesBody artifact.body with
                    | false =>
                        simp only [hhash, hguard, haccepted, hscope, Bool.not_true,
                          Bool.not_false, Bool.false_eq_true, if_false, if_true]
                        exact .rejected artifact hfetched hguard
                    | true =>
                        simp only [hhash, hguard, haccepted, hscope, Bool.not_true,
                          Bool.false_eq_true, if_false]
                        exact .accepted artifact hfetched hguard haccepted hscope

/-! ## What a body the gate lets pass unasked can write -/

/-- A body the gate does not recognise fails every type guard. -/
theorem isRecognized_false {body : JsonValue} (h : isRecognizedTrustArtifact body = false) :
    rootManifestArtifactBody body = none
      ∧ delegatedAuthorityManifestArtifactBody body = none
      ∧ issuerRecordArtifactBody body = none
      ∧ isDestinationPolicyArtifactBody body = false
      ∧ revocationStatusArtifactBody body = none
      ∧ assuranceStatusArtifactBody body = none := by
  simpa only [isRecognizedTrustArtifact, Bool.or_eq_false_iff, Option.isSome_eq_false_iff,
    Option.isNone_iff_eq_none, and_assoc] using h

/-- **THE GAP**: an unrecognised body can only write a destination policy. -/
theorem projectionActions_unrecognized {s : SyncState} {body : JsonValue}
    {event : NetworkEvent} (h : isRecognizedTrustArtifact body = false) :
    projectionActions service s body event
      = (projectedPolicy service.js body event).toList.map fun policy =>
          .cacheCall (.upsertDestinationPolicy policy) := by
  obtain ⟨hroot, hauthority, hissuer, -, hrevocation, hassurance⟩ := isRecognized_false h
  have hcontext : rootAuthorityContextFromArtifact body = none := by
    rw [rootAuthorityContextFromArtifact, hroot]; rfl
  have hissuers : delegatedAuthorityIssuerContextFromArtifact body = none := by
    rw [delegatedAuthorityIssuerContextFromArtifact, hauthority]; rfl
  have hrecord : issuerProjectionFromArtifact body = none := by
    rw [issuerProjectionFromArtifact, hissuer]; rfl
  have hstatus : statusEventFromArtifact body = none := by
    rw [statusEventFromArtifact, hrevocation, hassurance]; rfl
  have hkeys : keyStatusUpdates s.trustKeyRegistry body = [] := by
    simp only [keyStatusUpdates, hrevocation]
    cases s.trustKeyRegistry <;> rfl
  rw [projectionActions, projectionCalls, hcontext, hissuers, hrecord, hstatus, hkeys]
  simp [Function.comp_def]

/-- A projected policy comes from a body of the policy type that decodes. -/
theorem projectedPolicy_eq_some {js : JsRuntime} {body : JsonValue} {event : NetworkEvent}
    {policy : DestinationPolicyProjection} (h : projectedPolicy js body event = some policy) :
    hasArtifactType body "destination_policy" = true
      ∧ destinationPolicyProjectionFromArtifactPublicationInput js
          (publicationInputOfEvent body event) = .ok policy := by
  obtain ⟨result, hresult, hpolicy⟩ := Option.bind_eq_some_iff.mp h
  rw [destinationPolicyProjectionFromArtifact] at hresult
  cases htype : artifactBodyTypeIs body "destination_policy" with
  | false => rw [htype] at hresult; exact nomatch hresult
  | true =>
      rw [htype] at hresult
      obtain rfl := Option.some.inj hresult
      rw [artifactBodyTypeIs, Bool.and_eq_true] at htype
      refine ⟨htype.2, ?_⟩
      cases hdecode : destinationPolicyProjectionFromArtifactPublicationInput js
          (publicationInputOfEvent body event) with
      | error e => rw [hdecode] at hpolicy; exact nomatch hpolicy
      | ok policy' =>
          rw [hdecode] at hpolicy
          obtain rfl := Option.some.inj hpolicy
          rfl

/-- The body of a projected policy is recognised exactly when it leaves nothing
    out. -/
theorem projectedPolicy_guard_iff {js : JsRuntime} {body : JsonValue} {event : NetworkEvent}
    (h : (projectedPolicy js body event).isSome = true) :
    isDestinationPolicyArtifactBody body = true ↔ ¬ LeavesOut body := by
  obtain ⟨policy, hpolicy⟩ := Option.isSome_iff_exists.mp h
  obtain ⟨htype, hdecode⟩ := projectedPolicy_eq_some hpolicy
  exact @decoded_guard_iff js (publicationInputOfEvent body event) policy htype hdecode

/-- A recognised body whose policy decodes passed the policy guard: no other
    guard holds of the policy type. -/
theorem isDestinationPolicy_of_recognized {body : JsonValue}
    (htype : hasArtifactType body "destination_policy" = true)
    (h : isRecognizedTrustArtifact body = true) :
    isDestinationPolicyArtifactBody body = true := by
  have hother : ∀ artifactType, artifactType ≠ "destination_policy" →
      hasArtifactType body artifactType = false := by
    intro artifactType hne
    rw [hasArtifactType, decide_eq_true_eq] at htype
    rw [hasArtifactType, decide_eq_false_iff_not, htype]
    exact fun heq => hne (Option.some.inj heq).symm
  have hroot : rootManifestArtifactBody body = none := by
    rw [rootManifestArtifactBody, hother "root_manifest" (by decide)]; rfl
  have hauthority : delegatedAuthorityManifestArtifactBody body = none := by
    rw [delegatedAuthorityManifestArtifactBody,
      hother "delegated_authority_manifest" (by decide)]; rfl
  have hissuer : issuerRecordArtifactBody body = none := by
    rw [issuerRecordArtifactBody, hother "issuer_record" (by decide)]; rfl
  have hrevocation : revocationStatusArtifactBody body = none := by
    rw [revocationStatusArtifactBody, hother "revocation_status_event" (by decide)]
    cases body.prop "target" <;> rfl
  have hassurance : assuranceStatusArtifactBody body = none := by
    rw [assuranceStatusArtifactBody, hother "assurance_status_event" (by decide)]
    cases body.prop "target" <;> rfl
  rw [isRecognizedTrustArtifact, hroot, hauthority, hissuer, hrevocation, hassurance] at h
  simpa using h

/-! ## The gate, event by event -/

/-- **UNSIGNED POLICY**: the event's artifact is stored under the right hashes,
    its body projects a policy, and it leaves out a field that the type guard
    demands. -/
def UnsignedPolicy (service : SyncService) (event : NetworkEvent) : Prop :=
  ∃ artifact, Fetched service event artifact
    ∧ (projectedPolicy service.js artifact.body event).isSome = true
    ∧ LeavesOut artifact.body

/-- An event has at most one fetched artifact. -/
theorem Fetched.unique {event : NetworkEvent} {artifact artifact' : SignedArtifact}
    (h : Fetched service event artifact) (h' : Fetched service event artifact') :
    artifact = artifact' :=
  Option.some.inj (h.stored.symm.trans h'.stored)

/-- A recognised body is no unsigned policy. -/
theorem not_unsignedPolicy_of_recognized {event : NetworkEvent} {artifact : SignedArtifact}
    (hfetched : Fetched service event artifact)
    (hguard : isRecognizedTrustArtifact artifact.body = true) :
    ¬ UnsignedPolicy service event := by
  rintro ⟨artifact', hfetched', hpolicy, hout⟩
  obtain rfl := hfetched.unique hfetched'
  obtain ⟨policy, hsome⟩ := Option.isSome_iff_exists.mp hpolicy
  have hpassed := isDestinationPolicy_of_recognized (projectedPolicy_eq_some hsome).1 hguard
  exact (projectedPolicy_guard_iff hpolicy).mp hpassed hout

/-- The single write of an ungated policy has no verification before it. -/
theorem not_gated_unsigned {event : NetworkEvent} {s : SyncState}
    {policy : DestinationPolicyProjection} :
    ¬ Gated service event s [.cacheCall (.upsertDestinationPolicy policy)] := by
  intro h
  obtain ⟨artifact, -, -, hasked, -⟩ := h [] (.upsertDestinationPolicy policy) [] rfl
  exact nomatch hasked

/-- **ONE EVENT, GATED**: the writes of an event are gated exactly when it
    brings no unsigned policy. -/
theorem planEvent_gated_iff (service : SyncService) (s : SyncState) (event : NetworkEvent) :
    Gated service event s (planEvent service s event).actions ↔
      ¬ UnsignedPolicy service event := by
  have hcase := planEvent_case service s event
  generalize (planEvent service s event).actions = actions at hcase
  cases hcase with
  | notFetched hnone =>
      refine iff_of_true ?_ (fun ⟨artifact, hfetched, _⟩ => hnone artifact hfetched)
      intro before call after h
      exact absurd h (by simp)
  | rejected artifact hfetched hguard =>
      refine iff_of_true ?_ (not_unsignedPolicy_of_recognized hfetched hguard)
      intro before call after h
      have hmem : SyncAction.cacheCall call ∈ [asked service s artifact.body] := by
        rw [h]; simp
      exact nomatch List.mem_singleton.mp hmem
  | accepted artifact hfetched hguard haccepted hscope =>
      refine iff_of_true ?_ (not_unsignedPolicy_of_recognized hfetched hguard)
      intro before call after h
      cases before with
      | nil => exact nomatch (List.cons.inj h).1
      | cons first before =>
          obtain ⟨rfl, htail⟩ := List.cons.inj h
          refine ⟨artifact, hfetched, ?_, List.mem_cons_self .., haccepted⟩
          have hmem : SyncAction.cacheCall call
              ∈ projectionActions service s artifact.body event := by
            rw [htail]; simp
          rw [projectionActions, List.mem_append] at hmem
          rcases hmem with hcall | hkey
          · obtain ⟨call', hcall', heq⟩ := List.mem_map.mp hcall
            obtain rfl := SyncAction.cacheCall.inj heq
            exact hcall'
          · obtain ⟨input, -, heq⟩ := List.mem_map.mp hkey
            exact nomatch heq
  | unrecognized artifact hfetched hguard =>
      rw [projectionActions_unrecognized hguard]
      cases hpolicy : projectedPolicy service.js artifact.body event with
      | none =>
          refine iff_of_true ?_ ?_
          · intro before call after h
            exact absurd h (by simp)
          · rintro ⟨artifact', hfetched', hsome, -⟩
            obtain rfl := hfetched.unique hfetched'
            rw [hpolicy] at hsome
            exact Bool.noConfusion hsome
      | some policy =>
          refine iff_of_false not_gated_unsigned (not_not.mpr ?_)
          have hsome : (projectedPolicy service.js artifact.body event).isSome = true := by
            rw [hpolicy]; rfl
          refine ⟨artifact, hfetched, hsome, ?_⟩
          by_contra hout
          have hpassed := (projectedPolicy_guard_iff hsome).mpr hout
          exact Bool.noConfusion ((isRecognized_false hguard).2.2.2.1.symm.trans hpassed)

/-- **THE GATE**: over every store, log, verifier and prior state, every cache
    write of `syncRecent` is gated exactly when the log brings no unsigned
    policy. -/
theorem syncRecent_gated_iff (service : SyncService) (s : SyncState)
    (events : List NetworkEvent) :
    (∀ entry ∈ (machine service).trace s events,
        Gated service entry.1 entry.2.1 entry.2.2) ↔
      ∀ event ∈ events, ¬ UnsignedPolicy service event := by
  constructor
  · intro h event hevent
    obtain ⟨s', hs'⟩ := (machine service).exists_trace_of_mem hevent
    exact (planEvent_gated_iff service s' event).mp (h _ hs')
  · rintro h ⟨event, s', actions⟩ hentry
    obtain ⟨hevent, rfl⟩ := (machine service).mem_trace hentry
    exact (planEvent_gated_iff service s' event).mpr (h event hevent)

/-! ## A policy nobody signed -/

/-- A policy body without an `issuer_id`. -/
def unsignedPolicyBody : JsonValue :=
  .obj
    [ ("artifact_type", .str "destination_policy"),
      ("root_program_id", .str "root:demo"),
      ("delegated_authority_id", .str "authority:demo"),
      ("destination_policy_id", .str "policy:demo"),
      ("approved_destinations", .arr
        [ .obj
            [ ("destination_id", .str "dest:pay"),
              ("expected_final_url", .str "https://evil.example/"),
              ("allowed_hosts", .arr [.str "evil.example"]),
              ("allow_subdomains", .bool false),
              ("path_prefixes", .arr []),
              ("query_policy", .str "none") ] ]),
      ("redirect_policy", .obj
        [ ("resolver_urls", .arr []),
          ("expected_final_destinations", .arr []),
          ("allowed_redirect_hosts", .arr []),
          ("max_redirect_hops", .num 0),
          ("nested_shorteners_allowed", .bool false),
          ("scanner_must_display_resolver_and_final_destination", .bool true) ]),
      ("publication", .obj
        [ ("published_at", .str "2026-01-01T00:00:00Z"),
          ("valid_until", .str "2027-01-01T00:00:00Z") ]) ]

/-- The digest of that body. -/
def unsignedPolicyHash : String :=
  "74a6cd20e8abfd6c266214fab113e16644e97d737dec5c29ec2ce2c87a584b79"

/-- The event that names the body fills in the issuer. -/
def unsignedPolicyEvent : NetworkEvent where
  type := "destination.policy.published"
  occurredAt := "2026-01-01T00:00:00Z"
  rootProgramId := "root:demo"
  delegatedAuthorityId := some "authority:demo"
  issuerId := some "issuer:victim"
  destinationPolicyId := some "policy:demo"
  artifactId := "artifact:policy"
  artifactHash := "sha256:" ++ unsignedPolicyHash

/-- A host that parses the one URL of the body and hashes the one body of the
    store, beside a verifier that refuses every signature. -/
def unsignedPolicyService : SyncService where
  js :=
    { parseUrl := fun text =>
        if text = "https://evil.example/" then
          some
            { href := "https://evil.example/", protocol := "https:", username := ""
              password := "", hostname := "evil.example", pathname := "/"
              searchParams := [] }
        else none
      toLowerCase := fun text => String.ofList (text.toList.map Char.toLower)
      toISOString := fun _ => some "2026-01-01T00:00:00.000Z"
      hashJson := fun _ => unsignedPolicyHash }
  store := .ofList
    [("artifact:policy", ⟨"sha256:" ++ unsignedPolicyHash, unsignedPolicyBody⟩)]
  verifyTrustArtifact := fun _ _ => ⟨false, "key_not_found"⟩

/-- The policy as it reaches the cache. -/
def unsignedPolicy : DestinationPolicyProjection where
  ns := ⟨"root:demo", "authority:demo", "issuer:victim"⟩
  destinationPolicyId := "policy:demo"
  approvedDestinations :=
    [ { destinationId := "dest:pay"
        expectedFinalUrl := "https://evil.example/"
        allowedHosts := ["evil.example"]
        allowSubdomains := false
        pathPrefixes := []
        queryPolicy := "none"
        allowedQueryKeys := none } ]
  redirectPolicy :=
    { resolverUrls := []
      expectedFinalDestinations := []
      allowedRedirectHosts := []
      maxRedirectHops := 0
      nestedShortenersAllowed := false
      scannerMustDisplayResolverAndFinalDestination := true }
  allowedHosts := ["evil.example"]
  allowSubdomains := false
  cacheGeneratedAt := "2026-01-01T00:00:00Z"
  cacheExpiresAt := "2027-01-01T00:00:00Z"

/-- A verifier that refuses every signature still sees the policy written. -/
theorem unsigned_policy_written :
    ¬ ∀ entry ∈ (machine unsignedPolicyService).trace ⟨.empty, none⟩ [unsignedPolicyEvent],
        Gated unsignedPolicyService entry.1 entry.2.1 entry.2.2 := by
  have hplan : (planEvent unsignedPolicyService ⟨.empty, none⟩ unsignedPolicyEvent).actions
      = [.cacheCall (.upsertDestinationPolicy unsignedPolicy)] := by
    rfl
  intro h
  have hgated : Gated unsignedPolicyService unsignedPolicyEvent ⟨.empty, none⟩
      (planEvent unsignedPolicyService ⟨.empty, none⟩ unsignedPolicyEvent).actions :=
    h _ (List.mem_cons_self ..)
  rw [hplan] at hgated
  exact not_gated_unsigned hgated

end SyncGate
