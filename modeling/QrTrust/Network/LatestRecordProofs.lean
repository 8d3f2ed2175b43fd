import QrTrust.Network.PolicyMatchProofs
import QrTrust.Network.SyncAcceptanceProofs
import QrTrust.Network.SyncReplayProofs

/-! # The latest issuer record

    An issuer record is the last word on its issuer: its status, its
    certificate, and which policies stand.  The service writes a projection for
    a favourable record and does nothing for any other, so what an earlier
    record wrote stays.  `latest_record_wins` says when the last record does
    win: when no projection of the issuer under the policy was left to stay. -/

namespace LatestRecord

open VerifierCache VerifierSync SyncGate SyncAcceptance SyncReplay Runs

variable {service : SyncService} {s : SyncState} {event : NetworkEvent}
  {record : IssuerRecordArtifactBody} {ns : IssuerNamespace} {destinationPolicyId : String}

/-- The record's issuer and certificate are active, and it lists the policy as
    active. -/
def Favours (record : IssuerRecordArtifactBody) (destinationPolicyId : String) : Prop :=
  record.issuerStatus = .active ∧ record.certificateStatus = .active
    ∧ ∃ entry ∈ record.destinationPolicies,
        entry.id = destinationPolicyId ∧ entry.status = .active

/-- The event brings an accepted issuer record. -/
def AcceptsRecord (service : SyncService) (s : SyncState) (event : NetworkEvent)
    (record : IssuerRecordArtifactBody) : Prop :=
  ∃ artifact, Accepted service s event artifact
    ∧ issuerRecordArtifactBody artifact.body = some record

/-- The cache holds a projection of the issuer under the policy. -/
def HoldsProjection (cache : Cache) (ns : IssuerNamespace) (destinationPolicyId : String) :
    Prop :=
  ∃ key issuer, (key, issuer) ∈ cache.issuersByPolicyKey.entries
    ∧ issuer.ns = ns ∧ issuer.destinationPolicyId = destinationPolicyId

/-- A reader is answered with the issuer under the policy. -/
def AnswersUnder (reader : Reader) (cache : Cache) (ns : IssuerNamespace)
    (destinationPolicyId : String) : Prop :=
  (∃ host issuer, resolveByHost reader cache host = some issuer
      ∧ issuer.ns = ns ∧ issuer.destinationPolicyId = destinationPolicyId)
    ∨ ∃ url hint answer, resolveByDestination reader cache url hint = some answer
      ∧ answer.issuer.ns = ns ∧ answer.issuer.destinationPolicyId = destinationPolicyId

/-- An answer needs a projection. -/
theorem holdsProjection_of_answers {reader : Reader} {cache : Cache}
    (h : AnswersUnder reader cache ns destinationPolicyId) :
    HoldsProjection cache ns destinationPolicyId := by
  rcases h with ⟨host, answer, hanswer, hns, hid⟩ | ⟨url, hint, answer, hanswer, hns, hid⟩
  · obtain ⟨issuer, policy, -, hissuer, rfl⟩ := resolveByHost_eq_some hanswer
    exact ⟨_, issuer, (OrderedMap.get?_eq_some_iff ..).mp hissuer, hns, hid⟩
  · obtain ⟨issuer, policy, -, hissuer, rfl⟩ := resolveByDestination_eq_some hanswer
    obtain ⟨host, hmaterialized⟩ := @resolveDestination_issuer reader issuer policy url
      (reader.js.toLowerCase (hint.getD url.hostname))
    rw [hmaterialized] at hns hid
    exact ⟨_, issuer, (OrderedMap.get?_eq_some_iff ..).mp hissuer, hns, hid⟩

/-! ## Who writes a projection -/

/-- What a projection says about its record. -/
theorem issuerProjection_eq_some {body : JsonValue} {projection : IssuerProjection}
    (h : issuerProjectionFromArtifact body = some projection) :
    ∃ record entry, issuerRecordArtifactBody body = some record
      ∧ record.issuerStatus = .active ∧ record.certificateStatus = .active
      ∧ record.destinationPolicies.find? (·.status = .active) = some entry
      ∧ projection.ns = record.issuerNamespace
      ∧ projection.destinationPolicyId = entry.id := by
  obtain ⟨record, hrecord, h⟩ := Option.bind_eq_some_iff.mp h
  obtain ⟨_, hstatus, h⟩ := Option.bind_eq_some_iff.mp h
  obtain ⟨_, hcertificate, h⟩ := Option.bind_eq_some_iff.mp h
  obtain ⟨entry, hentry, h⟩ := Option.bind_eq_some_iff.mp h
  obtain rfl := Option.some.inj h
  exact ⟨record, entry, hrecord, (Option.guard_eq_some' _).mp hstatus,
    (Option.guard_eq_some' _).mp hcertificate, hentry, rfl, rfl⟩

/-- An active record projects its first active policy. -/
theorem exists_issuerProjection {body : JsonValue} {entry : ManifestEntry}
    (hrecord : issuerRecordArtifactBody body = some record)
    (hstatus : record.issuerStatus = .active) (hcertificate : record.certificateStatus = .active)
    (hentry : record.destinationPolicies.find? (·.status = .active) = some entry) :
    ∃ projection, issuerProjectionFromArtifact body = some projection
      ∧ projection.ns = record.issuerNamespace ∧ projection.destinationPolicyId = entry.id := by
  simp only [issuerProjectionFromArtifact, hrecord, hstatus, hcertificate, hentry,
    Option.bind_eq_bind, Option.bind_some, guard_true]
  exact ⟨_, rfl, rfl, rfl⟩

/-- **BEHIND A PROJECTION**: an accepted active record, under its first active
    policy. -/
theorem planned_projection_first {projection : IssuerProjection}
    (h : SyncAction.cacheCall (.upsertIssuer projection) ∈ (machine service).plan s event) :
    ∃ record entry, AcceptsRecord service s event record
      ∧ record.issuerStatus = .active ∧ record.certificateStatus = .active
      ∧ record.destinationPolicies.find? (·.status = .active) = some entry
      ∧ projection.ns = record.issuerNamespace
      ∧ projection.destinationPolicyId = entry.id := by
  rcases planned_call h with ⟨artifact, haccepted, hcall⟩ | ⟨_, _, -, -, -, heq⟩
  · have hprojection : issuerProjectionFromArtifact artifact.body = some projection := by
      rcases mem_projectionCalls.mp hcall with ⟨_, -, heq⟩ | ⟨_, -, heq⟩ | ⟨_, hissuer, heq⟩
        | ⟨_, -, heq⟩ | ⟨_, -, hstatus⟩
      · cases heq
      · cases heq
      · obtain rfl := CacheCall.upsertIssuer.inj heq
        exact hissuer
      · cases heq
      · exact absurd rfl ((statusCall_writes_nothing hstatus).1 projection)
    obtain ⟨record, entry, hrecord, hfacts⟩ := issuerProjection_eq_some hprojection
    exact ⟨record, entry, ⟨artifact, haccepted, hrecord⟩, hfacts⟩
  · cases heq

/-- **A PROJECTION IS FAVOURED**: a projection is written for an accepted record
    that favours its policy. -/
theorem planned_projection {projection : IssuerProjection}
    (h : SyncAction.cacheCall (.upsertIssuer projection) ∈ (machine service).plan s event) :
    ∃ record, AcceptsRecord service s event record
      ∧ projection.ns = record.issuerNamespace
      ∧ Favours record projection.destinationPolicyId := by
  obtain ⟨record, entry, haccepts, hstatus, hcertificate, hentry, hns, hid⟩ :=
    planned_projection_first h
  refine ⟨record, haccepts, hns, hstatus, hcertificate, entry,
    List.mem_of_find?_eq_some hentry, hid.symm, ?_⟩
  simpa using List.find?_some hentry

/-- Without a write of one, no projection appears. -/
theorem not_holdsProjection_step (action : SyncAction)
    (h : ¬ HoldsProjection s.cache ns destinationPolicyId)
    (haction : ∀ projection, action = .cacheCall (.upsertIssuer projection) →
      projection.ns = ns → projection.destinationPolicyId ≠ destinationPolicyId) :
    ¬ HoldsProjection (applyAction s action).cache ns destinationPolicyId := by
  rintro ⟨key, issuer, hmem, hns, hid⟩
  cases action with
  | verifyTrustArtifact body result => exact h ⟨key, issuer, hmem, hns, hid⟩
  | updateTrustKeyStatus input => exact h ⟨key, issuer, hmem, hns, hid⟩
  | cacheCall call =>
      rcases mem_issuers_applyCall hmem with rfl | ⟨old, hold, holdNs, holdId⟩
      · exact haction issuer rfl hns hid
      · exact h ⟨key, old, hold, holdNs.trans hns, holdId.trans hid⟩

/-- An event none of whose records favours the policy writes no projection under
    it. -/
theorem not_holdsProjection_event (h : ¬ HoldsProjection s.cache ns destinationPolicyId)
    (hevent : ∀ record, AcceptsRecord service s event record → record.issuerNamespace = ns →
      ¬ Favours record destinationPolicyId) :
    ¬ HoldsProjection ((machine service).step s event).cache ns destinationPolicyId := by
  refine @Machine.applyAll_invariant _ _ _ (machine service)
    (fun s' => ¬ HoldsProjection s'.cache ns destinationPolicyId) _ ?_ _ h
  intro s' action haction hclear
  refine not_holdsProjection_step action hclear fun projection heq hns hid => ?_
  subst heq
  obtain ⟨record, haccepts, hrecord, hfavours⟩ := planned_projection haction
  exact hevent record haccepts (hrecord.symm.trans hns) (hid ▸ hfavours)

/-! ## The last record -/

/-- An event brings at most one record. -/
theorem AcceptsRecord.unique {record' : IssuerRecordArtifactBody}
    (h : AcceptsRecord service s event record) (h' : AcceptsRecord service s event record') :
    record = record' := by
  obtain ⟨artifact, haccepted, hrecord⟩ := h
  obtain ⟨artifact', haccepted', hrecord'⟩ := h'
  obtain rfl := haccepted.fetched.unique haccepted'.fetched
  exact Option.some.inj (hrecord.symm.trans hrecord')

/-- **THE LATEST RECORD, WHERE NOTHING WAS LEFT**: when the last accepted record
    of an issuer does not favour a policy and meets a cache without a projection
    of the issuer under it, no reader is answered with the issuer under the
    policy after the run, whatever was written before and comes after. -/
theorem latest_record_wins (service : SyncService) (start : SyncState)
    (earlier later : List NetworkEvent) (event : NetworkEvent)
    (record : IssuerRecordArtifactBody) (destinationPolicyId : String)
    (haccepts :
      AcceptsRecord service ((machine service).runState start earlier) event record)
    (hunfavourable : ¬ Favours record destinationPolicyId)
    (hlast : ∀ entry ∈ (machine service).trace
        ((machine service).runState start (earlier ++ [event])) later,
      ∀ record', AcceptsRecord service entry.2.1 entry.1 record' →
        record'.issuerNamespace ≠ record.issuerNamespace)
    (hclear : ¬ HoldsProjection ((machine service).runState start earlier).cache
      record.issuerNamespace destinationPolicyId) :
    ∀ reader, ¬ AnswersUnder reader
      (syncRecent service start (earlier ++ event :: later)).1.cache record.issuerNamespace
      destinationPolicyId := by
  intro reader hanswers
  refine absurd (holdsProjection_of_answers hanswers) ?_
  rw [syncRecent_state, List.append_cons, Machine.runState_append]
  have hrecord : ¬ HoldsProjection
      ((machine service).runState start (earlier ++ [event])).cache record.issuerNamespace
      destinationPolicyId := by
    rw [Machine.runState_append]
    refine not_holdsProjection_event hclear fun record' haccepts' _ => ?_
    rw [haccepts'.unique haccepts]
    exact hunfavourable
  clear hanswers haccepts hclear
  generalize (machine service).runState start (earlier ++ [event]) = s at hlast hrecord
  induction later generalizing s with
  | nil => exact hrecord
  | cons next rest ih =>
      refine ih _ (fun entry hentry => hlast entry (List.mem_cons_of_mem _ hentry)) ?_
      refine not_holdsProjection_event hrecord fun record' haccepts' hns' => ?_
      exact absurd hns' (hlast _ (List.mem_cons_self ..) record' haccepts')

/-! ## A suspended issuer that still answers -/

/-- A record of the demo issuer with a given status, listing policies as active. -/
def recordBody (issuerStatus : String) (destinationPolicyIds : List String) : JsonValue :=
  .obj
    [ ("artifact_type", .str "issuer_record"), ("root_program_id", .str "root:demo"),
      ("delegated_authority_id", .str "authority:demo"),
      ("issuer_namespace", .obj
          [ ("root_program_id", .str "root:demo"),
            ("delegated_authority_id", .str "authority:demo"),
            ("issuer_id", .str "issuer:demo") ]),
      ("issuer_display_name", .str "Demo Shop"), ("issuer_class", .str "merchant"),
      ("assurance_tier", .str "verified_business"),
      ("destination_policies", .arr <| destinationPolicyIds.map fun destinationPolicyId =>
        .obj
          [ ("destination_policy_id", .str destinationPolicyId),
            ("policy_ref", .str "artifact:policy"), ("status", .str "active") ]),
      ("status", .obj
          [ ("issuer_status", .str issuerStatus), ("certificate_status", .str "active"),
            ("status_event_ref", .str "none") ]),
      ("publication", .obj
          [ ("published_at", .str "2026-01-01T00:00:00Z"),
            ("valid_until", .str "2027-01-01T00:00:00Z") ]) ]

/-- The digests of the demo documents and of two more records: one suspended, one
    that lists a second policy. -/
def recordHash (body : JsonValue) : String :=
  match (issuerRecordArtifactBody body).map fun record =>
      (record.issuerStatus, record.destinationPolicies.length) with
  | some (StatusEventStatus.suspended, _) =>
      "b281d5ad53935769db6386e31dc0c6a113548e1dac380b6b4a77bac1d2e88078"
  | some (_, 2) =>
      "ab2e1c5584ff8c8903819b632956755fc80711ea4f9ca851e04f4e1519bea8ec"
  | _ => demoHash body

/-- The demo service with one more record in its store. -/
def recordService (body : JsonValue) : SyncService where
  js := { demoService.js with hashJson := recordHash }
  store := demoService.store.set "artifact:record" ⟨"sha256:" ++ recordHash body, body⟩
  verifyTrustArtifact := demoService.verifyTrustArtifact

/-- The event that brings the record. -/
def recordEvent (body : JsonValue) : NetworkEvent :=
  { demoEvent "issuer.record.published" "artifact:record" body with
    artifactHash := "sha256:" ++ recordHash body }

/-- The suspended record. -/
def suspendedBody : JsonValue := recordBody "suspended" ["policy:demo"]

/-- The record event is accepted in every state. -/
theorem acceptsRecord_suspended (s : SyncState) :
    ∃ record, AcceptsRecord (recordService suspendedBody) s (recordEvent suspendedBody) record
      ∧ record.issuerNamespace = demoNamespace ∧ ¬ Favours record "policy:demo" := by
  refine ⟨_, ⟨⟨"sha256:" ++ recordHash suspendedBody, suspendedBody⟩,
    ⟨⟨by decide, rfl, by decide +kernel⟩, by decide +kernel, rfl, by decide +kernel⟩, rfl⟩, rfl,
    fun h => ?_⟩
  exact absurd h.1 nofun

/-- The answer for the destination after the suspension. -/
def suspendedAnswer : {answer : Option DestinationResolution //
    answer = resolveByDestination demoReader (syncRecent (recordService suspendedBody)
        ⟨.empty, none⟩ (demoEarlier ++ [recordEvent suspendedBody])).1.cache demoUrl none
      ∧ answer.map (fun answer =>
          (answer.bindingStatus, answer.issuer.ns, answer.issuer.destinationPolicyId))
        = some (.bound, demoNamespace, "policy:demo")} :=
  ⟨_, rfl, by decide +kernel⟩

/-- After its suspension the issuer still answers bound. -/
theorem suspended_issuer_bound :
    (∃ record, AcceptsRecord (recordService suspendedBody)
        ((machine (recordService suspendedBody)).runState ⟨.empty, none⟩ demoEarlier)
        (recordEvent suspendedBody) record
      ∧ record.issuerNamespace = demoNamespace ∧ ¬ Favours record "policy:demo")
    ∧ (resolveByDestination demoReader (syncRecent (recordService suspendedBody)
          ⟨.empty, none⟩ (demoEarlier ++ [recordEvent suspendedBody])).1.cache demoUrl none).map
        (fun answer => (answer.bindingStatus, answer.issuer.ns, answer.issuer.destinationPolicyId))
      = some (.bound, demoNamespace, "policy:demo") := by
  obtain ⟨answer, hanswer, hbound⟩ := suspendedAnswer
  rw [hanswer] at hbound
  exact ⟨acceptsRecord_suspended _, hbound⟩

/-- Suspended before any favourable record, the issuer never answers. -/
theorem suspended_issuer_never_answers :
    ¬ AnswersUnder demoReader (syncRecent (recordService suspendedBody) ⟨.empty, none⟩
      (demoEarlier.take 2 ++ recordEvent suspendedBody :: [])).1.cache demoNamespace
      "policy:demo" := by
  obtain ⟨record, haccepts, hns, hunfavourable⟩ := acceptsRecord_suspended
    ((machine (recordService suspendedBody)).runState ⟨.empty, none⟩ (demoEarlier.take 2))
  rw [← hns]
  refine latest_record_wins (recordService suspendedBody) ⟨.empty, none⟩ (demoEarlier.take 2) []
    (recordEvent suspendedBody) record "policy:demo" haccepts hunfavourable
    (fun entry hentry => absurd hentry List.not_mem_nil) ?_ demoReader
  rintro ⟨key, issuer, hmem, -⟩
  have hnone : ((machine (recordService suspendedBody)).runState ⟨.empty, none⟩
      (demoEarlier.take 2)).cache.issuersByPolicyKey.entries = [] := by decide +kernel
  rw [hnone] at hmem
  exact absurd hmem List.not_mem_nil

end LatestRecord
