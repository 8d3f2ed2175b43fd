import QrTrust.Network.SyncGateProofs
import Mathlib.Data.Option.Basic

/-! # What an accepted artifact leads to

    A body has one artifact type, so at most one of the six decoders reads it,
    and an accepted artifact leads to the cache calls of its own type alone.
    The lemmas name the calls for each type, and `planned_call` goes the other
    way, from a call to the artifact behind it. -/

namespace SyncAcceptance

open VerifierCache PolicyDecoding TrustKeys VerifierSync SyncGate Runs

variable {service : SyncService} {s : SyncState} {event : NetworkEvent} {body : JsonValue}

/-- **ACCEPTED**: the event's artifact is fetched, a signature is demanded of
    it, the verifier accepts it, and its scope matches its body. -/
structure Accepted (service : SyncService) (s : SyncState) (event : NetworkEvent)
    (artifact : SignedArtifact) : Prop where
  fetched : Fetched service event artifact
  recognized : isRecognizedTrustArtifact artifact.body = true
  verified : (service.verifyTrustArtifact s.trustKeyRegistry artifact.body).accepted = true
  scope : trustArtifactScopeMatchesBody artifact.body = true

/-- An accepted artifact is asked about and projected. -/
theorem plan_accepted {artifact : SignedArtifact} (h : Accepted service s event artifact) :
    (machine service).plan s event
      = asked service s artifact.body :: projectionActions service s artifact.body event := by
  show (planEvent service s event).actions = _
  rw [planEvent, if_neg h.fetched.processed, h.fetched.stored]
  simp only [h.fetched.hashed, h.recognized, h.verified, h.scope, Bool.not_true,
    Bool.false_eq_true, if_false]
  rfl

/-! ## One type a body -/

theorem hasArtifactType_unique {a b : String} (ha : hasArtifactType body a = true)
    (hb : hasArtifactType body b = true) : a = b := by
  rw [hasArtifactType, decide_eq_true_eq] at ha hb
  exact Option.some.inj (ha.symm.trans hb)

theorem rootManifest_type {manifest : RootManifestArtifactBody}
    (h : rootManifestArtifactBody body = some manifest) :
    hasArtifactType body "root_manifest" = true := by
  obtain ⟨_, hguard, -⟩ := Option.bind_eq_some_iff.mp h
  exact (Option.guard_eq_some' _).mp hguard

theorem authorityManifest_type {manifest : DelegatedAuthorityManifestArtifactBody}
    (h : delegatedAuthorityManifestArtifactBody body = some manifest) :
    hasArtifactType body "delegated_authority_manifest" = true := by
  obtain ⟨_, hguard, -⟩ := Option.bind_eq_some_iff.mp h
  exact (Option.guard_eq_some' _).mp hguard

theorem issuerRecord_type {record : IssuerRecordArtifactBody}
    (h : issuerRecordArtifactBody body = some record) :
    hasArtifactType body "issuer_record" = true := by
  obtain ⟨_, hguard, -⟩ := Option.bind_eq_some_iff.mp h
  exact (Option.guard_eq_some' _).mp hguard

theorem revocation_type {revocation : RevocationStatusArtifactBody}
    (h : revocationStatusArtifactBody body = some revocation) :
    hasArtifactType body "revocation_status_event" = true := by
  obtain ⟨_, -, h⟩ := Option.bind_eq_some_iff.mp h
  obtain ⟨_, hguard, -⟩ := Option.bind_eq_some_iff.mp h
  exact (Option.guard_eq_some' _).mp hguard

theorem assurance_type {assurance : AssuranceStatusArtifactBody}
    (h : assuranceStatusArtifactBody body = some assurance) :
    hasArtifactType body "assurance_status_event" = true := by
  obtain ⟨_, -, h⟩ := Option.bind_eq_some_iff.mp h
  obtain ⟨_, hguard, -⟩ := Option.bind_eq_some_iff.mp h
  exact (Option.guard_eq_some' _).mp hguard

theorem policy_type {js : JsRuntime} {policy : DestinationPolicyProjection}
    (h : projectedPolicy js body event = some policy) :
    hasArtifactType body "destination_policy" = true :=
  (projectedPolicy_eq_some h).1

/-! ## No projection of another type -/

theorem rootManifest_none {artifactType : String} (h : hasArtifactType body artifactType = true)
    (hne : artifactType ≠ "root_manifest") : rootManifestArtifactBody body = none :=
  Option.eq_none_iff_forall_ne_some.mpr fun _ hsome =>
    hne (hasArtifactType_unique h (rootManifest_type hsome))

theorem authorityManifest_none {artifactType : String}
    (h : hasArtifactType body artifactType = true)
    (hne : artifactType ≠ "delegated_authority_manifest") :
    delegatedAuthorityManifestArtifactBody body = none :=
  Option.eq_none_iff_forall_ne_some.mpr fun _ hsome =>
    hne (hasArtifactType_unique h (authorityManifest_type hsome))

theorem issuerRecord_none {artifactType : String} (h : hasArtifactType body artifactType = true)
    (hne : artifactType ≠ "issuer_record") : issuerRecordArtifactBody body = none :=
  Option.eq_none_iff_forall_ne_some.mpr fun _ hsome =>
    hne (hasArtifactType_unique h (issuerRecord_type hsome))

theorem revocation_none {artifactType : String} (h : hasArtifactType body artifactType = true)
    (hne : artifactType ≠ "revocation_status_event") :
    revocationStatusArtifactBody body = none :=
  Option.eq_none_iff_forall_ne_some.mpr fun _ hsome =>
    hne (hasArtifactType_unique h (revocation_type hsome))

theorem assurance_none {artifactType : String} (h : hasArtifactType body artifactType = true)
    (hne : artifactType ≠ "assurance_status_event") :
    assuranceStatusArtifactBody body = none :=
  Option.eq_none_iff_forall_ne_some.mpr fun _ hsome =>
    hne (hasArtifactType_unique h (assurance_type hsome))

theorem policy_none {js : JsRuntime} {artifactType : String}
    (h : hasArtifactType body artifactType = true) (hne : artifactType ≠ "destination_policy") :
    projectedPolicy js body event = none :=
  Option.eq_none_iff_forall_ne_some.mpr fun _ hsome =>
    hne (hasArtifactType_unique h (policy_type hsome))

/-! ## The calls of each type -/

/-- The calls of a body whose type is not a status event's. -/
theorem statusCalls_none {artifactType : String} (h : hasArtifactType body artifactType = true)
    (hrevocation : artifactType ≠ "revocation_status_event")
    (hassurance : artifactType ≠ "assurance_status_event") :
    statusEventFromArtifact body = none := by
  rw [statusEventFromArtifact, revocation_none h hrevocation, assurance_none h hassurance]
  rfl

theorem projectionCalls_rootManifest {manifest : RootManifestArtifactBody}
    (h : rootManifestArtifactBody body = some manifest) :
    projectionCalls service body event
      = (rootAuthorityContextFromArtifact body).toList.map .upsertRootAuthorityContext := by
  have htype := rootManifest_type h
  rw [projectionCalls, delegatedAuthorityIssuerContextFromArtifact,
    authorityManifest_none htype (by decide), issuerProjectionFromArtifact,
    issuerRecord_none htype (by decide), policy_none htype (by decide),
    statusCalls_none htype (by decide) (by decide)]
  simp

theorem projectionCalls_authorityManifest {manifest : DelegatedAuthorityManifestArtifactBody}
    (h : delegatedAuthorityManifestArtifactBody body = some manifest) :
    projectionCalls service body event
      = (delegatedAuthorityIssuerContextFromArtifact body).toList.map
          .upsertDelegatedAuthorityIssuerContext := by
  have htype := authorityManifest_type h
  rw [projectionCalls, rootAuthorityContextFromArtifact, rootManifest_none htype (by decide),
    issuerProjectionFromArtifact, issuerRecord_none htype (by decide),
    policy_none htype (by decide), statusCalls_none htype (by decide) (by decide)]
  simp

theorem projectionCalls_issuerRecord {record : IssuerRecordArtifactBody}
    (h : issuerRecordArtifactBody body = some record) :
    projectionCalls service body event
      = (issuerProjectionFromArtifact body).toList.map .upsertIssuer := by
  have htype := issuerRecord_type h
  rw [projectionCalls, rootAuthorityContextFromArtifact, rootManifest_none htype (by decide),
    delegatedAuthorityIssuerContextFromArtifact, authorityManifest_none htype (by decide),
    policy_none htype (by decide), statusCalls_none htype (by decide) (by decide)]
  simp

theorem projectionCalls_policy (htype : hasArtifactType body "destination_policy" = true) :
    projectionCalls service body event
      = (projectedPolicy service.js body event).toList.map .upsertDestinationPolicy := by
  rw [projectionCalls, rootAuthorityContextFromArtifact, rootManifest_none htype (by decide),
    delegatedAuthorityIssuerContextFromArtifact, authorityManifest_none htype (by decide),
    issuerProjectionFromArtifact, issuerRecord_none htype (by decide),
    statusCalls_none htype (by decide) (by decide)]
  simp

theorem projectionCalls_revocation {revocation : RevocationStatusArtifactBody}
    (h : revocationStatusArtifactBody body = some revocation) :
    projectionCalls service body event = applyStatusEventCalls (.revocation revocation) := by
  have htype := revocation_type h
  rw [projectionCalls, rootAuthorityContextFromArtifact, rootManifest_none htype (by decide),
    delegatedAuthorityIssuerContextFromArtifact, authorityManifest_none htype (by decide),
    issuerProjectionFromArtifact, issuerRecord_none htype (by decide),
    policy_none htype (by decide), statusEventFromArtifact, h]
  simp

theorem projectionCalls_assurance {assurance : AssuranceStatusArtifactBody}
    (h : assuranceStatusArtifactBody body = some assurance) :
    projectionCalls service body event = applyStatusEventCalls (.assurance assurance) := by
  have htype := assurance_type h
  rw [projectionCalls, rootAuthorityContextFromArtifact, rootManifest_none htype (by decide),
    delegatedAuthorityIssuerContextFromArtifact, authorityManifest_none htype (by decide),
    issuerProjectionFromArtifact, issuerRecord_none htype (by decide),
    policy_none htype (by decide), statusEventFromArtifact, revocation_none htype (by decide), h]
  simp

/-! ## From a call to its artifact -/

/-- **WHERE A CALL COMES FROM**: the projection of the body that leads to it. -/
theorem mem_projectionCalls {call : CacheCall} :
    call ∈ projectionCalls service body event ↔
      (∃ context, rootAuthorityContextFromArtifact body = some context
          ∧ call = .upsertRootAuthorityContext context)
        ∨ (∃ context, delegatedAuthorityIssuerContextFromArtifact body = some context
          ∧ call = .upsertDelegatedAuthorityIssuerContext context)
        ∨ (∃ projection, issuerProjectionFromArtifact body = some projection
          ∧ call = .upsertIssuer projection)
        ∨ (∃ policy, projectedPolicy service.js body event = some policy
          ∧ call = .upsertDestinationPolicy policy)
        ∨ ∃ status, statusEventFromArtifact body = some status
          ∧ call ∈ applyStatusEventCalls status := by
  simp only [projectionCalls, List.mem_append, List.mem_map, List.mem_flatMap, Option.mem_toList,
    or_assoc, eq_comm]

/-- The cache calls of a plan that projects a body are the body's calls. -/
theorem mem_projectionActions_cacheCall {call : CacheCall} :
    SyncAction.cacheCall call ∈ projectionActions service s body event ↔
      call ∈ projectionCalls service body event := by
  rw [projectionActions, List.mem_append]
  constructor
  · rintro (hmem | hmem)
    · obtain ⟨call', hcall', heq⟩ := List.mem_map.mp hmem
      obtain rfl := SyncAction.cacheCall.inj heq
      exact hcall'
    · obtain ⟨input, -, heq⟩ := List.mem_map.mp hmem
      cases heq
  · intro hmem
    exact .inl (List.mem_map.mpr ⟨call, hmem, rfl⟩)

/-- **WHAT IS BEHIND A CALL**: an accepted artifact that leads to it, or a body
    the gate does not recognise whose policy it writes. -/
theorem planned_call {call : CacheCall}
    (h : SyncAction.cacheCall call ∈ (machine service).plan s event) :
    (∃ artifact, Accepted service s event artifact
        ∧ call ∈ projectionCalls service artifact.body event)
      ∨ ∃ artifact policy, Fetched service event artifact
        ∧ isRecognizedTrustArtifact artifact.body = false
        ∧ projectedPolicy service.js artifact.body event = some policy
        ∧ call = .upsertDestinationPolicy policy := by
  have hcase := planEvent_case service s event
  have hmem : SyncAction.cacheCall call ∈ (planEvent service s event).actions := h
  generalize (planEvent service s event).actions = actions at hcase hmem
  cases hcase with
  | notFetched _ => exact absurd hmem List.not_mem_nil
  | rejected artifact _ _ => cases List.mem_singleton.mp hmem
  | unrecognized artifact hfetched hguard =>
      rw [projectionActions_unrecognized hguard] at hmem
      obtain ⟨policy, hpolicy, heq⟩ := List.mem_map.mp hmem
      obtain rfl := SyncAction.cacheCall.inj heq
      exact .inr ⟨artifact, policy, hfetched, hguard, Option.mem_toList.mp hpolicy, rfl⟩
  | accepted artifact hfetched hguard haccepted hscope =>
      rcases List.mem_cons.mp hmem with heq | htail
      · cases heq
      · exact .inl ⟨artifact, ⟨hfetched, hguard, haccepted, hscope⟩,
          mem_projectionActions_cacheCall.mp htail⟩

/-- The calls of an accepted artifact are planned. -/
theorem Accepted.planned {artifact : SignedArtifact} (h : Accepted service s event artifact)
    {call : CacheCall} (hcall : call ∈ projectionCalls service artifact.body event) :
    SyncAction.cacheCall call ∈ (machine service).plan s event := by
  rw [plan_accepted h]
  exact List.mem_cons_of_mem _ (mem_projectionActions_cacheCall.mpr hcall)

/-- The calls of a status event write no record and no policy. -/
theorem statusCall_writes_nothing {status : StatusEvent} {call : CacheCall}
    (h : call ∈ applyStatusEventCalls status) :
    (∀ record, call ≠ .upsertIssuer record) ∧ ∀ policy, call ≠ .upsertDestinationPolicy policy := by
  constructor
  all_goals
    rintro written rfl
    cases status with
    | assurance body => cases List.mem_singleton.mp h
    | revocation body =>
        rw [applyStatusEventCalls] at h
        split at h
        · exact absurd h List.not_mem_nil
        · rw [revocationCalls] at h
          split at h <;> simp at h

/-- **BEHIND A POLICY**: the body of the fetched artifact, which decodes to it. -/
theorem planned_policy {policy : DestinationPolicyProjection}
    (h : SyncAction.cacheCall (.upsertDestinationPolicy policy) ∈ (machine service).plan s event) :
    ∃ artifact, Fetched service event artifact
      ∧ projectedPolicy service.js artifact.body event = some policy := by
  rcases planned_call h with ⟨artifact, haccepted, hcall⟩ | ⟨artifact, _, hfetched, -, hpolicy, heq⟩
  · refine ⟨artifact, haccepted.fetched, ?_⟩
    rcases mem_projectionCalls.mp hcall with ⟨_, -, heq⟩ | ⟨_, -, heq⟩ | ⟨_, -, heq⟩
      | ⟨_, hpolicy, heq⟩ | ⟨_, -, hstatus⟩
    · cases heq
    · cases heq
    · cases heq
    · obtain rfl := CacheCall.upsertDestinationPolicy.inj heq
      exact hpolicy
    · exact absurd rfl ((statusCall_writes_nothing hstatus).2 policy)
  · obtain rfl := CacheCall.upsertDestinationPolicy.inj heq
    exact ⟨artifact, hfetched, hpolicy⟩

end SyncAcceptance
