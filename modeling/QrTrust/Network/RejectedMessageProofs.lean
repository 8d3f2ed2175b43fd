import QrTrust.Network.GovernanceRedeliveryProofs

/-! # A governance message that is rejected

    The report is judged after the sync has written.  A report that is rejected
    for a missing or mismatched artifact, a signature or a scope comes with no
    write; one that is rejected for what it does not count may: a policy nobody
    verified is written before the missing signature is held against it, and an
    authority context is written though it counts as no change
    (`rejected_harmless_iff`). -/

namespace RejectedMessages

open VerifierCache PolicyDecoding TrustKeys VerifierSync GovernanceSubscriber SyncGate SyncAcceptance
  SyncIdempotence RepeatedCalls KeyStatus GovernanceRedelivery Runs

variable {service : SyncService} {s : SyncState} {event : NetworkEvent} {body : JsonValue}
  {artifact : SignedArtifact} {cache : Cache}

/-! ## Calls that find nothing -/

/-- Does the call write what it brings, whatever it finds? -/
def isUpsert : CacheCall → Bool
  | .upsertIssuer _ => true
  | .upsertDestinationPolicy _ => true
  | .upsertRootAuthorityContext _ => true
  | .upsertDelegatedAuthorityIssuerContext _ => true
  | _ => false

/-- No value is dropped where none has what the filter drops. -/
theorem filter_of_not_any {ν : Type} {m : OrderedMap String ν} {p : String × ν → Bool} {q : ν → Bool}
    (h : m.values.any q = false) (hkeep : ∀ entry, q entry.2 = false → p entry = true) :
    m.filter p = m := by
  refine OrderedMap.filter_of_forall fun entry hentry => hkeep entry ?_
  exact Bool.eq_false_iff.mpr
    (List.any_eq_false.mp h entry.2 (OrderedMap.mem_values.mpr ⟨entry.1, hentry⟩))

/-- **NOTHING FOUND**: a removal or an update that finds nothing changes nothing. -/
theorem applyCall_of_not_found {call : CacheCall} (hupsert : isUpsert call = false)
    (h : callFound cache call = false) : applyCall cache call = cache := by
  cases call with
  | updateIssuerAssuranceTier update =>
      simp only [applyCall]
      rw [OrderedMap.mapValues_of_forall]
      intro issuer hissuer
      have hother := List.any_eq_false.mp h issuer hissuer
      rw [if_neg (by simpa using hother)]
  | removeIssuer ns =>
      simp only [applyCall]
      rw [filter_of_not_any h fun entry hother => by simpa using hother]
  | removeDestinationPolicy key =>
      simp only [applyCall, OrderedMap.erase]
      rw [OrderedMap.filter_of_forall]
      intro entry hentry
      have hother : verifierCachePolicyKey key.ns key.destinationPolicyId ∉ cache.policiesByKey.keys :=
        fun hmem => Bool.false_ne_true (h.symm.trans (OrderedMap.contains_iff.mpr hmem))
      refine decide_eq_true fun hkey => hother ?_
      exact OrderedMap.mem_keys.mpr ⟨entry.2, hkey ▸ hentry⟩
  | removeDestinationPoliciesForIssuer ns =>
      simp only [applyCall]
      rw [filter_of_not_any h fun entry hother => by simpa using hother]
  | removeDelegatedAuthority key =>
      simp only [callFound, Bool.or_eq_false_iff] at h
      obtain ⟨⟨⟨hissuers, hpolicies⟩, hroot⟩, hactive⟩ := h
      have hkept : (cache.activeIssuersByAuthority.filter fun issuer =>
          !JsString.startsWith issuer (authorityPrefix key.rootProgramId key.delegatedAuthorityId))
          = cache.activeIssuersByAuthority := by
        refine List.filter_eq_self.mpr fun issuer hissuer => ?_
        simpa using List.any_eq_false.mp hactive issuer hissuer
      simp only [applyCall, removeDelegatedAuthority]
      rw [hkept, filter_of_not_any hissuers fun entry hother => by simpa using hother,
        filter_of_not_any hpolicies fun entry hother => by simpa using hother]
      cases hget : cache.activeDelegatedAuthoritiesByRoot.get? key.rootProgramId with
      | none => rfl
      | some authorities =>
          rw [hget] at hroot
          have hsame : authorities.filter (· ≠ key.delegatedAuthorityId) = authorities := by
            refine List.filter_eq_self.mpr fun authority hauthority => ?_
            refine decide_eq_true fun heq => ?_
            have hcontains : authorities.contains key.delegatedAuthorityId = true :=
              List.contains_iff_mem.mpr (heq ▸ hauthority)
            exact Bool.false_ne_true (hroot.symm.trans hcontains)
          dsimp only
          rw [hsame, OrderedMap.set_of_get? hget]
  | _ => cases hupsert

/-- An update that finds no key changes no registry. -/
theorem updatedBy_of_not_updated {known : Option TrustKeyRegistry}
    (h : updatedAmong known (keyStatusUpdates known body) = false) : updatedBy known body = known := by
  cases known with
  | none => rfl
  | some registry =>
      cases hupdates : keyStatusUpdates (some registry) body with
      | nil => exact updatedBy_nil hupdates
      | cons input rest =>
          have hmem : input ∈ keyStatusUpdates (some registry) body := by
            rw [hupdates]
            exact List.mem_cons_self
          rw [keyStatusUpdates_eq_singleton hmem] at h
          have hnone : updatableKey registry input = none := by
            have hfound : ((updatableKey registry input).isSome || false) = false := h
            rw [Bool.or_false] at hfound
            exact Option.isNone_iff_eq_none.mp (by simpa using hfound)
          rw [updatedBy_of_mem hmem, updateTrustKeyStatus, hnone]

/-! ## Writes behind a rejection -/

/-- The call brings an authority context. -/
def isContext : CacheCall → Bool
  | .upsertRootAuthorityContext _ => true
  | .upsertDelegatedAuthorityIssuerContext _ => true
  | _ => false

/-- **LEAVES A TRACE**: the event writes something new into the cache and is rejected. -/
inductive LeavesTrace (service : SyncService) (s : SyncState) (event : NetworkEvent) : Prop
  /-- Its artifact projects a policy though no signature is demanded of it, and the
      type of the event demands one. -/
  | unsignedPolicy {artifact : SignedArtifact} {policy : DestinationPolicyProjection}
      (hfetched : Fetched service event artifact)
      (hguard : isRecognizedTrustArtifact artifact.body = false)
      (hpolicy : projectedPolicy service.js artifact.body event = some policy)
      (hdemanded : governanceEventRequiresSignatureValidation event.type = true)
      (hnew : s.cache.policiesByKey.get? policy.policyKey ≠ some policy)
  /-- Its artifact is an accepted manifest, and the type of the event demands a
      record, a policy or a status to change. -/
  | context {artifact : SignedArtifact} {call : CacheCall}
      (haccepted : Accepted service s event artifact)
      (hcall : call ∈ projectionCalls service artifact.body event)
      (hcontext : isContext call = true)
      (hdemanded : governanceEventRequiresCacheMutation event.type = true)
      (hnew : applyCall s.cache call ≠ s.cache)

/-- A context is the one call of its body, and no status is in it. -/
theorem context_alone {call : CacheCall} (hrecognized : isRecognizedTrustArtifact body = true)
    (hcall : call ∈ projectionCalls service body event) (hcontext : isContext call = true) :
    projectionCalls service body event = [call] ∧ revocationStatusArtifactBody body = none := by
  have hone : ∀ {α : Type} (x : Option α) (f : α → CacheCall), call ∈ x.toList.map f →
      x.toList.map f = [call] := by
    intro α x f hmem
    cases x with
    | none => cases hmem
    | some a =>
        obtain rfl := List.mem_singleton.mp hmem
        rfl
  simp only [isRecognizedTrustArtifact, Bool.or_eq_true, Option.isSome_iff_exists] at hrecognized
  rcases hrecognized with ((((⟨_, h⟩ | ⟨_, h⟩) | ⟨_, h⟩) | h) | ⟨revocation, h⟩) | ⟨assurance, h⟩
  · rw [projectionCalls_rootManifest h] at hcall ⊢
    exact ⟨hone _ _ hcall, revocation_none (rootManifest_type h) (by decide)⟩
  · rw [projectionCalls_authorityManifest h] at hcall ⊢
    exact ⟨hone _ _ hcall, revocation_none (authorityManifest_type h) (by decide)⟩
  · rw [projectionCalls_issuerRecord h] at hcall
    obtain ⟨_, -, rfl⟩ := List.mem_map.mp hcall
    cases hcontext
  · have htype : hasArtifactType body "destination_policy" = true := by
      simp only [isDestinationPolicyArtifactBody, Bool.and_eq_true] at h
      exact h.1.1.1.1.1.1.1
    rw [projectionCalls_policy htype] at hcall
    obtain ⟨_, -, rfl⟩ := List.mem_map.mp hcall
    cases hcontext
  · rw [projectionCalls_revocation h, applyStatusEventCalls] at hcall
    split at hcall
    · cases hcall
    · have hremoval := isRemoval_revocationCalls call hcall
      cases call with
      | upsertRootAuthorityContext _ => cases hremoval
      | upsertDelegatedAuthorityIssuerContext _ => cases hremoval
      | _ => cases hcontext
  · rw [projectionCalls_assurance h] at hcall
    obtain rfl := List.mem_singleton.mp hcall
    cases hcontext

/-- What an unrecognized artifact leads to is its policy. -/
theorem projectionCalls_unrecognized (hguard : isRecognizedTrustArtifact body = false) :
    projectionCalls service body event
      = (projectedPolicy service.js body event).toList.map .upsertDestinationPolicy := by
  have hcalls := congrArg callsOf
    (@projectionActions_unrecognized service ⟨.empty, none⟩ body event hguard)
  rw [callsOf_projectionActions] at hcalls
  rw [hcalls]
  cases projectedPolicy service.js body event with
  | none => rfl
  | some policy => rfl

/-- **REJECTED**: an event that leaves a trace is not synced, and changes the cache. -/
theorem rejected_of_leavesTrace (h : LeavesTrace service s event) :
    ¬ Synced service s event ∧ (machine service).step s event ≠ s := by
  cases h with
  | @unsignedPolicy artifact policy hfetched hguard hpolicy hdemanded hnew =>
      constructor
      · intro hsynced
        have hvalidated := hsynced.validated hdemanded
        rw [reportOf, planEvent_unrecognized hfetched hguard] at hvalidated
        exact Nat.not_succ_le_zero 0 hvalidated
      · intro hsame
        rw [step_unrecognized hfetched hguard, projectionCalls_unrecognized hguard, hpolicy] at hsame
        have hpolicies : s.cache.policiesByKey.set policy.policyKey policy = s.cache.policiesByKey :=
          congrArg (fun s => s.cache.policiesByKey) hsame
        refine hnew ?_
        rw [← hpolicies]
        exact OrderedMap.get?_set_self ..
  | @context artifact call haccepted hcall hcontext hdemanded hnew =>
      obtain ⟨hcalls, hrevocation⟩ := context_alone haccepted.recognized hcall hcontext
      have hupdates : keyStatusUpdates s.trustKeyRegistry artifact.body = [] := by
        refine List.eq_nil_iff_forall_not_mem.mpr fun input hmem => ?_
        obtain ⟨_, revocation, -, hsome, -⟩ := mem_keyStatusUpdates_iff.mp hmem
        rw [hrevocation] at hsome
        cases hsome
      constructor
      · intro hsynced
        have hcounted := ((synced_iff_of_accepted haccepted).mp hsynced).2 hdemanded
        rw [hcalls, hupdates] at hcounted
        cases call with
        | upsertRootAuthorityContext context => exact Nat.not_succ_le_zero 0 hcounted
        | upsertDelegatedAuthorityIssuerContext context => exact Nat.not_succ_le_zero 0 hcounted
        | _ => cases hcontext
      · intro hsame
        rw [step_accepted haccepted, hcalls] at hsame
        exact hnew (congrArg SyncState.cache hsame)

/-- An accepted artifact whose policy does not decode leads to nothing. -/
theorem calls_of_policyRejections (h : policyRejections service body event ≠ []) :
    projectionCalls service body event = [] ∧ revocationStatusArtifactBody body = none := by
  rw [policyRejections, destinationPolicyProjectionFromArtifact] at h
  by_cases htype : artifactBodyTypeIs body "destination_policy" = true
  · rw [if_pos htype] at h
    have hbody : hasArtifactType body "destination_policy" = true :=
      (Bool.and_eq_true_iff.mp htype).2
    refine ⟨?_, revocation_none hbody (by decide)⟩
    rw [projectionCalls_policy hbody, projectedPolicy, destinationPolicyProjectionFromArtifact,
      if_pos htype]
    cases hdecoded : destinationPolicyProjectionFromArtifactPublicationInput service.js
        (publicationInputOfEvent body event) with
    | error reason => rfl
    | ok policy =>
        rw [hdecoded] at h
        exact absurd rfl h
  · rw [if_neg htype] at h
    exact absurd rfl h

/-- Without a count and without a trace, the calls of a body leave the cache as it is. -/
theorem applyCalls_of_uncounted {calls : List CacheCall} (hshape : Shape calls)
    (hprojected : calls.countP isProjection = 0) (hfound : foundAmong cache calls = false)
    (hcontext : ∀ call ∈ calls, isContext call = true → applyCall cache call = cache) :
    applyCalls cache calls = cache := by
  cases hshape with
  | none => rfl
  | one call =>
      show applyCall cache call = cache
      have hnothing : callFound cache call = false := by
        rw [foundAmong, foundAmong, Bool.or_false] at hfound
        exact hfound
      cases call with
      | upsertIssuer projection => cases hprojected
      | upsertDestinationPolicy policy => cases hprojected
      | upsertRootAuthorityContext context => exact hcontext _ List.mem_cons_self rfl
      | upsertDelegatedAuthorityIssuerContext context => exact hcontext _ List.mem_cons_self rfl
      | _ => exact applyCall_of_not_found rfl hnothing
  | issuer ns =>
      rw [foundAmong, foundAmong, foundAmong, Bool.or_false, Bool.or_eq_false_iff] at hfound
      have hfirst : applyCall cache (.removeIssuer ns) = cache := applyCall_of_not_found rfl hfound.1
      have hsecond : callFound cache (.removeDestinationPoliciesForIssuer ns) = false := by
        rw [← hfound.2, hfirst]
      show applyCall (applyCall cache (.removeIssuer ns)) (.removeDestinationPoliciesForIssuer ns)
        = cache
      rw [hfirst]
      exact applyCall_of_not_found rfl hsecond

/-- **UNTOUCHED**: an event that is not synced and leaves no trace changes nothing. -/
theorem step_of_rejected (hsynced : ¬ Synced service s event)
    (htrace : ¬ LeavesTrace service s event) : (machine service).step s event = s := by
  have hcase := planEvent_case service s event
  have hstep : (machine service).step s event
      = (machine service).applyAll s (planEvent service s event).actions := rfl
  generalize hactions : (planEvent service s event).actions = actions at hcase hstep
  cases hcase with
  | notFetched hnone => exact hstep
  | rejected artifact hfetched hguard => exact hstep
  | unrecognized artifact hfetched hguard =>
      rw [step_unrecognized hfetched hguard, projectionCalls_unrecognized hguard]
      cases hpolicy : projectedPolicy service.js artifact.body event with
      | none => rfl
      | some policy =>
          have hdecoded : policyRejections service artifact.body event = [] := by
            by_contra hrejected
            have hnone := (calls_of_policyRejections hrejected).1
            rw [projectionCalls_unrecognized hguard, hpolicy] at hnone
            cases hnone
          have hdemanded : governanceEventRequiresSignatureValidation event.type = true := by
            -- nothing else is held against the event
            by_contra hfree
            refine hsynced ?_
            have hmutation : governanceEventRequiresCacheMutation event.type = true →
                governanceEventRequiresSignatureValidation event.type = true := by
              intro hmutation
              rw [governanceEventRequiresSignatureValidation, hmutation, Bool.or_true]
            rw [Synced, reportOf, planEvent_unrecognized hfetched hguard]
            exact ⟨rfl, rfl, hdecoded, Nat.le_refl _, Nat.le_refl _, fun h => absurd h hfree,
              fun h => absurd (hmutation h) hfree⟩
          have hheld : s.cache.policiesByKey.get? policy.policyKey = some policy := by
            by_contra hnew
            exact htrace (.unsignedPolicy hfetched hguard hpolicy hdemanded hnew)
          have hsame : applyCall s.cache (.upsertDestinationPolicy policy) = s.cache := by
            rw [applyCall, OrderedMap.set_of_get? hheld]
          show (⟨applyCall s.cache (.upsertDestinationPolicy policy), s.trustKeyRegistry⟩ : SyncState) = s
          rw [hsame]
  | accepted artifact hfetched hguard hverified hscope =>
      have haccepted : Accepted service s event artifact := ⟨hfetched, hguard, hverified, hscope⟩
      rw [step_accepted haccepted]
      by_cases hpolicy : policyRejections service artifact.body event = []
      · rw [synced_iff_of_accepted haccepted] at hsynced
        have hcount : governanceEventRequiresCacheMutation event.type = true
            ∧ (projectionCalls service artifact.body event).countP isProjection
              + (foundAmong s.cache (projectionCalls service artifact.body event)).toNat
              + (updatedAmong s.trustKeyRegistry
                  (keyStatusUpdates s.trustKeyRegistry artifact.body)).toNat = 0 := by
          by_contra hcounted
          refine hsynced ⟨hpolicy, fun hdemanded => ?_⟩
          by_contra hless
          exact hcounted ⟨hdemanded, by omega⟩
        obtain ⟨hdemanded, hcount⟩ := hcount
        have hfound : foundAmong s.cache (projectionCalls service artifact.body event) = false :=
          Bool.toNat_eq_zero.mp (by omega)
        have hupdated : updatedAmong s.trustKeyRegistry
            (keyStatusUpdates s.trustKeyRegistry artifact.body) = false :=
          Bool.toNat_eq_zero.mp (by omega)
        rw [applyCalls_of_uncounted (shape_projectionCalls service artifact.body event) (by omega)
          hfound, updatedBy_of_not_updated hupdated]
        intro call hcall hcontext
        by_contra hnew
        exact htrace (.context haccepted hcall hcontext hdemanded hnew)
      · obtain ⟨hcalls, hrevocation⟩ := calls_of_policyRejections hpolicy
        have hupdated : updatedAmong s.trustKeyRegistry
            (keyStatusUpdates s.trustKeyRegistry artifact.body) = false := by
          by_contra hfound
          obtain ⟨_, _, -, hmem, -⟩ := updatedAmong_iff.mp (Bool.eq_true_of_not_eq_false hfound)
          obtain ⟨_, _, -, hsome, -⟩ := mem_keyStatusUpdates_iff.mp hmem
          rw [hrevocation] at hsome
          cases hsome
        rw [hcalls, updatedBy_of_not_updated hupdated]
        rfl

/-! ## One message -/

/-- The message is rejected. -/
def Rejected (result : MessageProcessResult) : Prop := ∀ report, result ≠ .synced report

variable {Message : Type}

/-- **REJECTED MESSAGES**: for every decoder, service, cache and registry, a message that
    is rejected leaves cache and registry as they are, exactly when its event leaves no
    trace. -/
theorem rejected_harmless_iff (decode : Message → Option NetworkEvent) (service : SyncService)
    (s : SyncState) (message : Message) :
    (Rejected (processNatsGovernanceMessage decode service s message).2 →
        (processNatsGovernanceMessage decode service s message).1 = s)
      ↔ ∀ event, decode message = some event → ¬ LeavesTrace service s event := by
  cases hdecode : decode message with
  | none =>
      refine iff_of_true (fun _ => ?_) fun event hevent => by cases hevent
      rw [processNatsGovernanceMessage, hdecode]
  | some event =>
      have hrejected : Rejected (processNatsGovernanceMessage decode service s message).2
          ↔ ¬ Synced service s event := by
        rw [← synced_result_iff hdecode, not_exists, Rejected]
      have hstate : (processNatsGovernanceMessage decode service s message).1
          = (machine service).step s event := congrArg Prod.fst (processed_eq hdecode)
      rw [hrejected, hstate]
      constructor
      · intro hharmless event' hevent htrace
        obtain rfl := Option.some.inj hevent
        obtain ⟨hsynced, hchanged⟩ := rejected_of_leavesTrace htrace
        exact hchanged (hharmless hsynced)
      · intro htrace hsynced
        exact step_of_rejected hsynced (htrace event rfl)

/-- A policy nobody signed is held against the message that brought it, and stays. -/
theorem rejected_message_writes :
    (processNatsGovernanceMessage some unsignedPolicyService ⟨.empty, none⟩
        unsignedPolicyEvent).2.status
      = ("sync_rejected", some "governance_event_not_signature_validated") ∧
    ¬ (Rejected (processNatsGovernanceMessage some unsignedPolicyService ⟨.empty, none⟩
          unsignedPolicyEvent).2 →
        (processNatsGovernanceMessage some unsignedPolicyService ⟨.empty, none⟩
          unsignedPolicyEvent).1 = ⟨.empty, none⟩) := by
  have hstatus : (processNatsGovernanceMessage some unsignedPolicyService ⟨.empty, none⟩
      unsignedPolicyEvent).2.status
        = ("sync_rejected", some "governance_event_not_signature_validated") := by
    decide +kernel
  have hwritten : (processNatsGovernanceMessage some unsignedPolicyService ⟨.empty, none⟩
      unsignedPolicyEvent).1.cache.policiesByKey.entries.length = 1 := by
    decide +kernel
  refine ⟨hstatus, fun hharmless => ?_⟩
  rw [hharmless fun report hsynced => ?_] at hwritten
  · cases hwritten
  · rw [hsynced] at hstatus
    have hsame : "synced" = "sync_rejected" := congrArg Prod.fst hstatus
    exact absurd hsame (by decide)

end RejectedMessages
