import QrTrust.Network.GovernanceSubscriber
import QrTrust.Network.KeyStatusProofs
import QrTrust.Network.RepeatedCallProofs

/-! # A governance message, delivered again

    JetStream delivers a message again when its acknowledgement is lost.  The
    second run makes the calls of the first, and they are settled.  But a report
    of an event that must change the cache is accepted only when something was
    projected or found, and after a removal there is nothing left to find: the
    second delivery is terminated as a rejected event.  A key status update may
    also take the signer's key away.  `redelivery_harmless_iff` says when
    neither happens. -/

namespace GovernanceRedelivery

open VerifierCache PolicyDecoding TrustKeys VerifierSync GovernanceSubscriber SyncGate SyncAcceptance
  SyncIdempotence RepeatedCalls KeyStatus Runs

/-! ## Processing a message -/

/-- `MessageProcessResult`. -/
inductive MessageProcessResult where
  | synced (syncReport : VerifierSyncReport)
  | malformed
  | syncRejected (reason : String)

/-- `status`, with the reason of a rejection. -/
def MessageProcessResult.status : MessageProcessResult → String × Option String
  | .synced _ => ("synced", none)
  | .malformed => ("malformed", none)
  | .syncRejected reason => ("sync_rejected", some reason)

theorem MessageProcessResult.synced_iff {result : MessageProcessResult} :
    (∃ report, result = .synced report) ↔ result.status = ("synced", none) := by
  cases result with
  | synced report => exact iff_of_true ⟨report, rfl⟩ rfl
  | malformed => exact iff_of_false (by simp) (by decide)
  | syncRejected reason => exact iff_of_false (by simp) (by simp [MessageProcessResult.status])

/-- `processNatsGovernanceMessage`, over the decoder of payloads.  (The sync path of the
    model does not fail.) -/
def processNatsGovernanceMessage {Message : Type} (decode : Message → Option NetworkEvent)
    (service : SyncService) (s : SyncState) (message : Message) :
    SyncState × MessageProcessResult :=
  match decode message with
  | none => (s, .malformed)
  | some event =>
      let (synced, syncReport) := syncRecent service s [event]
      let acceptance := natsGovernanceSyncReportAcceptance event syncReport
      if acceptance.accepted then (synced, .synced syncReport)
      else (synced, .syncRejected acceptance.reason)

variable {service : SyncService} {s : SyncState} {event : NetworkEvent} {body : JsonValue}
  {artifact : SignedArtifact}

/-! ## The report of one event -/

/-- What the report counts as changed. -/
def mutations (report : VerifierSyncReport) : Nat :=
  report.projectedIssuers + report.projectedDestinationPolicies
    + report.appliedStatusEvents + report.appliedKeyStatusEvents

/-- **ACCEPTABLE**: the report names no failure, and what the type of the event demands
    was done. -/
structure Acceptable (event : NetworkEvent) (report : VerifierSyncReport) : Prop where
  missing : report.missingArtifacts = []
  mismatches : report.artifactHashMismatches = []
  rejected : report.rejectedStatusEvents = []
  processed : 1 ≤ report.processedEvents
  fetched : 1 ≤ report.fetchedArtifacts
  validated : governanceEventRequiresSignatureValidation event.type = true →
    1 ≤ report.validatedTrustArtifacts
  materialized : governanceEventRequiresCacheMutation event.type = true → 1 ≤ mutations report

theorem accepted_iff {report : VerifierSyncReport} :
    (natsGovernanceSyncReportAcceptance event report).accepted = true ↔ Acceptable event report := by
  rw [natsGovernanceSyncReportAcceptance]
  by_cases hmissing : report.missingArtifacts.length > 0
  · rw [if_pos hmissing]
    exact iff_of_false Bool.false_ne_true fun h => by simp [h.missing] at hmissing
  rw [if_neg hmissing]
  by_cases hmismatch : report.artifactHashMismatches.length > 0
  · rw [if_pos hmismatch]
    exact iff_of_false Bool.false_ne_true fun h => by simp [h.mismatches] at hmismatch
  rw [if_neg hmismatch]
  by_cases hrejected : report.rejectedStatusEvents.length > 0
  · rw [if_pos hrejected]
    exact iff_of_false Bool.false_ne_true fun h => by simp [h.rejected] at hrejected
  rw [if_neg hrejected]
  by_cases hfetched : (report.processedEvents < 1 || report.fetchedArtifacts < 1) = true
  · rw [if_pos hfetched]
    refine iff_of_false Bool.false_ne_true fun h => ?_
    have hprocessed := h.processed
    have hartifact := h.fetched
    simp only [Bool.or_eq_true, decide_eq_true_eq] at hfetched
    omega
  rw [if_neg hfetched]
  by_cases hvalidated : (governanceEventRequiresSignatureValidation event.type
      && report.validatedTrustArtifacts < 1) = true
  · rw [if_pos hvalidated]
    refine iff_of_false Bool.false_ne_true fun h => ?_
    simp only [Bool.and_eq_true, decide_eq_true_eq] at hvalidated
    have hcount := h.validated hvalidated.1
    omega
  rw [if_neg hvalidated]
  by_cases hmaterialized : (governanceEventRequiresCacheMutation event.type
      && report.projectedIssuers + report.projectedDestinationPolicies
        + report.appliedStatusEvents + report.appliedKeyStatusEvents < 1) = true
  · rw [if_pos hmaterialized]
    refine iff_of_false Bool.false_ne_true fun h => ?_
    simp only [Bool.and_eq_true, decide_eq_true_eq] at hmaterialized
    have hcount := h.materialized hmaterialized.1
    rw [mutations] at hcount
    omega
  rw [if_neg hmaterialized]
  refine iff_of_true rfl ?_
  simp only [Bool.or_eq_true, Bool.and_eq_true, decide_eq_true_eq, not_or, not_and, Nat.not_lt]
    at hfetched hvalidated hmaterialized
  exact ⟨by simpa using hmissing, by simpa using hmismatch, by simpa using hrejected, hfetched.1,
    hfetched.2, hvalidated, hmaterialized⟩

/-- The report of a run over one event. -/
def reportOf (service : SyncService) (s : SyncState) (event : NetworkEvent) : VerifierSyncReport :=
  ({} : VerifierSyncReport).add s (planEvent service s event)

theorem syncRecent_one :
    syncRecent service s [event] = ((machine service).step s event, reportOf service s event) := rfl

/-- Did a status call of the list find anything to change? -/
def foundAmong : Cache → List CacheCall → Bool
  | _, [] => false
  | cache, call :: rest => callFound cache call || foundAmong (applyCall cache call) rest

theorem anyCallFound_eq (actions : List SyncAction) :
    anyCallFound s actions = foundAmong s.cache (callsOf actions) := by
  induction actions generalizing s with
  | nil => rfl
  | cons action rest ih =>
      cases action with
      | cacheCall call =>
          show (callFound s.cache call || anyCallFound _ rest) = _
          rw [ih]
          rfl
      | _ =>
          show anyCallFound _ rest = _
          rw [ih]
          rfl

/-- Did a key status update of the list find its key? -/
def updatedAmong : Option TrustKeyRegistry → List TrustKeyStatusUpdateInput → Bool
  | _, [] => false
  | known, input :: rest =>
      (known.bind fun registry => updatableKey registry input).isSome
        || updatedAmong (known.map fun registry => updateTrustKeyStatus registry input) rest

theorem anyKeyUpdated_eq (actions : List SyncAction) :
    anyKeyUpdated s actions = updatedAmong s.trustKeyRegistry (updatesOf actions) := by
  induction actions generalizing s with
  | nil => rfl
  | cons action rest ih =>
      cases action with
      | updateTrustKeyStatus input =>
          show (_ || anyKeyUpdated _ rest) = _
          rw [ih]
          rfl
      | _ =>
          show anyKeyUpdated _ rest = _
          rw [ih]
          rfl

/-- Does the call project an issuer or a policy? -/
def isProjection : CacheCall → Bool
  | .upsertIssuer _ => true
  | .upsertDestinationPolicy _ => true
  | _ => false

/-- Each call counts as a projection of the one kind or of the other. -/
theorem projected_eq (actions : List SyncAction) :
    (({} : VerifierSyncReport).add s { actions := actions }).projectedIssuers
        + (({} : VerifierSyncReport).add s { actions := actions }).projectedDestinationPolicies
      = (callsOf actions).countP isProjection := by
  induction actions with
  | nil => rfl
  | cons action rest ih =>
      simp only [VerifierSyncReport.add, List.countP_cons, Nat.zero_add] at ih ⊢
      cases action with
      | cacheCall call =>
          have hcalls : callsOf (.cacheCall call :: rest) = call :: callsOf rest := rfl
          rw [hcalls, List.countP_cons, ← ih]
          cases call <;>
            simp only [isProjection, Bool.false_eq_true, if_true, if_false] <;> omega
      | _ => exact ih

/-- **COUNTED**: what a report counts as changed is read off the calls and updates. -/
theorem mutations_reportOf :
    mutations (reportOf service s event)
      = (callsOf (planEvent service s event).actions).countP isProjection
        + (foundAmong s.cache (callsOf (planEvent service s event).actions)).toNat
        + (updatedAmong s.trustKeyRegistry
            (updatesOf (planEvent service s event).actions)).toNat := by
  rw [← @projected_eq s, ← anyCallFound_eq, ← anyKeyUpdated_eq]
  show _ + _ + (0 + _) + (0 + _) = _
  rw [Nat.zero_add, Nat.zero_add]
  rfl

/-! ## How an event goes that is synced -/

/-- **SYNCED**: the report of the event is accepted. -/
def Synced (service : SyncService) (s : SyncState) (event : NetworkEvent) : Prop :=
  Acceptable event (reportOf service s event)

theorem planEvent_accepted (h : Accepted service s event artifact) :
    planEvent service s event =
      { actions := asked service s artifact.body :: projectionActions service s artifact.body event
        fetchedArtifact := true
        validatedTrustArtifact := true
        rejectedStatusEvents := policyRejections service artifact.body event } := by
  rw [planEvent, if_neg h.fetched.processed, h.fetched.stored]
  simp only [h.fetched.hashed, h.recognized, h.verified, h.scope, Bool.not_true,
    Bool.false_eq_true, if_false]
  rfl

theorem planEvent_unrecognized (hfetched : Fetched service event artifact)
    (hguard : isRecognizedTrustArtifact artifact.body = false) :
    planEvent service s event =
      { actions := projectionActions service s artifact.body event
        fetchedArtifact := true
        rejectedStatusEvents := policyRejections service artifact.body event } := by
  rw [planEvent, if_neg hfetched.processed, hfetched.stored]
  simp only [hfetched.hashed, hguard, Bool.not_true, Bool.not_false, Bool.false_eq_true,
    if_false, if_true]

/-- A recognised artifact that is not accepted leaves a rejection. -/
theorem rejections_of_refused (hfetched : Fetched service event artifact)
    (hguard : isRecognizedTrustArtifact artifact.body = true)
    (h : ¬ Accepted service s event artifact) :
    (planEvent service s event).rejectedStatusEvents ≠ [] := by
  rw [planEvent, if_neg hfetched.processed, hfetched.stored]
  cases hverified : (service.verifyTrustArtifact s.trustKeyRegistry artifact.body).accepted with
  | false => simp [hfetched.hashed, hguard, hverified]
  | true =>
      cases hscope : trustArtifactScopeMatchesBody artifact.body with
      | false => simp [hfetched.hashed, hguard, hverified, hscope]
      | true => exact absurd ⟨hfetched, hguard, hverified, hscope⟩ h

/-- An event is not synced without its artifact. -/
theorem Synced.fetched_artifact (h : Synced service s event) :
    ∃ artifact, Fetched service event artifact := by
  have hfetched := h.fetched
  have hmismatches := h.mismatches
  by_contra hnone
  by_cases hprocessed : event.type = "scanner.decision.recorded"
  · simp [reportOf, VerifierSyncReport.add, planEvent, hprocessed] at hfetched
  cases hstored : service.store.get? event.artifactId with
  | none => simp [reportOf, VerifierSyncReport.add, planEvent, hprocessed, hstored] at hfetched
  | some artifact =>
      cases hhash : hashesMatch service artifact event with
      | true => exact hnone ⟨artifact, hprocessed, hstored, hhash⟩
      | false =>
          simp [reportOf, VerifierSyncReport.add, planEvent, hprocessed, hstored, hhash]
            at hmismatches

/-- **SYNCED, ACCEPTED**: an accepted artifact is synced when its policy decodes, if it is
    one, and something changes where the type of the event demands it. -/
theorem synced_iff_of_accepted (h : Accepted service s event artifact) :
    Synced service s event ↔
      policyRejections service artifact.body event = []
        ∧ (governanceEventRequiresCacheMutation event.type = true →
          1 ≤ (projectionCalls service artifact.body event).countP isProjection
            + (foundAmong s.cache (projectionCalls service artifact.body event)).toNat
            + (updatedAmong s.trustKeyRegistry
                (keyStatusUpdates s.trustKeyRegistry artifact.body)).toNat) := by
  have hmutations := @mutations_reportOf service s event
  rw [planEvent_accepted h] at hmutations
  have hcalls : callsOf (asked service s artifact.body
      :: projectionActions service s artifact.body event)
      = projectionCalls service artifact.body event := callsOf_projectionActions _
  have hupdates : updatesOf (asked service s artifact.body
      :: projectionActions service s artifact.body event)
      = keyStatusUpdates s.trustKeyRegistry artifact.body := updatesOf_projectionActions
  rw [hcalls, hupdates] at hmutations
  have hreport : reportOf service s event = VerifierSyncReport.add {} s (planEvent service s event) := rfl
  rw [planEvent_accepted h] at hreport
  rw [← hmutations]
  constructor
  · intro hsynced
    have hrejected := hsynced.rejected
    rw [hreport] at hrejected
    exact ⟨hrejected, hsynced.materialized⟩
  · rintro ⟨hrejected, hmaterialized⟩
    refine ⟨?_, ?_, ?_, ?_, ?_, ?_, hmaterialized⟩
    · rw [hreport]
      rfl
    · rw [hreport]
      rfl
    · rw [hreport]
      exact hrejected
    · rw [hreport]
      exact Nat.le_refl _
    · rw [hreport]
      exact Nat.le_refl _
    · intro _
      rw [hreport]
      exact Nat.le_refl _

/-! ## The same event again -/

/-- The registry after the updates of a body. -/
def updatedBy (known : Option TrustKeyRegistry) (body : JsonValue) : Option TrustKeyRegistry :=
  known.map fun registry => (keyStatusUpdates known body).foldl updateTrustKeyStatus registry

theorem step_accepted (h : Accepted service s event artifact) :
    (machine service).step s event
      = ⟨applyCalls s.cache (projectionCalls service artifact.body event),
          updatedBy s.trustKeyRegistry artifact.body⟩ := by
  have hcache : ((machine service).step s event).cache
      = applyCalls s.cache (callsOf ((machine service).plan s event)) := applyAll_cache _
  have hregistry : ((machine service).step s event).trustKeyRegistry
      = s.trustKeyRegistry.map fun registry =>
          (updatesOf ((machine service).plan s event)).foldl updateTrustKeyStatus registry :=
    applyAll_registry _
  have hcalls : callsOf (asked service s artifact.body
      :: projectionActions service s artifact.body event)
      = projectionCalls service artifact.body event := callsOf_projectionActions _
  rw [plan_accepted h, hcalls] at hcache
  rw [updatesOf_plan h] at hregistry
  rw [← hcache, updatedBy, ← hregistry]

theorem step_unrecognized (hfetched : Fetched service event artifact)
    (hguard : isRecognizedTrustArtifact artifact.body = false) :
    (machine service).step s event
      = ⟨applyCalls s.cache (projectionCalls service artifact.body event),
          s.trustKeyRegistry⟩ := by
  have hplan : (machine service).plan s event = projectionActions service s artifact.body event :=
    congrArg EventPlan.actions (planEvent_unrecognized hfetched hguard)
  have hcache : ((machine service).step s event).cache
      = applyCalls s.cache (callsOf ((machine service).plan s event)) := applyAll_cache _
  have hregistry : ((machine service).step s event).trustKeyRegistry
      = s.trustKeyRegistry.map fun registry =>
          (updatesOf ((machine service).plan s event)).foldl updateTrustKeyStatus registry :=
    applyAll_registry _
  have hnone : updatesOf ((machine service).plan s event) = [] := by
    refine updatesOf_plan_nil fun artifact' haccepted => ?_
    obtain rfl := Option.some.inj (hfetched.stored.symm.trans haccepted.fetched.stored)
    exact Bool.false_ne_true (hguard.symm.trans haccepted.recognized)
  rw [hplan, callsOf_projectionActions] at hcache
  rw [hnone] at hregistry
  have hsame : ((machine service).step s event).trustKeyRegistry = s.trustKeyRegistry := by
    rw [hregistry]
    show s.trustKeyRegistry.map id = s.trustKeyRegistry
    rw [Option.map_id, id]
  rw [← hcache, ← hsame]

/-- Calls that each change nothing change nothing together. -/
theorem applyCalls_settled {cache : Cache} {calls : List CacheCall}
    (h : ∀ call ∈ calls, applyCall cache call = cache) : applyCalls cache calls = cache := by
  induction calls with
  | nil => rfl
  | cons call rest ih =>
      show applyCalls (applyCall cache call) rest = cache
      rw [h call List.mem_cons_self]
      exact ih fun call' hmem => h call' (List.mem_cons_of_mem _ hmem)

theorem applyCalls_again (cache : Cache) (body : JsonValue) :
    applyCalls (applyCalls cache (projectionCalls service body event))
        (projectionCalls service body event)
      = applyCalls cache (projectionCalls service body event) :=
  applyCalls_settled (settled_of_shape (shape_projectionCalls service body event) cache)

/-- Two updates of one body name one key and one status. -/
theorem same_target {registry registry' : TrustKeyRegistry}
    {input input' : TrustKeyStatusUpdateInput} (h : input ∈ keyStatusUpdates (some registry) body)
    (h' : input' ∈ keyStatusUpdates (some registry') body) :
    input'.keyId = input.keyId ∧ input'.status = input.status := by
  obtain ⟨_, revocation, -, hrevocation, hupdate⟩ := mem_keyStatusUpdates_iff.mp h
  obtain ⟨_, revocation', -, hrevocation', hupdate'⟩ := mem_keyStatusUpdates_iff.mp h'
  obtain rfl := Option.some.inj (hrevocation.symm.trans hrevocation')
  obtain ⟨keyId, status, _, -, hkeyId, hstatus, -, rfl⟩ := keyStatusUpdate_eq_some_iff.mp hupdate
  obtain ⟨keyId', status', _, -, hkeyId', hstatus', -, rfl⟩ :=
    keyStatusUpdate_eq_some_iff.mp hupdate'
  exact ⟨Option.some.inj (hkeyId'.symm.trans hkeyId), Option.some.inj (hstatus'.symm.trans hstatus)⟩

theorem updatedBy_nil {registry : TrustKeyRegistry}
    (h : keyStatusUpdates (some registry) body = []) :
    updatedBy (some registry) body = some registry := by
  rw [updatedBy, h]
  rfl

theorem updatedBy_of_mem {registry : TrustKeyRegistry} {input : TrustKeyStatusUpdateInput}
    (h : input ∈ keyStatusUpdates (some registry) body) :
    updatedBy (some registry) body = some (updateTrustKeyStatus registry input) := by
  rw [updatedBy, keyStatusUpdates_eq_singleton h]
  rfl

/-- An update that finds its key leaves the registry unchanged where the key has the status
    already. -/
theorem updateTrustKeyStatus_held {registry : TrustKeyRegistry} {input : TrustKeyStatusUpdateInput}
    (h : ∀ key, updatableKey registry input = some key → key.status = input.status) :
    updateTrustKeyStatus registry input = registry := by
  rw [updateTrustKeyStatus]
  cases hkey : updatableKey registry input with
  | none => rfl
  | some key =>
      refine OrderedMap.set_of_get? ?_
      rw [(updatableKey_eq_some.mp hkey).1, ← h key hkey]

/-- **KEYS AGAIN**: the updates of a body, made again over the registry they left, change
    nothing. -/
theorem updatedBy_again (known : Option TrustKeyRegistry) (body : JsonValue) :
    updatedBy (updatedBy known body) body = updatedBy known body := by
  cases known with
  | none => rfl
  | some registry =>
      cases hupdates : keyStatusUpdates (some registry) body with
      | nil => rw [updatedBy_nil hupdates, updatedBy_nil hupdates]
      | cons input rest =>
          have hmem : input ∈ keyStatusUpdates (some registry) body := by
            rw [hupdates]
            exact List.mem_cons_self
          rw [updatedBy_of_mem hmem]
          cases hkey : updatableKey registry input with
          | none =>
              -- the update found no key, so the registry and its update are as before
              have hsame : updateTrustKeyStatus registry input = registry := by
                rw [updateTrustKeyStatus, hkey]
              rw [hsame, updatedBy_of_mem hmem, hsame]
          | some key =>
              have hheld : (updateTrustKeyStatus registry input).get? input.keyId
                  = some { key with status := input.status } := by
                rw [get?_updateTrustKeyStatus, hkey]
                exact if_pos rfl
              cases hagain : keyStatusUpdates (some (updateTrustKeyStatus registry input)) body with
              | nil => exact updatedBy_nil hagain
              | cons input' rest' =>
                  have hmem' : input' ∈ keyStatusUpdates
                      (some (updateTrustKeyStatus registry input)) body := by
                    rw [hagain]
                    exact List.mem_cons_self
                  obtain ⟨hkeyId, hstatus⟩ := same_target hmem hmem'
                  rw [updatedBy_of_mem hmem']
                  refine congrArg some (updateTrustKeyStatus_held fun key' hkey' => ?_)
                  have hget := (updatableKey_eq_some.mp hkey').1
                  rw [hkeyId, hheld] at hget
                  rw [← Option.some.inj hget, hstatus]

/-- **AN EVENT AGAIN**: processed a second time, an event changes nothing. -/
theorem step_again (service : SyncService) (s : SyncState) (event : NetworkEvent) :
    (machine service).step ((machine service).step s event) event
      = (machine service).step s event := by
  have hcase := planEvent_case service s event
  have hplan : (planEvent service s event).actions = (machine service).plan s event := rfl
  rw [hplan] at hcase
  -- an event that plans nothing but a question leaves the state, so the second run is the first
  have hidle : (machine service).step s event = s →
      (machine service).step ((machine service).step s event) event
        = (machine service).step s event := fun h => by rw [h, h]
  generalize hactions : (machine service).plan s event = actions at hcase
  cases hcase with
  | notFetched _ =>
      refine hidle ?_
      show (machine service).applyAll s ((machine service).plan s event) = s
      rw [hactions]
      rfl
  | rejected artifact _ _ =>
      refine hidle ?_
      show (machine service).applyAll s ((machine service).plan s event) = s
      rw [hactions]
      rfl
  | unrecognized artifact hfetched hguard =>
      rw [step_unrecognized hfetched hguard, step_unrecognized hfetched hguard, applyCalls_again]
  | accepted artifact hfetched hguard haccepted hscope =>
      have hfirst := step_accepted ⟨hfetched, hguard, haccepted, hscope⟩
      by_cases hagain : Accepted service ((machine service).step s event) event artifact
      · rw [step_accepted hagain, hfirst, applyCalls_again, updatedBy_again]
      · -- what is not accepted again is rejected
        have hsecond := planEvent_case service ((machine service).step s event) event
        generalize hactions' : (planEvent service ((machine service).step s event) event).actions
          = actions' at hsecond
        cases hsecond with
        | notFetched hnone => exact absurd hfetched (hnone artifact)
        | unrecognized artifact' hfetched' hguard' =>
            obtain rfl := Option.some.inj (hfetched.stored.symm.trans hfetched'.stored)
            exact absurd (hguard.symm.trans hguard') (by decide)
        | rejected artifact' hfetched' hguard' =>
            show (machine service).applyAll _ (planEvent service _ event).actions = _
            rw [hactions']
            rfl
        | accepted artifact' hfetched' hguard' haccepted' hscope' =>
            obtain rfl := Option.some.inj (hfetched.stored.symm.trans hfetched'.stored)
            exact absurd ⟨hfetched', hguard', haccepted', hscope'⟩ hagain

/-! ## What the second report counts -/

/-- Over a cache that the calls do not change, each is asked alone. -/
theorem foundAmong_settled {cache : Cache} {calls : List CacheCall}
    (h : ∀ call ∈ calls, applyCall cache call = cache) :
    foundAmong cache calls = calls.any (callFound cache) := by
  induction calls with
  | nil => rfl
  | cons call rest ih =>
      rw [foundAmong, h call List.mem_cons_self, List.any_cons,
        ih fun call' hmem => h call' (List.mem_cons_of_mem _ hmem)]

/-- **NOTHING LEFT**: removals find nothing the second time. -/
theorem foundAmong_removals {cache : Cache} {calls : List CacheCall} (hshape : Shape calls)
    (h : ∀ call ∈ calls, isRemoval call = true) :
    foundAmong (applyCalls cache calls) calls = false := by
  rw [foundAmong_settled (settled_of_shape hshape cache)]
  refine List.any_eq_false.mpr fun call hmem => ?_
  refine Bool.eq_false_iff.mp ?_
  cases hshape with
  | none => cases hmem
  | one call' =>
      obtain rfl := List.mem_singleton.mp hmem
      exact callFound_removal (h call hmem)
  | issuer ns =>
      rcases List.mem_cons.mp hmem with rfl | hmem
      · -- the second call does not touch the records
        exact @callFound_removal cache (.removeIssuer ns) rfl
      · obtain rfl := List.mem_singleton.mp hmem
        exact @callFound_removal (applyCall cache (.removeIssuer ns))
          (.removeDestinationPoliciesForIssuer ns) rfl

/-- A call that removes nothing finds what it found. -/
theorem callFound_again {cache : Cache} {call : CacheCall} (h : isRemoval call = false) :
    callFound (applyCall cache call) call = callFound cache call := by
  cases call with
  | updateIssuerAssuranceTier update => exact callFound_tierUpdate update
  | upsertIssuer _ => rfl
  | upsertDestinationPolicy _ => rfl
  | upsertRootAuthorityContext _ => rfl
  | upsertDelegatedAuthorityIssuerContext _ => rfl
  | _ => cases h

theorem foundAmong_again {cache : Cache} {calls : List CacheCall} (hshape : Shape calls)
    (h : ∀ call ∈ calls, isRemoval call = false) :
    foundAmong (applyCalls cache calls) calls = foundAmong cache calls := by
  cases hshape with
  | none => rfl
  | one call =>
      show (callFound (applyCall cache call) call || false) = (callFound cache call || false)
      rw [callFound_again (h call List.mem_cons_self)]
  | issuer ns => cases h _ List.mem_cons_self

/-- Only a revocation removes. -/
theorem isRemoval_projectionCalls (h : revocationStatusArtifactBody body = none) :
    ∀ call ∈ projectionCalls service body event, isRemoval call = false := by
  intro call hmem
  rw [projectionCalls, statusEventFromArtifact, h] at hmem
  simp only [List.mem_append, List.mem_map, List.mem_flatMap] at hmem
  rcases hmem with (((⟨_, -, rfl⟩ | ⟨_, -, rfl⟩) | ⟨_, -, rfl⟩) | ⟨_, -, rfl⟩) | ⟨status, hstatus, hcall⟩
  · rfl
  · rfl
  · rfl
  · rfl
  · cases hassurance : assuranceStatusArtifactBody body with
    | none =>
        rw [hassurance] at hstatus
        cases hstatus
    | some assurance =>
        rw [hassurance] at hstatus
        obtain rfl := Option.some.inj (Option.mem_toList.mp hstatus)
        obtain rfl := List.mem_singleton.mp hcall
        rfl

/-- The calls of a revocation all remove. -/
theorem isRemoval_revocationCalls {revocation : RevocationStatusArtifactBody} :
    ∀ call ∈ revocationCalls revocation, isRemoval call = true := by
  intro call hmem
  rw [revocationCalls] at hmem
  split at hmem <;> simp only [List.mem_cons, List.not_mem_nil, or_false] at hmem
  · rcases hmem with rfl | rfl <;> rfl
  · rcases hmem with rfl | rfl <;> rfl
  · rcases hmem with rfl | rfl <;> rfl
  · rw [hmem]
    rfl
  · rw [hmem]
    rfl

/-- **FINDS ITS KEY**: the update a body leads to over this registry finds its key. -/
def FindsKey (known : Option TrustKeyRegistry) (body : JsonValue) : Prop :=
  ∃ registry input, known = some registry ∧ input ∈ keyStatusUpdates (some registry) body
    ∧ (updatableKey registry input).isSome = true

theorem updatedAmong_iff {known : Option TrustKeyRegistry} :
    updatedAmong known (keyStatusUpdates known body) = true ↔ FindsKey known body := by
  constructor
  · intro h
    cases hupdates : keyStatusUpdates known body with
    | nil =>
        rw [hupdates] at h
        cases h
    | cons input rest =>
        have hmem : input ∈ keyStatusUpdates known body := by
          rw [hupdates]
          exact List.mem_cons_self
        obtain ⟨registry, _, rfl, -, -⟩ := mem_keyStatusUpdates_iff.mp hmem
        rw [keyStatusUpdates_eq_singleton hmem] at h
        have hfound : ((updatableKey registry input).isSome || false) = true := h
        rw [Bool.or_false] at hfound
        exact ⟨registry, input, rfl, hmem, hfound⟩
  · rintro ⟨registry, input, rfl, hmem, hfound⟩
    rw [keyStatusUpdates_eq_singleton hmem]
    show ((updatableKey registry input).isSome || false) = true
    rw [hfound]
    rfl

/-- An update targets a trust key. -/
theorem targetType_of_mem {known : Option TrustKeyRegistry} {input : TrustKeyStatusUpdateInput}
    {revocation : RevocationStatusArtifactBody} (hmem : input ∈ keyStatusUpdates known body)
    (hrevocation : revocationStatusArtifactBody body = some revocation) :
    revocation.targetType = .trustKey := by
  obtain ⟨_, revocation', -, hrevocation', hupdate⟩ := mem_keyStatusUpdates_iff.mp hmem
  obtain rfl := Option.some.inj (hrevocation.symm.trans hrevocation')
  obtain ⟨_, _, _, htype, -⟩ := keyStatusUpdate_eq_some_iff.mp hupdate
  exact htype

theorem revocationCalls_trustKey {revocation : RevocationStatusArtifactBody}
    (h : revocation.targetType = .trustKey) : revocationCalls revocation = [] := by
  rw [revocationCalls, h]

/-- **REPEATABLE**: over the registry its own updates leave, the artifact is accepted again;
    and where the type of the event demands a change of the cache, the artifact removes
    nothing, and the trust key it targets is found again. -/
structure Repeatable (service : SyncService) (s : SyncState) (event : NetworkEvent)
    (body : JsonValue) : Prop where
  verified :
    (service.verifyTrustArtifact (updatedBy s.trustKeyRegistry body) body).accepted = true
  materialized : governanceEventRequiresCacheMutation event.type = true →
    ∀ revocation, revocationStatusArtifactBody body = some revocation →
      (revocation.status ≠ .active → revocationCalls revocation = [])
        ∧ (revocation.targetType = .trustKey → FindsKey (updatedBy s.trustKeyRegistry body) body)

/-- **COUNTED AGAIN**: where something was changed the first time, something is counted
    the second time exactly when the artifact removes nothing and its key is found. -/
theorem counted_again_iff
    (hfirst : 1 ≤ (projectionCalls service body event).countP isProjection
      + (foundAmong s.cache (projectionCalls service body event)).toNat
      + (updatedAmong s.trustKeyRegistry (keyStatusUpdates s.trustKeyRegistry body)).toNat) :
    1 ≤ (projectionCalls service body event).countP isProjection
        + (foundAmong (applyCalls s.cache (projectionCalls service body event))
            (projectionCalls service body event)).toNat
        + (updatedAmong (updatedBy s.trustKeyRegistry body)
            (keyStatusUpdates (updatedBy s.trustKeyRegistry body) body)).toNat
      ↔ ∀ revocation, revocationStatusArtifactBody body = some revocation →
        (revocation.status ≠ .active → revocationCalls revocation = [])
          ∧ (revocation.targetType = .trustKey →
            FindsKey (updatedBy s.trustKeyRegistry body) body) := by
  have hshape := shape_projectionCalls service body event
  cases hrevocation : revocationStatusArtifactBody body with
  | none =>
      have hkeys : ∀ known, keyStatusUpdates known body = [] := by
        intro known
        refine List.eq_nil_iff_forall_not_mem.mpr fun input hmem => ?_
        obtain ⟨_, _, -, hsome, -⟩ := mem_keyStatusUpdates_iff.mp hmem
        rw [hrevocation] at hsome
        cases hsome
      rw [hkeys] at hfirst ⊢
      rw [foundAmong_again hshape (isRemoval_projectionCalls hrevocation)]
      exact iff_of_true hfirst fun _ h => by cases h
  | some revocation =>
      have hcalls := @projectionCalls_revocation service event body revocation hrevocation
      rw [applyStatusEventCalls] at hcalls
      have hremoves : ∀ call ∈ projectionCalls service body event, isRemoval call = true := by
        intro call hmem
        rw [hcalls] at hmem
        split at hmem
        · cases hmem
        · exact isRemoval_revocationCalls call hmem
      have hnoProjection : (projectionCalls service body event).countP isProjection = 0 := by
        refine List.countP_eq_zero.mpr fun call hmem hprojection => ?_
        have hremoval := hremoves call hmem
        cases call <;> first
          | exact Bool.false_ne_true hremoval
          | exact Bool.false_ne_true hprojection
      rw [hnoProjection] at hfirst ⊢
      rw [foundAmong_removals hshape hremoves]
      have hcount : ∀ b : Bool, 1 ≤ 0 + false.toNat + b.toNat ↔ b = true := by decide
      rw [hcount, updatedAmong_iff]
      constructor
      · intro hfinds revocation' hrevocation'
        obtain rfl := Option.some.inj hrevocation'
        obtain ⟨_, input, hknown, hmem, -⟩ := id hfinds
        exact ⟨fun _ => revocationCalls_trustKey (targetType_of_mem hmem hrevocation),
          fun _ => hfinds⟩
      · intro hcondition
        obtain ⟨hnothing, hfinds⟩ := hcondition revocation rfl
        have hnil : projectionCalls service body event = [] := by
          rw [hcalls]
          split
          · rfl
          · rename_i hstatus
            exact hnothing hstatus
        rw [hnil] at hfirst
        obtain ⟨_, input, hknown, hmem, -⟩ := updatedAmong_iff.mp ((hcount _).mp hfirst)
        exact hfinds (targetType_of_mem hmem hrevocation)

/-! ## Redelivery -/

/-- **AN UNRECOGNISED BODY**: its report does not depend on the state. -/
theorem reportOf_unrecognized {s' : SyncState} (hfetched : Fetched service event artifact)
    (hguard : isRecognizedTrustArtifact artifact.body = false) :
    reportOf service s' event = reportOf service s event := by
  rw [reportOf, reportOf, planEvent_unrecognized hfetched hguard,
    planEvent_unrecognized hfetched hguard, projectionActions_unrecognized hguard,
    projectionActions_unrecognized hguard]
  cases projectedPolicy service.js artifact.body event with
  | none => rfl
  | some policy => rfl

/-- **SYNCED AGAIN**: an event that is synced is synced again exactly when it is
    repeatable. -/
theorem synced_again_iff (hfirst : Synced service s event) :
    Synced service ((machine service).step s event) event ↔
      ∀ artifact, Fetched service event artifact →
        isRecognizedTrustArtifact artifact.body = true →
          Repeatable service s event artifact.body := by
  obtain ⟨artifact, hfetched⟩ := hfirst.fetched_artifact
  have honly : ∀ artifact', Fetched service event artifact' → artifact' = artifact :=
    fun artifact' h => Option.some.inj (h.stored.symm.trans hfetched.stored)
  cases hguard : isRecognizedTrustArtifact artifact.body with
  | false =>
      refine iff_of_true ?_ fun artifact' hfetched' hguard' => ?_
      · rw [Synced, @reportOf_unrecognized service s event artifact _ hfetched hguard]
        exact hfirst
      · rw [honly artifact' hfetched', hguard] at hguard'
        cases hguard'
  | true =>
      have haccepted : Accepted service s event artifact := by
        by_contra hrefused
        have hrejections : (planEvent service s event).rejectedStatusEvents = [] := hfirst.rejected
        exact rejections_of_refused hfetched hguard hrefused hrejections
      obtain ⟨hpolicy, hchanged⟩ := (synced_iff_of_accepted haccepted).mp hfirst
      have hstep := step_accepted haccepted
      constructor
      · intro hsecond artifact' hfetched' _
        obtain rfl := honly artifact' hfetched'
        have hagain : Accepted service ((machine service).step s event) event artifact' := by
          by_contra hrefused
          have hrejections :
              (planEvent service ((machine service).step s event) event).rejectedStatusEvents
                = [] := hsecond.rejected
          exact rejections_of_refused hfetched hguard hrefused hrejections
        have hcounted := ((synced_iff_of_accepted hagain).mp hsecond).2
        have hverified := hagain.verified
        rw [hstep] at hcounted hverified
        exact ⟨hverified, fun hdemanded =>
          (counted_again_iff (hchanged hdemanded)).mp (hcounted hdemanded)⟩
      · intro hrepeatable
        obtain ⟨hverified, hmaterialized⟩ := hrepeatable artifact hfetched hguard
        have hagain : Accepted service ((machine service).step s event) event artifact := by
          refine ⟨hfetched, hguard, ?_, haccepted.scope⟩
          rw [hstep]
          exact hverified
        refine (synced_iff_of_accepted hagain).mpr ⟨hpolicy, fun hdemanded => ?_⟩
        rw [hstep]
        exact (counted_again_iff (hchanged hdemanded)).mpr (hmaterialized hdemanded)

variable {Message : Type} {decode : Message → Option NetworkEvent} {message : Message}

theorem processed_eq (h : decode message = some event) :
    processNatsGovernanceMessage decode service s message
      = ((machine service).step s event,
        if (natsGovernanceSyncReportAcceptance event (reportOf service s event)).accepted then
          .synced (reportOf service s event)
        else .syncRejected
          (natsGovernanceSyncReportAcceptance event (reportOf service s event)).reason) := by
  rw [processNatsGovernanceMessage, h]
  dsimp only
  rw [syncRecent_one]
  split <;> rfl

theorem synced_result_iff (h : decode message = some event) :
    (∃ report, (processNatsGovernanceMessage decode service s message).2 = .synced report) ↔
      Synced service s event := by
  rw [processed_eq h, Synced, ← accepted_iff]
  dsimp only
  constructor
  · rintro ⟨report, hreport⟩
    split at hreport
    · assumption
    · cases hreport
  · intro haccepted
    rw [if_pos haccepted]
    exact ⟨_, rfl⟩

/-- **REDELIVERY**: where a message is synced, it is synced again from the state that it
    left, and leaves cache and registry as they are, exactly when its artifact is
    repeatable. -/
theorem redelivery_harmless_iff (decode : Message → Option NetworkEvent) (service : SyncService)
    (s : SyncState) (message : Message) (report : VerifierSyncReport)
    (hfirst : (processNatsGovernanceMessage decode service s message).2 = .synced report) :
    ((∃ report', (processNatsGovernanceMessage decode service
          (processNatsGovernanceMessage decode service s message).1 message).2 = .synced report')
        ∧ (processNatsGovernanceMessage decode service
            (processNatsGovernanceMessage decode service s message).1 message).1
          = (processNatsGovernanceMessage decode service s message).1)
      ↔ ∀ event artifact, decode message = some event → Fetched service event artifact →
        isRecognizedTrustArtifact artifact.body = true →
          Repeatable service s event artifact.body := by
  cases hdecode : decode message with
  | none =>
      rw [processNatsGovernanceMessage, hdecode] at hfirst
      cases hfirst
  | some event =>
      have hsynced : Synced service s event := (synced_result_iff hdecode).mp ⟨report, hfirst⟩
      have hstate : ∀ s, (processNatsGovernanceMessage decode service s message).1
          = (machine service).step s event := fun s => congrArg Prod.fst (processed_eq hdecode)
      rw [hstate s, synced_result_iff hdecode, hstate, step_again, synced_again_iff hsynced,
        and_iff_left rfl]
      constructor
      · intro hrepeatable event' artifact hevent hfetched hguard
        obtain rfl := Option.some.inj hevent
        exact hrepeatable artifact hfetched hguard
      · exact fun hrepeatable artifact hfetched hguard =>
          hrepeatable event artifact rfl hfetched hguard

/-! ## A revocation whose acknowledgement is lost -/

/-- The event that publishes the record of the demo issuer. -/
def recordEvent : NetworkEvent :=
  SyncReplay.demoEvent "issuer.record.published" "artifact:issuer" SyncReplay.issuerRecordBody

/-- What becomes of an event that is delivered as it is, in a state of the demo service. -/
def deliver (s : SyncState) (event : NetworkEvent) : SyncState × MessageProcessResult :=
  processNatsGovernanceMessage some SyncReplay.demoService s event

/-- The record is synced, synced again when it is redelivered, and leaves what is there. -/
theorem record_redelivered :
    (deliver ⟨.empty, none⟩ recordEvent).2.status = ("synced", none)
      ∧ ((∃ report', (deliver (deliver ⟨.empty, none⟩ recordEvent).1 recordEvent).2
          = .synced report')
        ∧ (deliver (deliver ⟨.empty, none⟩ recordEvent).1 recordEvent).1
          = (deliver ⟨.empty, none⟩ recordEvent).1) := by
  have hstatus : (deliver ⟨.empty, none⟩ recordEvent).2.status = ("synced", none) := by
    decide +kernel
  obtain ⟨report, hfirst⟩ := MessageProcessResult.synced_iff.mpr hstatus
  refine ⟨hstatus, (redelivery_harmless_iff some SyncReplay.demoService ⟨.empty, none⟩ recordEvent
    report hfirst).mpr fun event artifact hevent hfetched _ => ?_⟩
  obtain rfl := Option.some.inj hevent
  have hbody : artifact.body = SyncReplay.issuerRecordBody := by
    have hstored : (SyncReplay.demoService.store.get? recordEvent.artifactId).map (·.body)
        = some SyncReplay.issuerRecordBody := rfl
    rw [hfetched.stored] at hstored
    exact Option.some.inj hstored
  rw [hbody]
  have htype : hasArtifactType SyncReplay.issuerRecordBody "issuer_record" = true := by decide +kernel
  refine ⟨rfl, fun _ revocation hrevocation => ?_⟩
  rw [revocation_none htype (by decide)] at hrevocation
  cases hrevocation

/-- What is answered to the two deliveries of the revocation. -/
def revocationDeliveries : {results : List MessageProcessResult //
    results = [(deliver ((machine SyncReplay.demoService).runState ⟨.empty, none⟩
          SyncReplay.demoEarlier) SyncReplay.demoRevocation).2,
        (deliver (deliver ((machine SyncReplay.demoService).runState ⟨.empty, none⟩
          SyncReplay.demoEarlier) SyncReplay.demoRevocation).1 SyncReplay.demoRevocation).2]
      ∧ results.map MessageProcessResult.status = [("synced", none),
        ("sync_rejected", some "governance_event_not_materialized")]} :=
  ⟨_, rfl, by decide +kernel⟩

/-- **A REVOCATION REDELIVERED**: the first delivery removes the issuer and is synced, and
    the second, from the state the first left, is terminated. -/
theorem redelivered_revocation_rejected :
    (deliver ((machine SyncReplay.demoService).runState ⟨.empty, none⟩ SyncReplay.demoEarlier)
        SyncReplay.demoRevocation).2.status = ("synced", none)
      ∧ (deliver (deliver ((machine SyncReplay.demoService).runState ⟨.empty, none⟩
            SyncReplay.demoEarlier) SyncReplay.demoRevocation).1
          SyncReplay.demoRevocation).2.status
        = ("sync_rejected", some "governance_event_not_materialized") := by
  obtain ⟨results, hresults, hstatuses⟩ := revocationDeliveries
  rw [hresults] at hstatuses
  obtain ⟨hsynced, hrejected⟩ := List.cons.inj hstatuses
  exact ⟨hsynced, (List.cons.inj hrejected).1⟩

end GovernanceRedelivery
