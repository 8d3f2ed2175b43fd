import QrTrust.Lib.RepeatedWrites
import QrTrust.Network.SyncAcceptanceProofs

/-! # What an event does to the registry

    Of everything an event leads to, only a key status update touches the
    trust-key registry, and only an accepted revocation of a trust key leads to
    one.  The update names a key, a status and a scope, and an update that is
    made again changes nothing. -/

namespace KeyStatus

open VerifierCache TrustKeys VerifierSync SyncGate SyncAcceptance Runs

variable {service : SyncService} {s : SyncState} {event : NetworkEvent} {body : JsonValue}
  {artifact : SignedArtifact} {registry : TrustKeyRegistry} {input : TrustKeyStatusUpdateInput}

/-! ## Updates among actions -/

/-- The key status updates among some actions. -/
def updatesOf (actions : List SyncAction) : List TrustKeyStatusUpdateInput :=
  actions.filterMap fun
    | .updateTrustKeyStatus input => some input
    | _ => none

theorem updatesOf_append (first second : List SyncAction) :
    updatesOf (first ++ second) = updatesOf first ++ updatesOf second :=
  List.filterMap_append

/-- The registry after some actions is the registry after their updates. -/
theorem applyAll_registry (actions : List SyncAction) :
    ((machine service).applyAll s actions).trustKeyRegistry
      = s.trustKeyRegistry.map fun registry =>
          (updatesOf actions).foldl updateTrustKeyStatus registry := by
  induction actions generalizing s with
  | nil =>
      show s.trustKeyRegistry = s.trustKeyRegistry.map id
      rw [Option.map_id, id]
  | cons action rest ih =>
      rw [Machine.applyAll_cons, ih]
      cases action with
      | updateTrustKeyStatus input =>
          show (s.trustKeyRegistry.map fun registry => _).map _ = _
          rw [Option.map_map]
          rfl
      | _ => rfl

theorem updatesOf_projectionActions :
    updatesOf (projectionActions service s body event)
      = keyStatusUpdates s.trustKeyRegistry body := by
  have hcalls : ∀ calls : List CacheCall, updatesOf (calls.map .cacheCall) = [] := by
    intro calls
    rw [updatesOf, List.filterMap_map]
    exact List.filterMap_eq_nil_iff.mpr fun _ _ => rfl
  have hupdates : ∀ updates : List TrustKeyStatusUpdateInput,
      updatesOf (updates.map .updateTrustKeyStatus) = updates := by
    intro updates
    rw [updatesOf, List.filterMap_map]
    exact List.filterMap_some ..
  rw [projectionActions, updatesOf_append, hcalls, hupdates, List.nil_append]

/-- An accepted artifact leads to the updates of its body. -/
theorem updatesOf_plan (h : Accepted service s event artifact) :
    updatesOf ((machine service).plan s event) = keyStatusUpdates s.trustKeyRegistry artifact.body := by
  rw [plan_accepted h]
  exact updatesOf_projectionActions

/-- Without an accepted artifact there is no update. -/
theorem updatesOf_plan_nil (h : ∀ artifact, ¬ Accepted service s event artifact) :
    updatesOf ((machine service).plan s event) = [] := by
  have hcase := planEvent_case service s event
  show updatesOf (planEvent service s event).actions = []
  generalize (planEvent service s event).actions = actions at hcase ⊢
  cases hcase with
  | notFetched _ => rfl
  | unrecognized artifact hfetched hguard =>
      rw [projectionActions_unrecognized hguard, updatesOf, List.filterMap_map]
      exact List.filterMap_eq_nil_iff.mpr fun _ _ => rfl
  | rejected artifact hfetched hguard => rfl
  | accepted artifact hfetched hguard haccepted hscope =>
      exact absurd ⟨hfetched, hguard, haccepted, hscope⟩ (h artifact)

/-! ## One update -/

/-- The lookup with which an update finds its signer. -/
def signerLookup (revocation : RevocationStatusArtifactBody) : TrustKeyLookupInput where
  signedBy := revocation.signedBy
  rootProgramId := revocation.rootProgramId
  acceptedAlgorithmIds := [revocation.signatureAlgorithmId]
  delegatedAuthorityId := some revocation.delegatedAuthorityId

/-- The update that a signer is allowed: unlimited for a key of the root. -/
def updateBy (signer : TrustKeyRecord) (revocation : RevocationStatusArtifactBody) (keyId : String)
    (status : TrustKeyStatus) : TrustKeyStatusUpdateInput where
  rootProgramId := revocation.rootProgramId
  keyId := keyId
  status := status
  delegatedAuthorityId :=
    if signer.scope = .rootProgram then none else some revocation.delegatedAuthorityId

/-- **THE UPDATE OF A REVOCATION**: it targets a trust key by id and names a key status,
    and the signer is found again. -/
theorem keyStatusUpdate_eq_some_iff {revocation : RevocationStatusArtifactBody} :
    keyStatusUpdate registry revocation = some input ↔
      ∃ keyId status signer, revocation.targetType = .trustKey
        ∧ revocation.targetKeyId = some keyId
        ∧ revocation.status.trustKeyStatus = some status
        ∧ lookupSignerKey registry (signerLookup revocation) = { key := some signer }
        ∧ input = updateBy signer revocation keyId status := by
  constructor
  · intro h
    obtain ⟨_, htype, h⟩ := Option.bind_eq_some_iff.mp h
    obtain ⟨keyId, hkeyId, h⟩ := Option.bind_eq_some_iff.mp h
    obtain ⟨status, hstatus, h⟩ := Option.bind_eq_some_iff.mp h
    obtain ⟨signer, hsigner, h⟩ := Option.bind_eq_some_iff.mp h
    obtain ⟨_, hreason, h⟩ := Option.bind_eq_some_iff.mp h
    have hreason := (Option.guard_eq_some' _).mp hreason
    refine ⟨keyId, status, signer, (Option.guard_eq_some' _).mp htype, hkeyId, hstatus, ?_,
      (Option.some.inj h).symm⟩
    show lookupSignerKey registry _ = _
    rw [← hsigner, ← hreason]
    rfl
  · rintro ⟨keyId, status, signer, htype, hkeyId, hstatus, hsigner, rfl⟩
    rw [signerLookup] at hsigner
    simp [keyStatusUpdate, htype, hkeyId, hstatus, hsigner, updateBy, guard]

/-- A revocation leads to one update at most. -/
theorem mem_keyStatusUpdates_iff {known : Option TrustKeyRegistry} :
    input ∈ keyStatusUpdates known body ↔
      ∃ registry revocation, known = some registry
        ∧ revocationStatusArtifactBody body = some revocation
        ∧ keyStatusUpdate registry revocation = some input := by
  rw [keyStatusUpdates.eq_def]
  cases known with
  | none => simp
  | some registry =>
      cases revocationStatusArtifactBody body with
      | none => simp
      | some revocation => simp

theorem keyStatusUpdates_eq_singleton {known : Option TrustKeyRegistry}
    (h : input ∈ keyStatusUpdates known body) : keyStatusUpdates known body = [input] := by
  obtain ⟨registry, revocation, hknown, hrevocation, hupdate⟩ := mem_keyStatusUpdates_iff.mp h
  simp only [keyStatusUpdates, hknown, hrevocation, hupdate, Option.toList_some]

/-- What the registry holds under an id after an update. -/
theorem get?_updateTrustKeyStatus (registry : TrustKeyRegistry) (input : TrustKeyStatusUpdateInput)
    (keyId : String) :
    (updateTrustKeyStatus registry input).get? keyId
      = match updatableKey registry input with
        | none => registry.get? keyId
        | some key =>
            if keyId = input.keyId then some { key with status := input.status }
            else registry.get? keyId := by
  rw [updateTrustKeyStatus]
  cases updatableKey registry input with
  | none => rfl
  | some key => exact OrderedMap.get?_set ..

theorem updatableKey_eq_some {key : TrustKeyRecord} :
    updatableKey registry input = some key ↔
      registry.get? input.keyId = some key ∧ trustKeyIsWithinUpdateScope key input = true :=
  Option.filter_eq_some_iff

/-! ## One step -/

/-- An accepted artifact leaves the registry as its update does. -/
theorem registry_step_of_mem (h : Accepted service s event artifact)
    (hknown : s.trustKeyRegistry = some registry)
    (hmem : input ∈ keyStatusUpdates (some registry) artifact.body) :
    ((machine service).step s event).trustKeyRegistry
      = some (updateTrustKeyStatus registry input) := by
  have hstep : ((machine service).step s event).trustKeyRegistry
      = s.trustKeyRegistry.map fun registry =>
          (updatesOf ((machine service).plan s event)).foldl updateTrustKeyStatus registry :=
    applyAll_registry _
  rw [hstep, hknown, updatesOf_plan h, hknown, keyStatusUpdates_eq_singleton hmem]
  rfl

/-- **ONE STEP**: what the registry holds under an id stays, or an accepted revocation
    of the key there sets its status. -/
theorem registry_step_cases (hknown : s.trustKeyRegistry = some registry) (keyId : String) :
    ∃ registry', ((machine service).step s event).trustKeyRegistry = some registry'
      ∧ (registry'.get? keyId = registry.get? keyId
        ∨ ∃ artifact input key, Accepted service s event artifact
          ∧ input ∈ keyStatusUpdates (some registry) artifact.body ∧ input.keyId = keyId
          ∧ updatableKey registry input = some key
          ∧ registry'.get? keyId = some { key with status := input.status }) := by
  have hstep : ((machine service).step s event).trustKeyRegistry
      = s.trustKeyRegistry.map fun registry =>
          (updatesOf ((machine service).plan s event)).foldl updateTrustKeyStatus registry :=
    applyAll_registry _
  by_cases haccepted : ∃ artifact, Accepted service s event artifact
  case neg =>
    rw [updatesOf_plan_nil (not_exists.mp haccepted), hknown] at hstep
    exact ⟨registry, hstep, .inl rfl⟩
  obtain ⟨artifact, haccepted⟩ := haccepted
  cases hupdates : keyStatusUpdates (some registry) artifact.body with
  | nil =>
      rw [updatesOf_plan haccepted, hknown, hupdates] at hstep
      exact ⟨registry, hstep, .inl rfl⟩
  | cons input rest =>
      have hmem : input ∈ keyStatusUpdates (some registry) artifact.body := by
        rw [hupdates]
        exact List.mem_cons_self
      refine ⟨_, registry_step_of_mem haccepted hknown hmem, ?_⟩
      rw [get?_updateTrustKeyStatus]
      cases hupdatable : updatableKey registry input with
      | none => exact .inl rfl
      | some key =>
          dsimp only
          by_cases hkeyId : keyId = input.keyId
          · exact .inr ⟨artifact, input, key, haccepted, hmem, hkeyId.symm, hupdatable,
              if_pos hkeyId⟩
          · exact .inl (if_neg hkeyId)

end KeyStatus
