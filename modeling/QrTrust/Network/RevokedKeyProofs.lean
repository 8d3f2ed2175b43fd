import QrTrust.Network.KeyStatusConfinementProofs

/-! # Revoked keys

    An update writes the status it names over whatever stands there, so a key that
    was revoked is active again after any accepted event that names it active,
    an older one that is read again included.  While none does, no artifact is
    accepted with the key (`revoked_stays_dead`). -/

namespace RevokedKeys

open VerifierCache TrustKeys VerifierSync SyncAcceptance SignatureVerification SignatureAcceptance
  SignerConfinement KeyStatus Runs

variable {w : VerifierWiring} {service : SyncService} {s : SyncState} {event : NetworkEvent}
  {keyId : String}

/-! ## Keys that are not active -/

/-- The registry of the state holds a revoked key under the id. -/
def IsRevoked (s : SyncState) (keyId : String) : Prop :=
  ∃ registry key, s.trustKeyRegistry = some registry ∧ registry.get? keyId = some key
    ∧ key.status = .revoked

/-- The registry of the state holds a key under the id that is not active. -/
def IsInactive (s : SyncState) (keyId : String) : Prop :=
  ∃ registry key, s.trustKeyRegistry = some registry ∧ registry.get? keyId = some key
    ∧ key.status ≠ .active

theorem IsRevoked.inactive (h : IsRevoked s keyId) : IsInactive s keyId := by
  obtain ⟨registry, key, hregistry, hkey, hstatus⟩ := h
  refine ⟨registry, key, hregistry, hkey, ?_⟩
  rw [hstatus]
  decide

/-- **REINSTATES**: the event brings an accepted revocation status artifact that names
    the key active, by a signer whose scope the key is in. -/
def Reinstates (service : SyncService) (s : SyncState) (event : NetworkEvent) (keyId : String) :
    Prop :=
  ∃ artifact registry input key, Accepted service s event artifact
    ∧ s.trustKeyRegistry = some registry
    ∧ input ∈ keyStatusUpdates (some registry) artifact.body ∧ input.keyId = keyId
    ∧ input.status = .active ∧ updatableKey registry input = some key

/-- One event that does not reinstate the key leaves it as inactive. -/
theorem inactive_step (h : IsInactive s keyId) (hno : ¬ Reinstates service s event keyId) :
    IsInactive ((machine service).step s event) keyId := by
  obtain ⟨registry, key, hregistry, hkey, hstatus⟩ := h
  obtain ⟨registry', hregistry', hcases⟩ := @registry_step_cases service s event _ hregistry keyId
  rcases hcases with hsame | ⟨artifact, input, target, haccepted, hmem, hkeyId, hupdatable, hset⟩
  · exact ⟨registry', key, hregistry', hsame.trans hkey, hstatus⟩
  · refine ⟨registry', _, hregistry', hset, fun hactive => ?_⟩
    exact hno ⟨artifact, registry, input, target, haccepted, hregistry, hmem, hkeyId, hactive,
      hupdatable⟩

/-- A run of events that do not reinstate the key leaves it as inactive. -/
theorem inactive_run {events : List NetworkEvent} (h : IsInactive s keyId)
    (hno : ∀ before event, before ++ [event] <+: events →
      ¬ Reinstates service ((machine service).runState s before) event keyId) :
    IsInactive ((machine service).runState s events) keyId := by
  induction events generalizing s with
  | nil => exact h
  | cons event rest ih =>
      have hfirst : ¬ Reinstates service s event keyId :=
        hno [] event (List.cons_prefix_cons.mpr ⟨rfl, List.nil_prefix⟩)
      refine ih (inactive_step h hfirst) fun before next hprefix => ?_
      exact hno (event :: before) next (List.cons_prefix_cons.mpr ⟨rfl, hprefix⟩)

/-! ## Acceptable signatures -/

/-- The verifier over the registry accepts some artifact with the key under the id. -/
def SignsAcceptably (w : VerifierWiring) (s : SyncState) (keyId : String) : Prop :=
  ∃ registry key artifact, s.trustKeyRegistry = some registry ∧ registry.get? keyId = some key
    ∧ registry.values.find? (usableFor artifact) = some key
    ∧ Accepts w.host registry.values w.keyMaterial artifact

/-- With a key that is not active, the verifier accepts nothing. -/
theorem IsInactive.not_signsAcceptably (h : IsInactive s keyId) : ¬ SignsAcceptably w s keyId := by
  obtain ⟨registry, key, hregistry, hkey, hstatus⟩ := h
  rintro ⟨registry', key', artifact, hregistry', hkey', hfind, -⟩
  obtain rfl := Option.some.inj (hregistry.symm.trans hregistry')
  obtain rfl := Option.some.inj (hkey.symm.trans hkey')
  have husable : usableFor artifact key = true := List.find?_some hfind
  obtain ⟨input, -, husable⟩ := (Option.any_eq_true ..).mp husable
  obtain ⟨-, -, -, -, hactive⟩ := usableKey_iff.mp husable
  exact hstatus hactive

/-- At every point of the log after the key was revoked, nothing is accepted with it. -/
def StaysDead (w : VerifierWiring) (s : SyncState) (events : List NetworkEvent) : Prop :=
  ∀ keyId earlier later, earlier <+: later → later <+: events →
    IsRevoked (syncRecent w.service s earlier).1 keyId →
      ¬ SignsAcceptably w (syncRecent w.service s later).1 keyId

/-- No event of the log reinstates a key that was revoked before it. -/
def NeverReinstated (w : VerifierWiring) (s : SyncState) (events : List NetworkEvent) : Prop :=
  ∀ keyId earlier later event, earlier <+: later → later ++ [event] <+: events →
    IsRevoked (syncRecent w.service s earlier).1 keyId →
      ¬ Reinstates w.service (syncRecent w.service s later).1 event keyId

/-- **REVOKED KEYS**: over every wiring, prior state and log, a key that was revoked
    signs nothing acceptable while no accepted event names it active again. -/
theorem revoked_stays_dead (w : VerifierWiring) (s : SyncState) (events : List NetworkEvent)
    (h : NeverReinstated w s events) : StaysDead w s events := by
  rintro keyId earlier later ⟨between, rfl⟩ hlater hrevoked
  have hinactive : IsInactive (syncRecent w.service s (earlier ++ between)).1 keyId := by
    rw [syncRecent_state, Machine.runState_append]
    rw [syncRecent_state] at hrevoked
    refine inactive_run hrevoked.inactive fun before event hbefore => ?_
    have hno := h keyId earlier (earlier ++ before) event (List.prefix_append ..)
      (by
        rw [List.append_assoc]
        exact ((List.prefix_append_right_inj earlier).mpr hbefore).trans hlater)
      (by rw [syncRecent_state]; exact hrevoked)
    rw [syncRecent_state, Machine.runState_append] at hno
    exact hno
  exact hinactive.not_signsAcceptably

/-! ## A log that is read again -/

/-- The registry with the key of an authority and a key of the root. -/
def rootedRegistry : TrustKeyRegistry :=
  makeInMemoryTrustKeyRegistry [KeyRotation.authorityKey "v1", KeyStatusConfinement.rootKey]

/-- A status event for the key of the authority, signed by the root. -/
def statusBody (status : String) : JsonValue :=
  .obj
    [ ("artifact_type", .str "revocation_status_event"), ("root_program_id", .str "root:demo"),
      ("delegated_authority_id", .str "authority:demo"),
      ("target", .obj
        [("target_type", .str "trust_key"), ("key_id", .str "key:authority:v1")]),
      ("status", .str status), ("accepted_algorithm_ids", .arr [.str "ed25519"]),
      ("signed_by", .str "root:demo"), ("signature_status", .str trustSignatureStatus),
      ("signature_algorithm_id", .str "ed25519"), ("signature_input", .str trustSignatureInput),
      ("signature", .str "pem:v2") ]

/-- The digests of the status events. -/
def statusHash (body : JsonValue) : String :=
  if body.stringField "status" = some "active" then
    "82c5a80a92cc3d919cdb652d817b6ef6a6a10b7c33a969fd5211dacb70b9afd7"
  else if body.stringField "status" = some "revoked" then
    "25a2af3867a85533065df7e326d594cacaeb9a2902068bc6b5dcef1f3f5a14bc"
  else "db42578769fef5b6356712d823a4c2a5ac85c04dc31eae122d821dcd6ec79bfc"

/-- The artifact of a status event. -/
def statusArtifact (status : String) : SignedArtifact :=
  ⟨"sha256:" ++ statusHash (statusBody status), statusBody status⟩

/-- A service over three status events, whose verifier reads the registry. -/
def statusWiring : VerifierWiring where
  js :=
    { parseUrl := fun _ => none
      toLowerCase := fun text => text
      toISOString := fun _ => none
      hashJson := statusHash }
  store := .ofList
    [ ("artifact:active", statusArtifact "active"), ("artifact:revoked", statusArtifact "revoked"),
      ("artifact:suspended", statusArtifact "suspended") ]
  host := KeyRotation.namingHost
  keyMaterial := KeyRotation.inlineMaterial
  keysOf := fun registry => (registry.map (·.values)).getD []

/-- The event that brings a status. -/
def statusEvent (status occurredAt : String) : NetworkEvent where
  type := "trust_key.status.changed"
  occurredAt := occurredAt
  rootProgramId := "root:demo"
  delegatedAuthorityId := some "authority:demo"
  issuerId := none
  destinationPolicyId := none
  artifactId := "artifact:" ++ status
  artifactHash := "sha256:" ++ statusHash (statusBody status)

/-- The key is revoked, and suspended by an event that comes late. -/
def lateSuspension : List NetworkEvent :=
  [statusEvent "revoked" "2026-01-02T00:00:00Z", statusEvent "suspended" "2026-01-01T00:00:00Z"]

/-- A late suspension does not bring the key back. -/
theorem revoked_stays_dead_suspended :
    StaysDead statusWiring ⟨.empty, some rootedRegistry⟩ lateSuspension := by
  refine revoked_stays_dead _ _ _ ?_
  rintro keyId earlier later event - hlater - ⟨artifact, registry, input, key, haccepted, -, hmem, -,
    hactive, -⟩
  have hevent : event ∈ lateSuspension := hlater.subset (by simp)
  have hother : (revocationStatusArtifactBody artifact.body).bind (·.status.trustKeyStatus)
      ≠ some .active := by
    rcases List.mem_pair.mp hevent with rfl | rfl
    · obtain rfl := Option.some.inj (haccepted.fetched.stored.symm.trans
        (show statusWiring.store.get? "artifact:revoked" = some (statusArtifact "revoked") from
          rfl))
      decide +kernel
    · obtain rfl := Option.some.inj (haccepted.fetched.stored.symm.trans
        (show statusWiring.store.get? "artifact:suspended" = some (statusArtifact "suspended") from
          rfl))
      decide +kernel
  obtain ⟨registry', revocation, -, hrevocation, hupdate⟩ := mem_keyStatusUpdates_iff.mp hmem
  obtain ⟨_, status, _, -, -, hstatus, -, rfl⟩ := keyStatusUpdate_eq_some_iff.mp hupdate
  rw [hrevocation] at hother
  obtain rfl : status = .active := hactive
  exact hother hstatus

/-- An activation and the revocation after it. -/
def revokedLog : List NetworkEvent :=
  [statusEvent "active" "2026-01-01T00:00:00Z", statusEvent "revoked" "2026-01-02T00:00:00Z"]

/-- A registry is its entries. -/
theorem registry_of_entries {known : Option TrustKeyRegistry} {registry : TrustKeyRegistry}
    (h : known.map OrderedMap.entries = some registry.entries) : known = some registry := by
  obtain ⟨found, rfl, hentries⟩ := Option.map_eq_some_iff.mp h
  rw [OrderedMap.ext_entries hentries]

/-- What the key of the authority signs is accepted while it is active. -/
theorem signsAcceptably_of_registry {s : SyncState} (h : s.trustKeyRegistry = some rootedRegistry) :
    SignsAcceptably statusWiring s "key:authority:v1" := by
  have hfind : rootedRegistry.values.find? (usableFor (KeyRotation.artifactSignedBy "v1"))
      = some (KeyRotation.authorityKey "v1") := by
    decide +kernel
  exact ⟨rootedRegistry, KeyRotation.authorityKey "v1", KeyRotation.artifactSignedBy "v1", h,
    by decide +kernel, hfind, accepts_iff.mpr ⟨KeyRotation.artifactSignedBy_supported "v1", _, hfind,
      KeyRotation.artifactSignedBy_verifies "v1"⟩⟩

/-- **READ AGAIN**: the log ends with the key revoked; the same log read once more
    applies its first event again, and what the revoked key signs is accepted. -/
theorem replay_revives_revoked_key :
    IsRevoked (syncRecent statusWiring.service ⟨.empty, some rootedRegistry⟩ revokedLog).1
        "key:authority:v1"
      ∧ ¬ StaysDead statusWiring ⟨.empty, some rootedRegistry⟩ (revokedLog ++ revokedLog) := by
  have hrevoked : IsRevoked
      (syncRecent statusWiring.service ⟨.empty, some rootedRegistry⟩ revokedLog).1
      "key:authority:v1" :=
    ⟨(rootedRegistry.set "key:authority:v1"
        { KeyRotation.authorityKey "v1" with status := .revoked }),
      { KeyRotation.authorityKey "v1" with status := .revoked },
      registry_of_entries (by decide +kernel), by decide +kernel, rfl⟩
  refine ⟨hrevoked, fun hdead => ?_⟩
  have hregistry : (syncRecent statusWiring.service ⟨.empty, some rootedRegistry⟩
      (revokedLog ++ [statusEvent "active" "2026-01-01T00:00:00Z"])).1.trustKeyRegistry
      = some rootedRegistry := registry_of_entries (by decide +kernel)
  exact hdead "key:authority:v1" revokedLog _ (List.prefix_append ..)
    ((List.prefix_append_right_inj revokedLog).mpr (List.prefix_append _
      [statusEvent "revoked" "2026-01-02T00:00:00Z"])) hrevoked
    (signsAcceptably_of_registry hregistry)

end RevokedKeys
