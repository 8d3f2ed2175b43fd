import QrTrust.Network.KeyStatusProofs
import QrTrust.Network.SignerConfinementProofs

/-! # Whose keys a signer may change

    The update of a key status is limited to the authority of the revocation
    unless the signer's key is a key of the root.  The signer's key is looked up
    for that a second time, by the algorithm the revocation declares, while the
    verifier looked it up by the algorithms the revocation accepts.  So where an
    authority bears the name of its root, the verifier may meet the key of the
    authority and the update a key of the root: then, and only then, does a
    delegated key change the keys of others (`key_changes_governed_iff`). -/

namespace KeyStatusConfinement

open VerifierCache TrustKeys VerifierSync SyncAcceptance SignatureVerification SignatureAcceptance
  SignerConfinement KeyStatus Runs

variable {w : VerifierWiring} {s : SyncState} {event : NetworkEvent} {body : JsonValue}
  {artifact : SignedArtifact} {key : TrustKeyRecord} {authority : String}

/-- **GOVERNS**: a key governs the keys of its root, and a delegated key those of its
    authority only. -/
def Governs (signer key : TrustKeyRecord) : Prop :=
  key.rootProgramId = signer.rootProgramId
    ∧ (signer.scope = .rootProgram ∨ key.delegatedAuthorityId = signer.delegatedAuthorityId)

/-- The status of this key is another one afterwards. -/
def ChangesStatus (s s' : SyncState) (key : TrustKeyRecord) : Prop :=
  ∃ registry registry' keyId after, s.trustKeyRegistry = some registry
    ∧ s'.trustKeyRegistry = some registry' ∧ registry.get? keyId = some key
    ∧ registry'.get? keyId = some after ∧ after.status ≠ key.status

/-- **GOVERNED**: whatever key changes its status, the artifact of the event is accepted
    with a key that governs it. -/
def KeyChangesGoverned (w : VerifierWiring) (s : SyncState) (event : NetworkEvent) : Prop :=
  ∀ key, ChangesStatus s ((machine w.service).step s event) key →
    ∃ artifact signer, AcceptedWith w s event artifact signer ∧ Governs signer key

/-! ## What a change takes -/

/-- **ONE CHANGE**: a key changes its status when an accepted revocation of it names
    another status and the signer's key is found again. -/
theorem changesStatus_step :
    ChangesStatus s ((machine w.service).step s event) key ↔
      ∃ artifact registry input, Accepted w.service s event artifact
        ∧ s.trustKeyRegistry = some registry
        ∧ input ∈ keyStatusUpdates (some registry) artifact.body
        ∧ updatableKey registry input = some key ∧ input.status ≠ key.status := by
  constructor
  · rintro ⟨registry, registry', keyId, after, hregistry, hregistry', hbefore, hafter, hstatus⟩
    obtain ⟨_, hstep, hcases⟩ := registry_step_cases hregistry keyId
    obtain rfl := Option.some.inj (hregistry'.symm.trans hstep)
    rcases hcases with hsame | ⟨artifact, input, target, haccepted, hmem, rfl, hupdatable, hset⟩
    · rw [hsame, hbefore] at hafter
      exact absurd (congrArg _ (Option.some.inj hafter).symm) hstatus
    · obtain rfl := Option.some.inj (hbefore.symm.trans (updatableKey_eq_some.mp hupdatable).1)
      obtain rfl := Option.some.inj (hset.symm.trans hafter)
      exact ⟨artifact, registry, input, haccepted, hregistry, hmem, hupdatable, hstatus⟩
  · rintro ⟨artifact, registry, input, haccepted, hregistry, hmem, hupdatable, hstatus⟩
    refine ⟨registry, updateTrustKeyStatus registry input, input.keyId,
      { key with status := input.status }, hregistry,
      registry_step_of_mem haccepted hregistry hmem, (updatableKey_eq_some.mp hupdatable).1,
      ?_, hstatus⟩
    rw [get?_updateTrustKeyStatus, hupdatable]
    exact if_pos rfl

/-! ## Two lookups of one signer -/

/-- A usable key of an authority acts for it. -/
theorem actsFor_of_usable (husable : usableFor body key = true)
    (hscope : key.scope = .delegatedAuthority) : ∃ authority, ActsFor key authority := by
  obtain ⟨input, -, hkey⟩ := (Option.any_eq_true ..).mp husable
  obtain ⟨-, -, hmatches, -, -⟩ := usableKey_iff.mp hkey
  rw [keyMatchesScope, hscope] at hmatches
  dsimp only at hmatches
  cases hauthority : input.delegatedAuthorityId with
  | none =>
      rw [hauthority] at hmatches
      cases hmatches
  | some authority =>
      rw [hauthority] at hmatches
      dsimp only at hmatches
      exact ⟨authority, hscope, of_decide_eq_true (Bool.and_eq_true_iff.mp hmatches).1⟩

/-- A usable key belongs to the root the body names. -/
theorem root_of_usable (husable : usableFor body key = true) :
    body.stringField "root_program_id" = some key.rootProgramId := by
  obtain ⟨input, hinput, hkey⟩ := (Option.any_eq_true ..).mp husable
  obtain ⟨accepted, -, hlookup⟩ := Option.bind_eq_some_iff.mp hinput
  obtain ⟨signedBy, -, hlookup⟩ := Option.bind_eq_some_iff.mp hlookup
  obtain ⟨rootProgramId, hroot, hlookup⟩ := Option.bind_eq_some_iff.mp hlookup
  obtain rfl := Option.some.inj hlookup
  obtain ⟨-, hkeyRoot, -⟩ := usableKey_iff.mp hkey
  exact hroot.trans (congrArg some hkeyRoot.symm)

/-- **STRAYS**: the artifact of the event is a revocation of a trust key, accepted with a
    delegated key; by the algorithm it declares its signer has a key of the root; and the
    target is a key of the root program that is not the authority's and not yet in the
    status the revocation names. -/
def Strays (w : VerifierWiring) (s : SyncState) (event : NetworkEvent) : Prop :=
  ∃ artifact signer registry revocation keyId status rootKey target,
    AcceptedWith w s event artifact signer ∧ signer.scope = .delegatedAuthority
      ∧ s.trustKeyRegistry = some registry
      ∧ revocationStatusArtifactBody artifact.body = some revocation
      ∧ revocation.targetType = .trustKey ∧ revocation.targetKeyId = some keyId
      ∧ revocation.status.trustKeyStatus = some status
      ∧ lookupSignerKey registry (signerLookup revocation) = { key := some rootKey }
      ∧ rootKey.scope = .rootProgram
      ∧ registry.get? keyId = some target ∧ target.rootProgramId = revocation.rootProgramId
      ∧ target.delegatedAuthorityId ≠ signer.delegatedAuthorityId ∧ target.status ≠ status

/-- The artifact of an event and the key that decides are one. -/
theorem acceptedWith_unique {artifact' : SignedArtifact} {key' : TrustKeyRecord}
    (h : AcceptedWith w s event artifact key) (h' : AcceptedWith w s event artifact' key') :
    artifact = artifact' ∧ key = key' := by
  obtain rfl := Option.some.inj (h.accepted.fetched.stored.symm.trans h'.accepted.fetched.stored)
  exact ⟨rfl, Option.some.inj (h.decides.symm.trans h'.decides)⟩

/-- The scope of an update made by some signer. -/
theorem within_updateBy_iff {signer target : TrustKeyRecord}
    {revocation : RevocationStatusArtifactBody} {keyId : String} {status : TrustKeyStatus} :
    trustKeyIsWithinUpdateScope target (updateBy signer revocation keyId status) = true ↔
      target.rootProgramId = revocation.rootProgramId
        ∧ (signer.scope = .rootProgram
          ∨ target.delegatedAuthorityId = some revocation.delegatedAuthorityId) := by
  rw [trustKeyIsWithinUpdateScope, Bool.and_eq_true, decide_eq_true_eq]
  refine and_congr Iff.rfl ?_
  by_cases hscope : signer.scope = .rootProgram
  · simp [updateBy, hscope]
  · simp [updateBy, hscope]

/-- **ONE EVENT**: its key changes are governed exactly when it does not stray. -/
theorem keyChangesGoverned_iff :
    KeyChangesGoverned w s event ↔ ¬ Strays w s event := by
  constructor
  · rintro hgoverned ⟨artifact, signer, registry, revocation, keyId, status, rootKey, target,
      haccepted, hdelegated, hregistry, hrevocation, htype, hkeyId, hstatus, hlookup, hrootKey,
      htarget, hroot, hauthority, hother⟩
    have hupdate : updateBy rootKey revocation keyId status
        ∈ keyStatusUpdates (some registry) artifact.body :=
      mem_keyStatusUpdates_iff.mpr ⟨registry, revocation, rfl, hrevocation,
        keyStatusUpdate_eq_some_iff.mpr
          ⟨keyId, status, rootKey, htype, hkeyId, hstatus, hlookup, rfl⟩⟩
    have hupdatable : updatableKey registry (updateBy rootKey revocation keyId status)
        = some target :=
      updatableKey_eq_some.mpr ⟨htarget, within_updateBy_iff.mpr ⟨hroot, .inl hrootKey⟩⟩
    obtain ⟨artifact', signer', haccepted', -, hscope⟩ := hgoverned target
      (changesStatus_step.mpr ⟨artifact, registry, _, haccepted.accepted, hregistry, hupdate,
        hupdatable, fun h => hother h.symm⟩)
    obtain ⟨-, rfl⟩ := acceptedWith_unique haccepted haccepted'
    rcases hscope with hscope | hscope
    · rw [hdelegated] at hscope
      cases hscope
    · exact hauthority hscope
  · intro hstrays target hchanges
    obtain ⟨artifact, registry, input, haccepted, hregistry, hmem, hupdatable, hstatus⟩ :=
      changesStatus_step.mp hchanges
    obtain ⟨signer, hdecides, -⟩ := exists_acceptedWith haccepted
    obtain ⟨_, revocation, hknown, hrevocation, hupdate⟩ := mem_keyStatusUpdates_iff.mp hmem
    obtain rfl := Option.some.inj hknown
    obtain ⟨keyId, status, found, htype, hkeyId, hnamed, hlookup, rfl⟩ :=
      keyStatusUpdate_eq_some_iff.mp hupdate
    obtain ⟨htarget, hwithin⟩ := updatableKey_eq_some.mp hupdatable
    obtain ⟨hroot, hfound⟩ := within_updateBy_iff.mp hwithin
    have husable := List.find?_some hdecides.decides
    have hnames := revocation_names hrevocation
    have hsignerRoot : revocation.rootProgramId = signer.rootProgramId :=
      Option.some.inj (hnames.root.symm.trans (root_of_usable husable))
    refine ⟨artifact, signer, hdecides, hroot.trans hsignerRoot, ?_⟩
    by_cases hdelegated : signer.scope = .delegatedAuthority
    case neg =>
      cases hscope : signer.scope with
      | rootProgram => exact .inl rfl
      | delegatedAuthority => exact absurd hscope hdelegated
    refine .inr ?_
    obtain ⟨authority, hacts⟩ := actsFor_of_usable husable hdelegated
    have hauthority : revocation.delegatedAuthorityId = authority :=
      (hnames.unique (names_of_usable husable hacts)).2
    rcases hfound with hfound | hfound
    · by_contra hother
      exact hstrays ⟨artifact, signer, registry, revocation, keyId, status, found, target, hdecides,
        hdelegated, hregistry, hrevocation, htype, hkeyId, hnamed, hlookup, hfound, htarget, hroot,
        hother, fun h => hstatus h.symm⟩
    · rw [hfound, hacts.2, hauthority]

/-- **KEY STATUSES**: over every wiring, prior state and log, each key that changes its
    status is governed by the key that signed for the change, exactly when no event of the
    log strays. -/
theorem key_changes_governed_iff (w : VerifierWiring) (s : SyncState) (events : List NetworkEvent) :
    (∀ entry ∈ (machine w.service).trace s events, KeyChangesGoverned w entry.2.1 entry.1) ↔
      ∀ entry ∈ (machine w.service).trace s events, ¬ Strays w entry.2.1 entry.1 :=
  forall₂_congr fun _ _ => keyChangesGoverned_iff

/-! ## An authority of the same name as its root -/

/-- A key of the authority `root:demo` under the root `root:demo`. -/
def namesakeKey : TrustKeyRecord :=
  { KeyRotation.authorityKey "v1" with
    keyId := "key:namesake"
    signerId := "root:demo"
    algorithmId := "ecdsa-p256"
    delegatedAuthorityId := some "root:demo" }

/-- A key of the root itself. -/
def rootKey : TrustKeyRecord :=
  { KeyRotation.authorityKey "v2" with
    keyId := "key:root"
    signerId := "root:demo"
    scope := .rootProgram
    delegatedAuthorityId := none }

/-- The registry with both keys and the key of another authority. -/
def namesakeRegistry : TrustKeyRegistry :=
  makeInMemoryTrustKeyRegistry [namesakeKey, rootKey, KeyRotation.authorityKey "v3"]

/-- A revocation of the other authority's key, signed with the key of the authority. -/
def namesakeRevocation : JsonValue :=
  .obj
    [ ("artifact_type", .str "revocation_status_event"), ("root_program_id", .str "root:demo"),
      ("delegated_authority_id", .str "root:demo"),
      ("target", .obj
        [("target_type", .str "trust_key"), ("key_id", .str "key:authority:v3")]),
      ("status", .str "revoked"), ("accepted_algorithm_ids", .arr [.str "ecdsa-p256"]),
      ("signed_by", .str "root:demo"), ("signature_status", .str trustSignatureStatus),
      ("signature_algorithm_id", .str "ed25519"), ("signature_input", .str trustSignatureInput),
      ("signature", .str "pem:v1") ]

/-- The digest of that body. -/
def namesakeRevocationHash : String :=
  "f1b86d1fbf25cec7f4f311f444450f40979abe20abaa975d266e7fdd61adf3bb"

/-- A service whose verifier reads the registry that the service updates. -/
def namesakeWiring : VerifierWiring where
  js :=
    { parseUrl := fun _ => none
      toLowerCase := fun text => text
      toISOString := fun _ => none
      hashJson := fun _ => namesakeRevocationHash }
  store := .ofList
    [("artifact:revocation", ⟨"sha256:" ++ namesakeRevocationHash, namesakeRevocation⟩)]
  host := KeyRotation.namingHost
  keyMaterial := KeyRotation.inlineMaterial
  keysOf := fun registry => (registry.map (·.values)).getD []

/-- The event that brings the revocation. -/
def namesakeEvent : NetworkEvent where
  type := "trust_key.status.changed"
  occurredAt := "2026-01-01T00:00:00Z"
  rootProgramId := "root:demo"
  delegatedAuthorityId := some "root:demo"
  issuerId := none
  destinationPolicyId := none
  artifactId := "artifact:revocation"
  artifactHash := "sha256:" ++ namesakeRevocationHash

/-- What the guard reads from the revocation. -/
def readNamesakeRevocation : RevocationStatusArtifactBody where
  rootProgramId := "root:demo"
  delegatedAuthorityId := "root:demo"
  targetType := .trustKey
  targetIssuerId := none
  targetDestinationPolicyId := none
  targetKeyId := some "key:authority:v3"
  status := .revoked
  signedBy := "root:demo"
  signatureAlgorithmId := "ed25519"

/-- What the service checks of the revocation, its signature aside, whom it reads as the
    signer, and the key it leaves. -/
theorem namesakeRevocation_evaluated :
    namesakeRegistry.values.find? (usableFor namesakeRevocation) = some namesakeKey
      ∧ hashesMatch namesakeWiring.service
          ⟨"sha256:" ++ namesakeRevocationHash, namesakeRevocation⟩ namesakeEvent = true
      ∧ isRecognizedTrustArtifact namesakeRevocation = true
      ∧ trustArtifactScopeMatchesBody namesakeRevocation = true
      ∧ lookupSignerKey namesakeRegistry (signerLookup readNamesakeRevocation)
          = { key := some rootKey }
      ∧ namesakeRegistry.get? "key:authority:v3" = some (KeyRotation.authorityKey "v3")
      ∧ ((syncRecent namesakeWiring.service ⟨.empty, some namesakeRegistry⟩
            [namesakeEvent]).1.trustKeyRegistry.bind
          (·.get? "key:authority:v3")).map (fun key => (key.delegatedAuthorityId, key.status))
        = some (some "authority:demo", .revoked) := by
  decide +kernel

theorem namesakeRevocation_accepted :
    AcceptedWith namesakeWiring ⟨.empty, some namesakeRegistry⟩ namesakeEvent
      ⟨"sha256:" ++ namesakeRevocationHash, namesakeRevocation⟩ namesakeKey := by
  obtain ⟨hkey, hhashed, hrecognized, hscope, -⟩ := namesakeRevocation_evaluated
  have haccepts : Accepts KeyRotation.namingHost namesakeRegistry.values KeyRotation.inlineMaterial
      namesakeRevocation :=
    accepts_iff.mpr ⟨⟨rfl, rfl⟩, namesakeKey, hkey, .str "pem:v1", "pem:v1", rfl, rfl, rfl⟩
  exact ⟨⟨⟨by decide, rfl, hhashed⟩, hrecognized, verified_iff.mpr haccepts, hscope⟩, hkey⟩

/-- **A NAMESAKE OF THE ROOT**: the key of one authority revokes the key of another. -/
theorem namesake_revokes_other_authority :
    ¬ (∀ entry ∈ (machine namesakeWiring.service).trace ⟨.empty, some namesakeRegistry⟩
        [namesakeEvent], KeyChangesGoverned namesakeWiring entry.2.1 entry.1)
      ∧ namesakeKey.scope = .delegatedAuthority
      ∧ ((syncRecent namesakeWiring.service ⟨.empty, some namesakeRegistry⟩
            [namesakeEvent]).1.trustKeyRegistry.bind
          (·.get? "key:authority:v3")).map (fun key => (key.delegatedAuthorityId, key.status))
        = some (some "authority:demo", .revoked) := by
  obtain ⟨-, -, -, -, hsigner, hkey, hrevoked⟩ := namesakeRevocation_evaluated
  refine ⟨fun hgoverned => ?_, rfl, hrevoked⟩
  have hevent := hgoverned _ (List.mem_cons_self ..)
  exact keyChangesGoverned_iff.mp hevent
    ⟨_, namesakeKey, namesakeRegistry, readNamesakeRevocation, "key:authority:v3", .revoked,
      rootKey, KeyRotation.authorityKey "v3", namesakeRevocation_accepted, rfl, rfl, rfl, rfl, rfl,
      rfl, hsigner, rfl, hkey, rfl, by decide, by decide⟩

end KeyStatusConfinement
