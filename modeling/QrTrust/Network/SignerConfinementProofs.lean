import QrTrust.Network.KeyRotationProofs
import QrTrust.Network.LatestRecordProofs
import QrTrust.Network.PolicyDecodingProofs
import QrTrust.Network.SyncAcceptanceProofs

/-! # Where a delegated signer may write

    The verifier checks an artifact under the root and the authority its body
    names, and the service writes under what the body of each type names.  For
    five of the six types these are the same, so an artifact signed with the
    key of a delegated authority writes under that authority alone.  A root
    manifest has no authority of its own: one that names an authority all the
    same is checked with the authority's key, and replaces the context of the
    root. -/

namespace SignerConfinement

open VerifierCache PolicyDecoding TrustKeys VerifierSync SyncGate SyncAcceptance
  SignatureVerification SignatureAcceptance PolicyDecodingProofs Fallible Runs
open LatestRecord (issuerProjection_eq_some)
open KeyRotation (authorityKey namingHost inlineMaterial)

/-- The collaborators of a sync service whose verifier is the cryptographic one,
    over the keys that `keysOf` reads: the service's own registry, or another. -/
structure VerifierWiring where
  js : JsRuntime
  store : ArtifactStore
  host : SignatureHost
  keyMaterial : KeyMaterialProvider
  keysOf : Option TrustKeyRegistry → List TrustKeyRecord

/-- The sync service of a wiring. -/
def VerifierWiring.service (w : VerifierWiring) : SyncService where
  js := w.js
  store := w.store
  verifyTrustArtifact :=
    asCollaborator w.host (fun registry => selectTrustKeyForLookup (w.keysOf registry))
      w.keyMaterial

variable {w : VerifierWiring} {s : SyncState} {event : NetworkEvent} {body : JsonValue}
  {artifact : SignedArtifact} {key : TrustKeyRecord} {authority : String}

/-- The service accepts what the verifier accepts over the keys it reads. -/
theorem verified_iff {registry : Option TrustKeyRegistry} :
    (w.service.verifyTrustArtifact registry body).accepted = true ↔
      Accepts w.host (w.keysOf registry) w.keyMaterial body := by
  show (asCollaborator w.host _ w.keyMaterial registry body).accepted = true ↔ _
  rw [asCollaborator, Accepts]
  cases verifyTrustArtifact w.host (selectTrustKeyForLookup (w.keysOf registry)) w.keyMaterial
      body with
  | error cause => exact iff_of_false Bool.false_ne_true (by simp)
  | ok result =>
      obtain ⟨accepted, reason⟩ := result
      cases accepted with
      | false => exact iff_of_false Bool.false_ne_true (by simp)
      | true => exact iff_of_true rfl ⟨reason, rfl⟩

/-- **ACCEPTED WITH**: the event's artifact is accepted, and this is the key
    that decided. -/
structure AcceptedWith (w : VerifierWiring) (s : SyncState) (event : NetworkEvent)
    (artifact : SignedArtifact) (key : TrustKeyRecord) : Prop where
  accepted : Accepted w.service s event artifact
  decides : (w.keysOf s.trustKeyRegistry).find? (usableFor artifact.body) = some key

/-- Every accepted artifact is accepted with some key. -/
theorem exists_acceptedWith (h : Accepted w.service s event artifact) :
    ∃ key, AcceptedWith w s event artifact key
      ∧ Verifies w.host w.keyMaterial artifact.body key := by
  obtain ⟨-, key, hfind, hverifies⟩ := accepts_iff.mp (verified_iff.mp h.verified)
  exact ⟨key, ⟨h, hfind⟩, hverifies⟩

/-- The authority a delegated key acts for. -/
def ActsFor (key : TrustKeyRecord) (authority : String) : Prop :=
  key.scope = .delegatedAuthority ∧ key.delegatedAuthorityId = some authority

/-- **CONFINED**: the write concerns this authority under this root only. -/
def Confined (rootProgramId delegatedAuthorityId : String) : CacheCall → Prop
  | .upsertIssuer projection =>
      delegatedAuthorityEquals projection.ns ⟨rootProgramId, delegatedAuthorityId⟩ = true
  | .upsertDestinationPolicy projection =>
      delegatedAuthorityEquals projection.ns ⟨rootProgramId, delegatedAuthorityId⟩ = true
  | .upsertRootAuthorityContext _ => False
  | .upsertDelegatedAuthorityIssuerContext context =>
      context.rootProgramId = rootProgramId
        ∧ context.delegatedAuthorityId = delegatedAuthorityId
  | .updateIssuerAssuranceTier update =>
      delegatedAuthorityEquals update.ns ⟨rootProgramId, delegatedAuthorityId⟩ = true
  | .removeIssuer ns =>
      delegatedAuthorityEquals ns ⟨rootProgramId, delegatedAuthorityId⟩ = true
  | .removeDestinationPolicy key =>
      delegatedAuthorityEquals key.ns ⟨rootProgramId, delegatedAuthorityId⟩ = true
  | .removeDestinationPoliciesForIssuer ns =>
      delegatedAuthorityEquals ns ⟨rootProgramId, delegatedAuthorityId⟩ = true
  | .removeDelegatedAuthority key =>
      key = ⟨rootProgramId, delegatedAuthorityId⟩

/-! ## The scope a signature is checked under -/

/-- The root and the authority a body names. -/
structure Names (body : JsonValue) (rootProgramId delegatedAuthorityId : String) : Prop where
  root : body.stringField "root_program_id" = some rootProgramId
  authority : body.stringField "delegated_authority_id" = some delegatedAuthorityId

/-- **CHECKED SCOPE**: a delegated key is usable only for a body that names its
    root and its authority. -/
theorem names_of_usable (husable : usableFor body key = true) (hkey : ActsFor key authority) :
    Names body key.rootProgramId authority := by
  obtain ⟨hscope, hauthority⟩ := hkey
  obtain ⟨input, hinput, hkeyInput⟩ := (Option.any_eq_true ..).mp husable
  obtain ⟨accepted, -, hlookup⟩ := Option.bind_eq_some_iff.mp hinput
  obtain ⟨signedBy, -, hlookup⟩ := Option.bind_eq_some_iff.mp hlookup
  obtain ⟨rootProgramId, hroot, hlookup⟩ := Option.bind_eq_some_iff.mp hlookup
  obtain rfl := Option.some.inj hlookup
  obtain ⟨-, hkeyRoot, hmatches, -, -⟩ := usableKey_iff.mp hkeyInput
  rw [keyMatchesScope, hscope] at hmatches
  dsimp only at hkeyRoot hmatches
  refine ⟨hroot.trans (congrArg some hkeyRoot.symm), ?_⟩
  -- an empty authority of the body counts as none, so the body's own is the key's
  cases htruthy : JsString.truthy (body.stringField "delegated_authority_id") with
  | none =>
      rw [htruthy] at hmatches
      cases hmatches
  | some named =>
      rw [htruthy, hauthority] at hmatches
      obtain rfl : authority = named := by simpa using (Bool.and_eq_true_iff.mp hmatches).1
      exact (Option.filter_eq_some_iff.mp htruthy).1

/-! ## The scope a body writes under -/

theorem authorityManifest_names {manifest : DelegatedAuthorityManifestArtifactBody}
    (h : delegatedAuthorityManifestArtifactBody body = some manifest) :
    Names body manifest.rootProgramId manifest.delegatedAuthorityId := by
  obtain ⟨_, -, h⟩ := Option.bind_eq_some_iff.mp h
  obtain ⟨_, -, h⟩ := Option.bind_eq_some_iff.mp h
  obtain ⟨_, hroot, h⟩ := Option.bind_eq_some_iff.mp h
  obtain ⟨_, hauthority, h⟩ := Option.bind_eq_some_iff.mp h
  obtain ⟨_, -, h⟩ := Option.bind_eq_some_iff.mp h
  obtain ⟨_, -, h⟩ := Option.bind_eq_some_iff.mp h
  obtain ⟨_, -, h⟩ := Option.bind_eq_some_iff.mp h
  obtain ⟨_, -, h⟩ := Option.bind_eq_some_iff.mp h
  obtain ⟨_, -, h⟩ := Option.bind_eq_some_iff.mp h
  obtain ⟨_, -, h⟩ := Option.bind_eq_some_iff.mp h
  obtain ⟨_, -, h⟩ := Option.bind_eq_some_iff.mp h
  obtain ⟨_, -, h⟩ := Option.bind_eq_some_iff.mp h
  obtain ⟨_, -, h⟩ := Option.bind_eq_some_iff.mp h
  obtain ⟨_, -, h⟩ := Option.bind_eq_some_iff.mp h
  obtain ⟨_, -, h⟩ := Option.bind_eq_some_iff.mp h
  obtain rfl := Option.some.inj h
  exact ⟨hroot, hauthority⟩

theorem revocation_names {revocation : RevocationStatusArtifactBody}
    (h : revocationStatusArtifactBody body = some revocation) :
    Names body revocation.rootProgramId revocation.delegatedAuthorityId := by
  -- the ids are read after the target and the type, and nothing later changes them
  obtain ⟨_, -, h⟩ := Option.bind_eq_some_iff.mp h
  obtain ⟨_, -, h⟩ := Option.bind_eq_some_iff.mp h
  obtain ⟨_, hroot, h⟩ := Option.bind_eq_some_iff.mp h
  obtain ⟨_, hauthority, h⟩ := Option.bind_eq_some_iff.mp h
  obtain ⟨_, -, h⟩ := Option.bind_eq_some_iff.mp h
  obtain ⟨_, -, h⟩ := Option.bind_eq_some_iff.mp h
  obtain ⟨_, -, h⟩ := Option.bind_eq_some_iff.mp h
  obtain ⟨_, -, h⟩ := Option.bind_eq_some_iff.mp h
  obtain ⟨_, -, h⟩ := Option.bind_eq_some_iff.mp h
  obtain ⟨_, -, h⟩ := Option.bind_eq_some_iff.mp h
  obtain ⟨_, -, h⟩ := Option.bind_eq_some_iff.mp h
  obtain ⟨_, -, h⟩ := Option.bind_eq_some_iff.mp h
  obtain ⟨_, -, h⟩ := Option.bind_eq_some_iff.mp h
  obtain ⟨_, -, h⟩ := Option.bind_eq_some_iff.mp h
  obtain ⟨_, -, h⟩ := Option.bind_eq_some_iff.mp h
  obtain rfl := Option.some.inj h
  exact ⟨hroot, hauthority⟩

theorem assurance_names {assurance : AssuranceStatusArtifactBody}
    (h : assuranceStatusArtifactBody body = some assurance) :
    Names body assurance.rootProgramId assurance.delegatedAuthorityId := by
  obtain ⟨_, -, h⟩ := Option.bind_eq_some_iff.mp h
  obtain ⟨_, -, h⟩ := Option.bind_eq_some_iff.mp h
  obtain ⟨_, hroot, h⟩ := Option.bind_eq_some_iff.mp h
  obtain ⟨_, hauthority, h⟩ := Option.bind_eq_some_iff.mp h
  obtain ⟨_, -, h⟩ := Option.bind_eq_some_iff.mp h
  obtain ⟨_, -, h⟩ := Option.bind_eq_some_iff.mp h
  obtain ⟨_, -, h⟩ := Option.bind_eq_some_iff.mp h
  obtain ⟨_, -, h⟩ := Option.bind_eq_some_iff.mp h
  obtain ⟨_, -, h⟩ := Option.bind_eq_some_iff.mp h
  obtain ⟨_, -, h⟩ := Option.bind_eq_some_iff.mp h
  obtain ⟨_, -, h⟩ := Option.bind_eq_some_iff.mp h
  obtain ⟨_, -, h⟩ := Option.bind_eq_some_iff.mp h
  obtain ⟨_, -, h⟩ := Option.bind_eq_some_iff.mp h
  obtain rfl := Option.some.inj h
  exact ⟨hroot, hauthority⟩

theorem Names.unique {root root' other : String} (h : Names body root authority)
    (h' : Names body root' other) : root = root' ∧ authority = other :=
  ⟨Option.some.inj (h.root.symm.trans h'.root),
    Option.some.inj (h.authority.symm.trans h'.authority)⟩

/-- The namespace an issuer record writes under is the one its body names. -/
theorem issuerRecord_names {record : IssuerRecordArtifactBody}
    (h : issuerRecordArtifactBody body = some record)
    (hscope : trustArtifactScopeMatchesBody body = true) :
    Names body record.issuerNamespace.rootProgramId
      record.issuerNamespace.delegatedAuthorityId := by
  have htype := issuerRecord_type h
  rw [trustArtifactScopeMatchesBody, rootManifest_none htype (by decide),
    authorityManifest_none htype (by decide), h] at hscope
  dsimp only at hscope
  obtain ⟨hids, -⟩ := Bool.and_eq_true_iff.mp hscope
  obtain ⟨hroot, hauthority⟩ := Bool.and_eq_true_iff.mp hids
  exact ⟨of_decide_eq_true hroot, of_decide_eq_true hauthority⟩

/-- A scope field of the body is not filled from the envelope. -/
theorem scopeValue_of_named {fallback : Option String} {field named s : String}
    (hnamed : body.stringField field = some named) (h : scopeValue body fallback field = .ok s) :
    named = s := by
  cases hnull : body.nonNull field with
  | none =>
      rw [stringField_of_nonNull_none hnull] at hnamed
      cases hnamed
  | some w =>
      rw [scopeValue, hnull] at h
      have hw : some w = some (.str s) := (stringValue_ok h).1
      rw [stringField_eq_some ((nonNull_eq_some hnull).trans hw)] at hnamed
      exact (Option.some.inj hnamed).symm

/-- The namespace a policy writes under is the one its body names. -/
theorem policy_names {js : JsRuntime} {policy : DestinationPolicyProjection} {root : String}
    (h : projectedPolicy js body event = some policy) (hnames : Names body root authority) :
    policy.ns.rootProgramId = root ∧ policy.ns.delegatedAuthorityId = authority := by
  obtain ⟨-, h⟩ := projectedPolicy_eq_some h
  obtain ⟨body', hbody, h⟩ := bind_eq_ok_iff.mp h
  obtain rfl : body = body' := Option.some.inj (objectValue_ok hbody)
  obtain ⟨_, -, h⟩ := bind_eq_ok_iff.mp h
  obtain ⟨_, -, h⟩ := bind_eq_ok_iff.mp h
  obtain ⟨_, -, h⟩ := bind_eq_ok_iff.mp h
  obtain ⟨_, hroot, h⟩ := bind_eq_ok_iff.mp h
  obtain ⟨_, hauthority, h⟩ := bind_eq_ok_iff.mp h
  obtain ⟨_, -, h⟩ := bind_eq_ok_iff.mp h
  obtain ⟨_, -, h⟩ := bind_eq_ok_iff.mp h
  obtain ⟨_, -, h⟩ := bind_eq_ok_iff.mp h
  obtain ⟨_, -, h⟩ := bind_eq_ok_iff.mp h
  obtain ⟨_, -, h⟩ := bind_eq_ok_iff.mp h
  obtain rfl := Except.ok.inj h
  exact ⟨(scopeValue_of_named hnames.root hroot).symm,
    (scopeValue_of_named hnames.authority hauthority).symm⟩

/-! ## The writes of each type -/

theorem delegatedAuthorityEquals_iff {ns : IssuerNamespace} {root : String} :
    delegatedAuthorityEquals ns ⟨root, authority⟩ = true ↔
      ns.rootProgramId = root ∧ ns.delegatedAuthorityId = authority := by
  rw [delegatedAuthorityEquals, Bool.and_eq_true, decide_eq_true_eq, decide_eq_true_eq]

theorem revocationCalls_confined {revocation : RevocationStatusArtifactBody} {call : CacheCall}
    (h : call ∈ revocationCalls revocation) :
    Confined revocation.rootProgramId revocation.delegatedAuthorityId call := by
  have hself : ∀ issuerId, delegatedAuthorityEquals
      ⟨revocation.rootProgramId, revocation.delegatedAuthorityId, issuerId⟩
      ⟨revocation.rootProgramId, revocation.delegatedAuthorityId⟩ = true :=
    fun issuerId => delegatedAuthorityEquals_iff.mpr ⟨rfl, rfl⟩
  rw [revocationCalls] at h
  -- three targets remove an issuer and its policies; the others remove one thing or nothing
  split at h <;> simp only [List.mem_cons, List.not_mem_nil, or_false] at h
  · rcases h with rfl | rfl <;> exact hself _
  · rcases h with rfl | rfl <;> exact hself _
  · rcases h with rfl | rfl <;> exact hself _
  · rw [h]
    rfl
  · rw [h]
    exact hself _

/-- **EVERY TYPE BUT ONE**: what an accepted body writes is confined to the root
    and the authority it names, unless it is a root manifest. -/
theorem projectionCalls_confined {service : SyncService} {root : String} {call : CacheCall}
    (hrecognized : isRecognizedTrustArtifact body = true)
    (hscope : trustArtifactScopeMatchesBody body = true) (hnames : Names body root authority)
    (hroot : rootManifestArtifactBody body = none)
    (hcall : call ∈ projectionCalls service body event) : Confined root authority call := by
  simp only [isRecognizedTrustArtifact, Bool.or_eq_true, Option.isSome_iff_exists] at hrecognized
  rcases hrecognized with ((((⟨_, h⟩ | ⟨manifest, h⟩) | ⟨record, h⟩) | h) | ⟨revocation, h⟩) | ⟨assurance, h⟩
  · rw [h] at hroot
    cases hroot
  · rw [projectionCalls_authorityManifest h] at hcall
    obtain ⟨context, hcontext, rfl⟩ := List.mem_map.mp hcall
    rw [delegatedAuthorityIssuerContextFromArtifact, h] at hcontext
    obtain rfl := Option.some.inj (Option.mem_toList.mp hcontext)
    exact (authorityManifest_names h).unique hnames
  · rw [projectionCalls_issuerRecord h] at hcall
    obtain ⟨projection, hprojection, rfl⟩ := List.mem_map.mp hcall
    obtain ⟨record', _, hrecord, -, -, -, hns, -⟩ :=
      issuerProjection_eq_some (Option.mem_toList.mp hprojection)
    obtain rfl := Option.some.inj (h.symm.trans hrecord)
    refine delegatedAuthorityEquals_iff.mpr ?_
    rw [hns]
    exact (issuerRecord_names h hscope).unique hnames
  · have htype : hasArtifactType body "destination_policy" = true := by
      simp only [isDestinationPolicyArtifactBody, Bool.and_eq_true] at h
      exact h.1.1.1.1.1.1.1
    rw [projectionCalls_policy htype] at hcall
    obtain ⟨policy, hpolicy, rfl⟩ := List.mem_map.mp hcall
    exact delegatedAuthorityEquals_iff.mpr (policy_names (Option.mem_toList.mp hpolicy) hnames)
  · rw [projectionCalls_revocation h] at hcall
    obtain ⟨hroot', hauthority⟩ := (revocation_names h).unique hnames
    rw [← hroot', ← hauthority]
    rw [applyStatusEventCalls] at hcall
    split at hcall
    · cases hcall
    · exact revocationCalls_confined hcall
  · rw [projectionCalls_assurance h] at hcall
    obtain rfl := List.mem_singleton.mp hcall
    exact delegatedAuthorityEquals_iff.mpr ((assurance_names h).unique hnames)

/-! ## Confinement -/

/-- **CONFINEMENT OF AN EVENT**: where the artifact of the event is accepted
    with a key that acts for an authority, every cache write of the event
    concerns that authority under the root of the key. -/
def ConfinedPlan (w : VerifierWiring) (s : SyncState) (event : NetworkEvent)
    (actions : List SyncAction) : Prop :=
  ∀ artifact key authority, AcceptedWith w s event artifact key → ActsFor key authority →
    ∀ call, SyncAction.cacheCall call ∈ actions → Confined key.rootProgramId authority call

/-- **A ROOT MANIFEST OF AN AUTHORITY**: the artifact of the event is a root
    manifest, and it is accepted with a key that acts for an authority. -/
def DelegatedRootManifest (w : VerifierWiring) (s : SyncState) (event : NetworkEvent) : Prop :=
  ∃ artifact key authority, AcceptedWith w s event artifact key ∧ ActsFor key authority
    ∧ (rootManifestArtifactBody artifact.body).isSome = true

/-- The writes of an accepted artifact are those its body leads to. -/
theorem AcceptedWith.planned_iff (h : AcceptedWith w s event artifact key) {call : CacheCall} :
    SyncAction.cacheCall call ∈ (machine w.service).plan s event ↔
      call ∈ projectionCalls w.service artifact.body event := by
  rw [plan_accepted h.accepted, List.mem_cons]
  constructor
  · rintro (heq | hmem)
    · cases heq
    · exact mem_projectionActions_cacheCall.mp hmem
  · intro hcall
    exact .inr (mem_projectionActions_cacheCall.mpr hcall)

/-- **ONE EVENT**: its writes are confined exactly when it brings no root
    manifest of an authority. -/
theorem confinedPlan_iff :
    ConfinedPlan w s event ((machine w.service).plan s event) ↔
      ¬ DelegatedRootManifest w s event := by
  constructor
  · rintro hconfined ⟨artifact, key, authority, haccepted, hkey, hmanifest⟩
    obtain ⟨manifest, hmanifest⟩ := Option.isSome_iff_exists.mp hmanifest
    have hcall : ∃ context, CacheCall.upsertRootAuthorityContext context
        ∈ projectionCalls w.service artifact.body event := by
      rw [projectionCalls_rootManifest hmanifest, rootAuthorityContextFromArtifact, hmanifest]
      exact ⟨_, List.mem_singleton_self _⟩
    obtain ⟨context, hcall⟩ := hcall
    exact hconfined artifact key authority haccepted hkey _ (haccepted.planned_iff.mpr hcall)
  · rintro hnone artifact key authority haccepted hkey call hcall
    have hnames := names_of_usable (List.find?_some haccepted.decides) hkey
    have hroot : rootManifestArtifactBody artifact.body = none := by
      refine Option.eq_none_iff_forall_ne_some.mpr fun manifest hmanifest => ?_
      exact hnone ⟨artifact, key, authority, haccepted, hkey, by rw [hmanifest]; rfl⟩
    exact projectionCalls_confined haccepted.accepted.recognized haccepted.accepted.scope hnames
      hroot (haccepted.planned_iff.mp hcall)

/-- **DELEGATED SIGNERS**: over every wiring, prior state and log, the writes
    made for artifacts accepted with delegated keys are confined exactly when
    no event brings a root manifest accepted with such a key. -/
theorem delegated_writes_confined_iff (w : VerifierWiring) (s : SyncState)
    (events : List NetworkEvent) :
    (∀ entry ∈ (machine w.service).trace s events,
        ConfinedPlan w entry.2.1 entry.1 entry.2.2) ↔
      ∀ entry ∈ (machine w.service).trace s events,
        ¬ DelegatedRootManifest w entry.2.1 entry.1 := by
  refine forall₂_congr fun entry hentry => ?_
  obtain ⟨event, s', actions⟩ := entry
  obtain ⟨-, rfl⟩ := (machine w.service).mem_trace hentry
  exact confinedPlan_iff

/-! ## A root manifest signed by an authority -/

/-- A manifest of the root without any active authority, which names a delegated
    authority and is signed by it. -/
def usurpingManifest : JsonValue :=
  .obj
    [ ("artifact_type", .str "root_manifest"), ("schema_version", .str "1"),
      ("root_program_id", .str "root:demo"), ("delegated_authority_id", .str "authority:demo"),
      ("name", .str "Demo Root"), ("accepted_algorithm_ids", .arr [.str "ed25519"]),
      ("trust_keys", .arr []), ("policy_constraints", .obj []),
      ("delegated_authorities", .arr []),
      ("publication", .obj
        [ ("published_at", .str "2026-01-01T00:00:00Z"),
          ("valid_until", .str "2027-01-01T00:00:00Z"),
          ("signed_by", .str "authority:demo"),
          ("signature_status", .str trustSignatureStatus) ]),
      ("signed_by", .str "authority:demo"), ("signature_status", .str trustSignatureStatus),
      ("signature_algorithm_id", .str "ed25519"), ("signature_input", .str trustSignatureInput),
      ("signature", .str "pem:v1") ]

/-- The digest of that body. -/
def usurpingManifestHash : String :=
  "7fed8a9ef6bca9891fa56575e76beba428f5597fe7aa5a5f36762978d13c6b1c"

/-- A service that knows the key of the authority alone, and whose store holds the
    manifest. -/
def usurpedWiring : VerifierWiring where
  js :=
    { parseUrl := fun _ => none
      toLowerCase := fun text => text
      toISOString := fun _ => none
      hashJson := fun _ => usurpingManifestHash }
  store := .ofList
    [("artifact:manifest", ⟨"sha256:" ++ usurpingManifestHash, usurpingManifest⟩)]
  host := namingHost
  keyMaterial := inlineMaterial
  keysOf := fun _ => [authorityKey "v1"]

/-- The event that brings the manifest. -/
def usurpingEvent : NetworkEvent where
  type := "root.manifest.published"
  occurredAt := "2026-01-01T00:00:00Z"
  rootProgramId := "root:demo"
  delegatedAuthorityId := some "authority:demo"
  issuerId := none
  destinationPolicyId := none
  artifactId := "artifact:manifest"
  artifactHash := "sha256:" ++ usurpingManifestHash

/-- A cache in which two authorities are active under the root. -/
def sharedRoot : SyncState where
  cache := mergeRootAuthorityContext .empty ⟨"root:demo", ["authority:demo", "authority:peer"]⟩
  trustKeyRegistry := none

/-- What the service checks of the manifest, its signature aside, and the authorities
    it leaves active. -/
theorem usurpingManifest_evaluated :
    [authorityKey "v1"].find? (usableFor usurpingManifest) = some (authorityKey "v1")
      ∧ hashesMatch usurpedWiring.service ⟨"sha256:" ++ usurpingManifestHash, usurpingManifest⟩
          usurpingEvent = true
      ∧ isRecognizedTrustArtifact usurpingManifest = true
      ∧ trustArtifactScopeMatchesBody usurpingManifest = true
      ∧ (rootManifestArtifactBody usurpingManifest).isSome = true
      ∧ (syncRecent usurpedWiring.service sharedRoot
          [usurpingEvent]).1.cache.activeDelegatedAuthoritiesByRoot.get? "root:demo"
          = some [] := by
  decide +kernel

theorem usurpingManifest_accepted :
    AcceptedWith usurpedWiring sharedRoot usurpingEvent
      ⟨"sha256:" ++ usurpingManifestHash, usurpingManifest⟩ (authorityKey "v1") := by
  obtain ⟨hkey, hhashed, hrecognized, hscope, -⟩ := usurpingManifest_evaluated
  have haccepts : Accepts namingHost [authorityKey "v1"] inlineMaterial usurpingManifest :=
    accepts_iff.mpr ⟨⟨rfl, rfl⟩, authorityKey "v1", hkey, .str "pem:v1", "pem:v1", rfl, rfl, rfl⟩
  exact ⟨⟨⟨by decide, rfl, hhashed⟩, hrecognized, verified_iff.mpr haccepts, hscope⟩, hkey⟩

/-- **AN AUTHORITY TAKES THE ROOT**: the manifest is accepted with the key of one
    authority, and afterwards no authority is active under the root. -/
theorem authority_replaces_root_context :
    ¬ (∀ entry ∈ (machine usurpedWiring.service).trace sharedRoot [usurpingEvent],
        ConfinedPlan usurpedWiring entry.2.1 entry.1 entry.2.2)
      ∧ sharedRoot.cache.activeDelegatedAuthoritiesByRoot.get? "root:demo"
          = some ["authority:peer", "authority:demo"]
      ∧ (syncRecent usurpedWiring.service sharedRoot
          [usurpingEvent]).1.cache.activeDelegatedAuthoritiesByRoot.get? "root:demo"
          = some [] := by
  obtain ⟨-, -, -, -, hmanifest, hroot⟩ := usurpingManifest_evaluated
  refine ⟨fun hconfined => ?_, rfl, hroot⟩
  have hevent := hconfined _ (List.mem_cons_self ..)
  exact confinedPlan_iff.mp hevent
    ⟨_, _, "authority:demo", usurpingManifest_accepted, ⟨rfl, rfl⟩, hmanifest⟩

end SignerConfinement
