import QrTrust.Network.KeyRotationPolicy
import QrTrust.Network.SignatureAcceptanceProofs

/-! # Acceptance under key rotation

    While two keys of a signer are active, artifacts signed by either should be
    accepted.  The verifier asks about the first usable key alone, so an
    artifact signed by a later one is rejected: `acceptance_iff` says when
    the verifier accepts what some usable key verifies. -/

namespace KeyRotation

open TrustKeys SignatureVerification SignatureAcceptance KeyRotationPolicy

variable {host : SignatureHost} {keyMaterial : KeyMaterialProvider}
  {keys : List TrustKeyRecord} {artifact : JsonValue}

/-- Some usable key of the registry verifies the artifact. -/
def SomeUsableVerifies (host : SignatureHost) (keys : List TrustKeyRecord)
    (keyMaterial : KeyMaterialProvider) (artifact : JsonValue) : Prop :=
  ∃ key ∈ keys, usableFor artifact key = true ∧ Verifies host keyMaterial artifact key

/-- **THE FIRST DECIDES**: where some usable key verifies the artifact, so does
    the usable key that comes first. -/
def FirstDecides (host : SignatureHost) (keys : List TrustKeyRecord)
    (keyMaterial : KeyMaterialProvider) (artifact : JsonValue) : Prop :=
  SomeUsableVerifies host keys keyMaterial artifact →
    ∀ first, keys.find? (usableFor artifact) = some first →
      Verifies host keyMaterial artifact first

/-- **OVERLAP**: an accepted rotation whose two keys are registered and active. -/
structure Overlap (policy : TrustKeyRotationPolicy) (plan : TrustKeyRotationPlan)
    (keys : List TrustKeyRecord) : Prop where
  assessed : (assessTrustKeyRotation policy plan).status = .accepted
  current : plan.currentKey ∈ keys
  next : plan.nextKey ∈ keys
  currentActive : plan.currentKey.status = .active

/-- **SIGNED IN THE OVERLAP**: one of the two keys of the plan is usable for the
    artifact and verifies it. -/
def SignedByEither (host : SignatureHost) (plan : TrustKeyRotationPlan)
    (keyMaterial : KeyMaterialProvider) (artifact : JsonValue) : Prop :=
  ∃ key, (key = plan.currentKey ∨ key = plan.nextKey) ∧ usableFor artifact key = true
    ∧ Verifies host keyMaterial artifact key

/-- An accepted artifact is verified by a usable key. -/
theorem someUsable_of_accepts (h : Accepts host keys keyMaterial artifact) :
    Supported artifact ∧ SomeUsableVerifies host keys keyMaterial artifact := by
  obtain ⟨hsupported, key, hfind, hverifies⟩ := accepts_iff.mp h
  exact ⟨hsupported, key, List.mem_of_find?_eq_some hfind, List.find?_some hfind, hverifies⟩

/-- Where a usable key verifies a supported artifact, acceptance is up to the
    first usable key. -/
theorem accepts_iff_first (hsupported : Supported artifact)
    (hsome : SomeUsableVerifies host keys keyMaterial artifact) :
    Accepts host keys keyMaterial artifact ↔ FirstDecides host keys keyMaterial artifact := by
  rw [accepts_iff, and_iff_right hsupported]
  constructor
  · rintro ⟨key, hfind, hverifies⟩ - first hfirst
    obtain rfl := Option.some.inj (hfind.symm.trans hfirst)
    exact hverifies
  · intro hfirst
    have hverifies := hfirst hsome
    obtain ⟨key, hmem, husable, -⟩ := hsome
    obtain ⟨first, hfind⟩ :=
      Option.isSome_iff_exists.mp (List.find?_isSome.mpr ⟨key, hmem, husable⟩)
    exact ⟨first, hfind, hverifies first hfind⟩

/-- **ACCEPTANCE**: over every registry and artifact, the verifier accepts
    exactly what some usable key verifies if and only if the first usable key
    decides; and in the overlap of an accepted rotation, what either key signed
    is accepted if and only if the first usable key decides. -/
theorem acceptance_iff (host : SignatureHost) (registry : TrustKeyRegistry)
    (keyMaterial : KeyMaterialProvider) (artifact : JsonValue) :
    ((Accepts host registry.values keyMaterial artifact ↔
        Supported artifact ∧ SomeUsableVerifies host registry.values keyMaterial artifact)
      ↔ (Supported artifact → FirstDecides host registry.values keyMaterial artifact))
    ∧ ∀ policy plan, Overlap policy plan registry.values → Supported artifact →
        SignedByEither host plan keyMaterial artifact →
        (Accepts host registry.values keyMaterial artifact ↔
          FirstDecides host registry.values keyMaterial artifact) := by
  constructor
  · constructor
    · intro hiff hsupported hsome
      exact (accepts_iff_first hsupported hsome).mp (hiff.mpr ⟨hsupported, hsome⟩) hsome
    · intro hfirst
      constructor
      · exact someUsable_of_accepts
      · rintro ⟨hsupported, hsome⟩
        exact (accepts_iff_first hsupported hsome).mpr (hfirst hsupported)
  · rintro policy plan hoverlap hsupported ⟨key, hkey, husable, hverifies⟩
    have hmem : key ∈ registry.values := by
      rcases hkey with rfl | rfl
      · exact hoverlap.current
      · exact hoverlap.next
    exact accepts_iff_first hsupported ⟨key, hmem, husable, hverifies⟩

/-! ## A rotation that rejects the new key -/

/-- The key in use, and the key that replaces it. -/
def authorityKey (version : String) : TrustKeyRecord where
  keyId := "key:authority:" ++ version
  signerId := "authority:demo"
  rootProgramId := "root:demo"
  algorithmId := "ed25519"
  scope := .delegatedAuthority
  status := .active
  publicKeyMaterialRef := "pem://authority/" ++ version
  publicKeyMaterialPem := some ("pem:" ++ version)
  delegatedAuthorityId := some "authority:demo"

/-- A rotation with two days of overlap. -/
def plannedRotation : TrustKeyRotationPlan where
  currentKey := authorityKey "v1"
  nextKey := authorityKey "v2"
  nextKeyActivatesAt := some 0
  currentKeyRetiresAt := some 172800000
  verifierCacheExpiresAt := none
  emergencyRevokedAt := none
  emergencyStatusEventPublishedAt := none

/-- The registry in the overlap: the new key was registered after the old one. -/
def overlapRegistry : TrustKeyRegistry :=
  OrderedMap.ofList
    [("key:authority:v1", authorityKey "v1"), ("key:authority:v2", authorityKey "v2")]

/-- A host whose signatures name the key that made them. -/
def namingHost : SignatureHost where
  localeLess a b := a < b
  numberText _ := "0"
  verifyEd25519 publicKeyPem _ signature := signature.asString = some publicKeyPem

theorem namingHost_verifies {publicKeyPem payload : String} {signature : JsonValue} :
    namingHost.verifyEd25519 publicKeyPem payload signature = true ↔
      signature.asString = some publicKeyPem :=
  decide_eq_true_iff

/-- The material a record carries inline. -/
def inlineMaterial : KeyMaterialProvider := fun key => .ok key.publicKeyMaterialPem

/-- An artifact of the authority, signed by one of its keys. -/
def artifactSignedBy (version : String) : JsonValue :=
  .obj
    [ ("artifact_type", .str "assurance_status_event"),
      ("root_program_id", .str "root:demo"),
      ("delegated_authority_id", .str "authority:demo"),
      ("signed_by", .str "authority:demo"),
      ("signature_algorithm_id", .str "ed25519"),
      ("signature_input", .str trustSignatureInput),
      ("signature", .str ("pem:" ++ version)) ]

theorem plannedRotation_overlap :
    Overlap defaultDelegatedAuthorityTrustKeyRotationPolicy plannedRotation
      overlapRegistry.values := by
  have haccepted : (assessTrustKeyRotation defaultDelegatedAuthorityTrustKeyRotationPolicy
      plannedRotation).status = .accepted := by decide +kernel
  exact ⟨haccepted, by decide +kernel, by decide +kernel, rfl⟩

theorem artifactSignedBy_supported (version : String) : Supported (artifactSignedBy version) :=
  ⟨rfl, rfl⟩

theorem artifactSignedBy_signature (version : String) :
    ((artifactSignedBy version).prop "signature").filter truthyValue
      = some (.str ("pem:" ++ version)) := by
  have htruthy : truthyValue (.str ("pem:" ++ version)) = true := by
    simp [truthyValue]
  have hprop : (artifactSignedBy version).prop "signature"
      = some (.str ("pem:" ++ version)) := rfl
  rw [hprop, Option.filter_some, if_pos htruthy]

theorem artifactSignedBy_verifies (version : String) :
    Verifies namingHost inlineMaterial (artifactSignedBy version) (authorityKey version) :=
  ⟨_, _, artifactSignedBy_signature version, rfl, decide_eq_true rfl⟩

theorem artifactSignedBy_signed :
    SignedByEither namingHost plannedRotation inlineMaterial (artifactSignedBy "v2") :=
  ⟨authorityKey "v2", .inr rfl, by decide +kernel, artifactSignedBy_verifies "v2"⟩

/-- What the new key signed is accepted if and only if the old key verifies it. -/
theorem new_key_accepted_iff :
    Accepts namingHost overlapRegistry.values inlineMaterial (artifactSignedBy "v2") ↔
      FirstDecides namingHost overlapRegistry.values inlineMaterial (artifactSignedBy "v2") :=
  (acceptance_iff namingHost overlapRegistry inlineMaterial (artifactSignedBy "v2")).2 _ _
    plannedRotation_overlap (artifactSignedBy_supported "v2") artifactSignedBy_signed

/-- The old key comes first for whatever the authority signs. -/
theorem oldKey_first :
    overlapRegistry.values.find? (usableFor (artifactSignedBy "v2"))
      = some (authorityKey "v1") := by
  decide +kernel

/-- **THE NEW KEY IS REJECTED**: in the overlap of an accepted rotation, an
    artifact signed by the registered, active new key is rejected. -/
theorem new_key_rejected :
    Overlap defaultDelegatedAuthorityTrustKeyRotationPolicy plannedRotation
        overlapRegistry.values
      ∧ Supported (artifactSignedBy "v2")
      ∧ SomeUsableVerifies namingHost overlapRegistry.values inlineMaterial
          (artifactSignedBy "v2")
      ∧ SignedByEither namingHost plannedRotation inlineMaterial (artifactSignedBy "v2")
      ∧ ¬ Accepts namingHost overlapRegistry.values inlineMaterial (artifactSignedBy "v2") := by
  refine ⟨plannedRotation_overlap, artifactSignedBy_supported "v2", ?_,
    artifactSignedBy_signed, ?_⟩
  · exact ⟨authorityKey "v2", by decide +kernel, by decide +kernel,
      artifactSignedBy_verifies "v2"⟩
  · intro haccepts
    obtain ⟨-, key, hfind, signature, pem, hsignature, hpem, hverified⟩ :=
      accepts_iff.mp haccepts
    obtain rfl := Option.some.inj (oldKey_first.symm.trans hfind)
    obtain rfl := Option.some.inj ((artifactSignedBy_signature "v2").symm.trans hsignature)
    obtain rfl := Option.some.inj (Except.ok.inj hpem)
    exact absurd (namingHost_verifies.mp hverified) (by decide)

end KeyRotation
