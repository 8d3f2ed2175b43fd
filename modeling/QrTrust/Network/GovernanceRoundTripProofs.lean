import Mathlib.Data.String.Basic
import QrTrust.Network.GovernancePublicationSource
import QrTrust.Network.SignedPublicationProofs

/-! # A governance publication, signed, stored and verified

    The four bodies that are planned from a database row already name their
    signers, so each of them round-trips when its lookup meets the signer's own
    key.  Three lookups offer Ed25519 keys only; the root manifest is looked up
    with the algorithms it itself accepts, and the first active key of the root
    decides (`sign_store_verify_iff`). -/

namespace GovernanceRoundTrip

open JsonValue KeyedSort TrustKeys SignatureVerification SignatureAcceptance SigningCustody
  GovernancePublication GovernancePublicationSource VerifierSync SignedPublication Fallible

variable {host : SigningHost} {pair : String → String → Prop}
  {signingKeys : List SigningKeyRecord} {materialByRef : String → Option String}
  {trustKeys : List TrustKeyRecord} {keyMaterial : KeyMaterialProvider}

/-! ## The bodies of a plan -/

variable {planning : PlanningHost} {row : PostgresGovernancePublicationBundleRow}
  {occurredAt : Rat} {ids : GovernanceArtifactIds}

theorem distinct_stringsValue (values : List String) : Distinct (stringsValue values) := by
  refine distinctItems_iff.mpr fun item hitem => ?_
  obtain ⟨s, -, rfl⟩ := List.mem_map.mp hitem
  trivial

theorem distinct_trustKeys (keys : List TrustKeyRecord) :
    Distinct (.arr (keys.map trustKeyManifestEntry)) := by
  refine distinctItems_iff.mpr fun item hitem => ?_
  obtain ⟨key, -, rfl⟩ := List.mem_map.mp hitem
  refine ⟨by simp, ?_⟩
  repeat' constructor

theorem distinct_ruleBody (rule : VerifierCache.DestinationPolicyRule) :
    Distinct (ruleBody rule) := by
  rw [ruleBody]
  cases rule.allowedQueryKeys with
  | none =>
      exact ⟨by simp, trivial, trivial, distinct_stringsValue _, trivial,
        distinct_stringsValue _, trivial, trivial⟩
  | some keys =>
      exact ⟨by simp, trivial, trivial, distinct_stringsValue _, trivial,
        distinct_stringsValue _, trivial, distinct_stringsValue _, trivial⟩

theorem distinct_redirectPolicy {value policy : JsonValue}
    (h : redirectPolicyFromUnknown planning value = .ok policy) : Distinct policy := by
  simp only [redirectPolicyFromUnknown, bind_eq_ok_iff] at h
  obtain ⟨_, -, _, -, _, -, _, -, _, -, _, -, hops, -, _, -, _, -, h⟩ := h
  obtain rfl := Except.ok.inj h
  refine ⟨by simp, distinct_stringsValue _, distinct_stringsValue _, distinct_stringsValue _,
    ?_, trivial, trivial, trivial⟩
  cases hops with
  | none => trivial
  | some n => trivial

/-- The publication metadata of a plan names the signer. -/
theorem publicationMetadata_ok {signer : String} {publication : JsonValue}
    (h : GovernancePublicationSource.publicationMetadata planning row occurredAt signer
      = .ok publication) :
    Distinct publication ∧ ∃ fields, publication = .obj fields
      ∧ (obj fields).prop "signed_by" = some (.str signer) := by
  obtain ⟨publishedAt, -, h⟩ := bind_eq_ok_iff.mp h
  obtain ⟨validUntil, -, h⟩ := bind_eq_ok_iff.mp h
  obtain rfl := Except.ok.inj h
  refine ⟨⟨by simp, ?_⟩, _, rfl, rfl⟩
  repeat' constructor

/-- A body whose fields are distinct and whose publication is that of a plan can
    be published. -/
theorem publishable_of_metadata {fields : List (String × JsonValue)} {signer : String}
    {publication : JsonValue}
    (hmetadata : GovernancePublicationSource.publicationMetadata planning row occurredAt signer
      = .ok publication)
    (hdistinct : Distinct publication → Distinct (obj fields))
    (hprop : (obj fields).prop "publication" = some publication) :
    Publishable (obj fields) signer := by
  obtain ⟨hpublication, published, rfl, hsigner⟩ := publicationMetadata_ok hmetadata
  exact ⟨hdistinct hpublication, published, hprop, hsigner⟩

theorem rootManifest_publishable {body : JsonValue}
    (h : rootManifestBodyFromRow planning row occurredAt ids = .ok body) :
    Publishable body row.rootProgramId
      ∧ body.prop "accepted_algorithm_ids" = some (stringsValue row.rootAcceptedAlgorithmIds)
      ∧ body.prop "delegated_authority_id" = none ∧ body.prop "issuer_namespace" = none := by
  obtain ⟨publication, hmetadata, h⟩ := bind_eq_ok_iff.mp h
  obtain rfl := Except.ok.inj h
  refine ⟨publishable_of_metadata hmetadata (fun hpublication => ⟨by simp, ?_⟩) rfl,
    rfl, rfl, rfl⟩
  refine ⟨trivial, trivial, trivial, trivial, trivial, distinct_stringsValue _,
    distinct_trustKeys _, row.rootPolicyConstraints.distinct, ⟨⟨by simp, ?_⟩, trivial⟩,
    hpublication, trivial⟩
  repeat' constructor

theorem authorityManifest_publishable {body : JsonValue}
    (h : delegatedAuthorityManifestBodyFromRow planning row occurredAt ids = .ok body) :
    Publishable body row.rootProgramId ∧ body.prop "accepted_algorithm_ids" = none
      ∧ body.prop "delegated_authority_id" = some (.str row.delegatedAuthorityId)
      ∧ body.prop "issuer_namespace" = none := by
  obtain ⟨publication, hmetadata, h⟩ := bind_eq_ok_iff.mp h
  obtain rfl := Except.ok.inj h
  refine ⟨publishable_of_metadata hmetadata (fun hpublication => ⟨by simp, ?_⟩) rfl,
    rfl, rfl, rfl⟩
  refine ⟨trivial, trivial, trivial, trivial, trivial, trivial, distinct_stringsValue _,
    distinct_trustKeys _, row.delegatedAuthorityAssuranceRequirements.distinct,
    ⟨⟨by simp, ?_⟩, trivial⟩, hpublication, trivial⟩
  repeat' constructor

theorem issuerRecord_publishable {body : JsonValue}
    (h : issuerRecordBodyFromRow planning row occurredAt ids = .ok body) :
    Publishable body row.delegatedAuthorityId ∧ body.prop "accepted_algorithm_ids" = none
      ∧ body.prop "issuer_id" = none
      ∧ ∃ ns, body.prop "issuer_namespace" = some ns
        ∧ ns.stringField "root_program_id" = some row.rootProgramId
        ∧ ns.stringField "delegated_authority_id" = some row.delegatedAuthorityId := by
  obtain ⟨publication, hmetadata, h⟩ := bind_eq_ok_iff.mp h
  obtain rfl := Except.ok.inj h
  refine ⟨publishable_of_metadata hmetadata (fun hpublication => ⟨by simp, ?_⟩) rfl,
    rfl, rfl, _, rfl, rfl, rfl⟩
  refine ⟨trivial, trivial, ⟨by simp, trivial, trivial, trivial, trivial⟩, trivial, trivial,
    trivial, row.issuerAssuranceEvidence.distinct, distinct_stringsValue _,
    ⟨⟨by simp, ?_⟩, trivial⟩, ⟨by simp, ?_⟩, ⟨by simp, ?_⟩, hpublication, trivial⟩
  all_goals repeat' constructor

theorem destinationPolicy_publishable {policy : DestinationPolicyOfRow} {body : JsonValue}
    (hredirect : Distinct policy.redirectPolicy)
    (h : destinationPolicyBodyFromRow planning row occurredAt policy = .ok body) :
    Publishable body policy.ns.delegatedAuthorityId
      ∧ body.prop "accepted_algorithm_ids" = none ∧ body.prop "issuer_namespace" = none := by
  obtain ⟨publication, hmetadata, h⟩ := bind_eq_ok_iff.mp h
  obtain rfl := Except.ok.inj h
  refine ⟨publishable_of_metadata hmetadata (fun hpublication => ⟨by simp, ?_⟩) rfl, rfl, rfl⟩
  have hrules : Distinct (.arr (policy.approvedDestinations.map ruleBody)) := by
    refine distinctItems_iff.mpr fun item hitem => ?_
    obtain ⟨rule, -, rfl⟩ := List.mem_map.mp hitem
    exact distinct_ruleBody rule
  exact ⟨trivial, trivial, trivial, trivial, trivial, trivial, trivial, hrules, hredirect,
    row.destinationPolicyRuntimeSafetyPolicy.distinct, hpublication, trivial⟩

/-! ## The keys of the lookups -/

/-- The lookup of a root manifest: keys of the root of any algorithm it accepts. -/
def manifestLookup (row : PostgresGovernancePublicationBundleRow) : TrustKeyLookupInput where
  signedBy := row.rootProgramId
  rootProgramId := row.rootProgramId
  acceptedAlgorithmIds := row.rootAcceptedAlgorithmIds
  delegatedAuthorityId := none

/-- **THE MANIFEST KEY**: the first key the root manifest's lookup offers is the
    public half of the key the root signs with. -/
def ManifestKeyPaired (pair : String → String → Prop) (trustKeys : List TrustKeyRecord)
    (keyMaterial : KeyMaterialProvider) (row : PostgresGovernancePublicationBundleRow)
    (privatePem : String) : Prop :=
  ∃ key publicPem, trustKeys.find? (usableKey (manifestLookup row)) = some key
    ∧ keyMaterial key = .ok (some publicPem) ∧ pair privatePem publicPem

/-- A key of the root is in scope for the root's lookups with and without a
    delegated authority. -/
theorem usableKey_withAuthority {signer root authority : String} {key : TrustKeyRecord}
    (h : usableKey (ed25519Lookup signer root none) key = true) :
    usableKey (ed25519Lookup signer root (some authority)) key = true := by
  obtain ⟨hsigner, hroot, hscope, halgorithm, hactive⟩ := usableKey_iff.mp h
  refine usableKey_iff.mpr ⟨hsigner, hroot, ?_, halgorithm, hactive⟩
  rw [keyMatchesScope] at hscope ⊢
  cases hkind : key.scope with
  | rootProgram =>
      rw [hkind] at hscope
      exact hscope
  | delegatedAuthority =>
      rw [hkind] at hscope
      cases hscope

/-- A key in scope for the root only because of a delegated authority belongs to
    an authority of the root's own name. -/
theorem usableKey_withoutAuthority {root authority : String} {key : TrustKeyRecord}
    (h : usableKey (ed25519Lookup root root (some authority)) key = true) :
    usableKey (ed25519Lookup root root none) key = true ∨ authority = root := by
  obtain ⟨hsigner, hroot, hscope, halgorithm, hactive⟩ := usableKey_iff.mp h
  rw [keyMatchesScope] at hscope
  cases hkind : key.scope with
  | rootProgram =>
      refine .inl (usableKey_iff.mpr ⟨hsigner, hroot, ?_, halgorithm, hactive⟩)
      rw [keyMatchesScope, hkind]
      exact decide_eq_true hsigner
  | delegatedAuthority =>
      rw [hkind] at hscope
      dsimp only [ed25519Lookup] at hscope hsigner
      obtain ⟨-, hauthority⟩ := Bool.and_eq_true_iff.mp hscope
      exact .inr ((of_decide_eq_true hauthority).symm.trans hsigner)

/-- **THE AUTHORITY MANIFEST'S KEY**: signed by the root but looked up with an
    authority, it still meets the one key of the root. -/
theorem rootKey_withAuthority {root authority rootPem authorityPem : String}
    (hroot : SignerKeys pair signingKeys materialByRef trustKeys keyMaterial root root none rootPem)
    (hauthority : SignerKeys pair signingKeys materialByRef trustKeys keyMaterial authority root
      (some authority) authorityPem) :
    ∃ key publicPem, trustKeys.find? (usableKey (ed25519Lookup root root (some authority)))
        = some key
      ∧ keyMaterial key = .ok (some publicPem) ∧ pair rootPem publicPem := by
  obtain ⟨key, publicPem, hkey, hmaterial, hpair⟩ := hroot.trust
  obtain ⟨hmem, husable⟩ := List.mem_filter.mp (hkey ▸ List.mem_singleton_self key)
  have honly : ∀ other ∈ trustKeys,
      usableKey (ed25519Lookup root root (some authority)) other = true → other = key := by
    intro other hother hotherUsable
    rcases usableKey_withoutAuthority hotherUsable with hplain | rfl
    · have hin := List.mem_filter.mpr ⟨hother, hplain⟩
      rw [hkey] at hin
      exact List.mem_singleton.mp hin
    · -- the authority is the root: both keys are in the scope of the authority
      obtain ⟨authorityKey, _, hauthorityKey, -, -⟩ := hauthority.trust
      have hfirst := List.mem_filter.mpr ⟨hother, hotherUsable⟩
      have hsecond : key ∈ trustKeys.filter
          (usableKey (ed25519Lookup authority authority (some authority))) :=
        List.mem_filter.mpr ⟨hmem, usableKey_withAuthority husable⟩
      rw [hauthorityKey] at hfirst hsecond
      rw [List.mem_singleton.mp hfirst, List.mem_singleton.mp hsecond]
  cases hfind : trustKeys.find? (usableKey (ed25519Lookup root root (some authority))) with
  | none =>
      exact absurd (usableKey_withAuthority husable) (List.find?_eq_none.mp hfind key hmem)
  | some found =>
      obtain rfl := honly found (List.mem_of_find?_eq_some hfind) (List.find?_some hfind)
      exact ⟨found, publicPem, rfl, hmaterial, hpair⟩

/-! ## The plan -/

/-- The id of an authority is not empty. -/
theorem truthy_delegatedAuthorityId (row : PostgresGovernancePublicationBundleRow) :
    JsString.truthy (some row.delegatedAuthorityId) = some row.delegatedAuthorityId := by
  rw [JsString.truthy, Option.filter_some, if_pos (decide_eq_true row.delegatedAuthorityId_ne)]

/-- The four bodies of a plan, in the order of the source. -/
theorem plan_bodies {plan : GovernancePublicationPlanArtifacts}
    (hplan : planGovernancePublicationFromPostgresRow planning row occurredAt = .ok plan) :
    ∃ policy ids,
      (Distinct policy.redirectPolicy ∧ policy.ns = namespaceFromRow row)
        ∧ rootManifestBodyFromRow planning row occurredAt ids = .ok plan.rootManifest.body
        ∧ delegatedAuthorityManifestBodyFromRow planning row occurredAt ids
          = .ok plan.delegatedAuthority.body
        ∧ issuerRecordBodyFromRow planning row occurredAt ids = .ok plan.issuerRecord.body
        ∧ destinationPolicyBodyFromRow planning row occurredAt policy
          = .ok plan.destinationPolicy.body
        ∧ manifestIdentity plan.rootManifest = ⟨row.rootProgramId, row.rootProgramId, none⟩
        ∧ manifestIdentity plan.delegatedAuthority
          = ⟨row.rootProgramId, row.rootProgramId, none⟩
        ∧ recordIdentity plan.issuerRecord
          = ⟨row.delegatedAuthorityId, row.rootProgramId, some row.delegatedAuthorityId⟩
        ∧ recordIdentity plan.destinationPolicy
          = ⟨row.delegatedAuthorityId, row.rootProgramId, some row.delegatedAuthorityId⟩ := by
  have htruthy := truthy_delegatedAuthorityId row
  obtain ⟨policy, hpolicy, hplan⟩ := bind_eq_ok_iff.mp hplan
  obtain ⟨rootBody, hrootBody, hplan⟩ := bind_eq_ok_iff.mp hplan
  obtain ⟨authorityBody, hauthorityBody, hplan⟩ := bind_eq_ok_iff.mp hplan
  obtain ⟨recordBody, hrecordBody, hplan⟩ := bind_eq_ok_iff.mp hplan
  obtain ⟨policyBody, hpolicyBody, hplan⟩ := bind_eq_ok_iff.mp hplan
  obtain rfl := Except.ok.inj hplan
  obtain ⟨_, -, hpolicy⟩ := bind_eq_ok_iff.mp hpolicy
  obtain ⟨_, -, hpolicy⟩ := bind_eq_ok_iff.mp hpolicy
  obtain ⟨redirect, hredirect, hpolicy⟩ := bind_eq_ok_iff.mp hpolicy
  obtain ⟨_, -, hpolicy⟩ := bind_eq_ok_iff.mp hpolicy
  obtain rfl := Except.ok.inj hpolicy
  refine ⟨_, _, ⟨distinct_redirectPolicy hredirect, rfl⟩, hrootBody, hauthorityBody, hrecordBody,
    hpolicyBody, rfl, rfl, ?_, ?_⟩
  · rw [recordIdentity, htruthy]
    rfl
  · rw [recordIdentity]
    dsimp only [namespaceFromRow]
    rw [htruthy]
    rfl

/-- **THE SIGNED PLAN**: with one key pair for each signer the plan is signed; the
    authority manifest and the two records round-trip, and the root manifest
    does exactly when its lookup offers the root's own key first. -/
theorem signGovernancePublicationPlan_ok (laws : Ed25519 host pair)
    (hless : StrictTotal host.localeLess)
    {source : SigningMaterialSource} {registry : TrustKeyRegistry} {rootPem authorityPem : String}
    {plan : GovernancePublicationPlanArtifacts}
    (hplan : planGovernancePublicationFromPostgresRow planning row occurredAt = .ok plan)
    (hroot : SignerKeys pair signingKeys materialByRef registry.values keyMaterial
      row.rootProgramId row.rootProgramId none rootPem)
    (hauthority : SignerKeys pair signingKeys materialByRef registry.values keyMaterial
      row.delegatedAuthorityId row.rootProgramId (some row.delegatedAuthorityId) authorityPem) :
    ∃ signed, signGovernancePublicationPlan plan (makeTrustArtifactSigner host
          (makeStaticSigningCustodyProvider host signingKeys materialByRef source)) = .ok signed
      ∧ (RoundTrips host registry.values keyMaterial signed.rootManifest.body ↔
          ManifestKeyPaired pair registry.values keyMaterial row rootPem)
      ∧ RoundTrips host registry.values keyMaterial signed.delegatedAuthority.body
      ∧ RoundTrips host registry.values keyMaterial signed.issuerRecord.body
      ∧ RoundTrips host registry.values keyMaterial signed.destinationPolicy.body := by
  have htruthy := truthy_delegatedAuthorityId row
  obtain ⟨policy, ids, ⟨hredirect, hns⟩, hrootBody, hauthorityBody, hrecordBody, hpolicyBody,
    hrootIdentity, hauthorityIdentity, hrecordIdentity, hpolicyIdentity⟩ := plan_bodies hplan
  obtain ⟨hpublish₁, haccepted₁, hnamed₁, hnamespace₁⟩ := rootManifest_publishable hrootBody
  obtain ⟨hpublish₂, haccepted₂, hnamed₂, hnamespace₂⟩ :=
    authorityManifest_publishable hauthorityBody
  obtain ⟨hpublish₃, haccepted₃, hissuer₃, hnamespace₃⟩ := issuerRecord_publishable hrecordBody
  obtain ⟨hpublish₄, haccepted₄, hnamespace₄⟩ := destinationPolicy_publishable hredirect hpolicyBody
  rw [hns] at hpublish₄
  -- each of the four is signed with the key of its signer
  obtain ⟨body₁, signature₁, hok₁, hsigns₁, hsigned₁⟩ :=
    @signPublicationInput_ok host pair signingKeys materialByRef registry.values keyMaterial laws
      hless source plan.rootManifest ⟨row.rootProgramId, row.rootProgramId, none⟩ rootPem
      hpublish₁ hroot
  obtain ⟨body₂, signature₂, hok₂, hsigns₂, hsigned₂⟩ :=
    @signPublicationInput_ok host pair signingKeys materialByRef registry.values keyMaterial laws
      hless source plan.delegatedAuthority ⟨row.rootProgramId, row.rootProgramId, none⟩ rootPem
      hpublish₂ hroot
  rw [← htruthy] at hauthority
  obtain ⟨body₃, signature₃, hok₃, hsigns₃, hsigned₃⟩ :=
    @signPublicationInput_ok host pair signingKeys materialByRef registry.values keyMaterial laws
      hless source plan.issuerRecord
      ⟨row.delegatedAuthorityId, row.rootProgramId, some row.delegatedAuthorityId⟩ authorityPem
      hpublish₃ hauthority
  obtain ⟨body₄, signature₄, hok₄, hsigns₄, hsigned₄⟩ :=
    @signPublicationInput_ok host pair signingKeys materialByRef registry.values keyMaterial laws
      hless source plan.destinationPolicy
      ⟨row.delegatedAuthorityId, row.rootProgramId, some row.delegatedAuthorityId⟩ authorityPem
      hpublish₄ hauthority
  rw [htruthy] at hauthority
  have hsignedPlan : signGovernancePublicationPlan plan (makeTrustArtifactSigner host
      (makeStaticSigningCustodyProvider host signingKeys materialByRef source))
        = .ok
          { rootManifest := { plan.rootManifest with body := body₁ }
            delegatedAuthority := { plan.delegatedAuthority with body := body₂ }
            issuerRecord := { plan.issuerRecord with body := body₃ }
            destinationPolicy := { plan.destinationPolicy with body := body₄ } } := by
    rw [signGovernancePublicationPlan, hrootIdentity, hauthorityIdentity, hrecordIdentity,
      hpolicyIdentity, hok₁, hok₂, hok₃, hok₄]
    rfl
  -- the lookups of the authority manifest and of the two records meet one key each
  obtain ⟨authorityKey, authorityPublic, hauthorityKey, hauthorityMaterial, hauthorityPair⟩ :=
    hauthority.trust
  have hauthorityFind := find?_of_filter_eq hauthorityKey
  have htrips₁ : RoundTrips host registry.values keyMaterial body₁ ↔
      ManifestKeyPaired pair registry.values keyMaterial row rootPem := by
    rw [roundTrips_iff laws hless hpublish₁ hsigns₁ hsigned₁ (.inl haccepted₁)
      fun ns hns => absurd (hnamespace₁.symm.trans hns) (by simp)]
    rw [ManifestKeyPaired, manifestLookup, signedLookup, signedAuthority, stringField, hnamed₁]
    rfl
  have htrips₂ : RoundTrips host registry.values keyMaterial body₂ := by
    rw [roundTrips_iff laws hless hpublish₂ hsigns₂ hsigned₂ (.inr ⟨haccepted₂, rfl⟩)
      fun ns hns => absurd (hnamespace₂.symm.trans hns) (by simp)]
    rw [signedLookup, signedAuthority, stringField_of_prop hnamed₂]
    show ∃ key publicPem, registry.values.find? (usableKey
      { signedBy := row.rootProgramId, rootProgramId := row.rootProgramId
        acceptedAlgorithmIds := ["ed25519"]
        delegatedAuthorityId := JsString.truthy (some row.delegatedAuthorityId) }) = some key ∧ _
    rw [htruthy]
    exact rootKey_withAuthority hroot hauthority
  have hrecordLookup : ∀ before : JsonValue, signedLookup before
      ⟨row.delegatedAuthorityId, row.rootProgramId, some row.delegatedAuthorityId⟩ ["ed25519"]
        = ed25519Lookup row.delegatedAuthorityId row.rootProgramId
            (some row.delegatedAuthorityId) := by
    intro before
    rw [signedLookup, signedAuthority, htruthy, Option.some_or, htruthy]
    rfl
  have htrips₃ : RoundTrips host registry.values keyMaterial body₃ := by
    rw [roundTrips_iff laws hless hpublish₃ hsigns₃ hsigned₃ (.inr ⟨haccepted₃, rfl⟩)]
    · rw [hrecordLookup]
      exact ⟨authorityKey, authorityPublic, hauthorityFind, hauthorityMaterial, hauthorityPair⟩
    · intro ns hns
      obtain ⟨ns', hns', hnsRoot, hnsAuthority⟩ := hnamespace₃
      obtain rfl := Option.some.inj (hns'.symm.trans hns)
      refine ⟨hnsRoot, ?_, hissuer₃⟩
      rw [hnsAuthority, signedAuthority, htruthy, Option.some_or]
  have htrips₄ : RoundTrips host registry.values keyMaterial body₄ := by
    rw [roundTrips_iff laws hless hpublish₄ hsigns₄ hsigned₄ (.inr ⟨haccepted₄, rfl⟩)
      fun ns hns => absurd (hnamespace₄.symm.trans hns) (by simp), hrecordLookup]
    exact ⟨authorityKey, authorityPublic, hauthorityFind, hauthorityMaterial, hauthorityPair⟩
  exact ⟨_, hsignedPlan, htrips₁, htrips₂, htrips₃, htrips₄⟩

/-! ## A row, two signers, and a key of another algorithm -/

/-- The host of the cases below: a signature is the payload, marked by its key. -/
def demoSigningHost : SigningHost where
  localeLess a b := decide (a < b)
  numberText _ := "1"
  verifyEd25519 publicPem payload signature :=
    match signature with
    | .str s =>
        (publicPem = "root-public" && s = "r" ++ payload)
          || (publicPem = "authority-public" && s = "a" ++ payload)
    | _ => false
  signEd25519 privatePem payload :=
    if privatePem = "root-private" then some ("r" ++ payload)
    else if privatePem = "authority-private" then some ("a" ++ payload)
    else none

/-- The two key pairs of that host. -/
def DemoPair (privatePem publicPem : String) : Prop :=
  privatePem = "root-private" ∧ publicPem = "root-public"
    ∨ privatePem = "authority-private" ∧ publicPem = "authority-public"

theorem demo_localeLess : StrictTotal demoSigningHost.localeLess := strictTotal_lt

theorem demo_signs {privatePem payload signature : String}
    (h : demoSigningHost.signEd25519 privatePem payload = some signature) :
    privatePem = "root-private" ∧ signature = "r" ++ payload
      ∨ privatePem = "authority-private" ∧ signature = "a" ++ payload := by
  simp only [demoSigningHost] at h
  split at h
  · rename_i hroot
    exact .inl ⟨hroot, (Option.some.inj h).symm⟩
  · split at h
    · rename_i hauthority
      exact .inr ⟨hauthority, (Option.some.inj h).symm⟩
    · cases h

theorem demo_verifies {publicPem payload s : String} :
    demoSigningHost.verifyEd25519 publicPem payload (.str s) = true ↔
      publicPem = "root-public" ∧ s = "r" ++ payload
        ∨ publicPem = "authority-public" ∧ s = "a" ++ payload := by
  simp only [demoSigningHost, Bool.or_eq_true, Bool.and_eq_true, decide_eq_true_eq]

/-- The marks of the two keys differ. -/
theorem marks_differ (s t : String) : "r" ++ s ≠ "a" ++ t := by
  intro h
  have hlist := congrArg String.toList h
  rw [String.toList_append, String.toList_append] at hlist
  cases hlist

theorem demo_ed25519 : Ed25519 demoSigningHost DemoPair where
  signs := by
    rintro _ _ (⟨rfl, rfl⟩ | ⟨rfl, rfl⟩) payload
    · exact ⟨"r" ++ payload, rfl⟩
    · exact ⟨"a" ++ payload, rfl⟩
  nonempty := by
    intro privatePem payload signature h
    rcases demo_signs h with ⟨rfl, rfl⟩ | ⟨rfl, rfl⟩
    · exact ⟨by decide, by simp⟩
    · exact ⟨by decide, by simp⟩
  verifies := by
    intro privatePem publicPem payload payload' signature h
    have hflip : payload = payload' ↔ payload' = payload := eq_comm
    rw [demo_verifies, DemoPair]
    rcases demo_signs h with ⟨rfl, rfl⟩ | ⟨rfl, rfl⟩
    · simp [marks_differ, hflip]
    · simp [fun s t => (marks_differ s t).symm, hflip]

/-- The planning host of the cases below. -/
def demoPlanningHost : PlanningHost where
  js :=
    { parseUrl := fun value =>
        if value = "https://shop.example/pay" then
          some ⟨value, "https:", "", "", "shop.example", "/pay", []⟩
        else none
      toLowerCase := id
      toISOString := fun _ => none
      hashJson := fun _ => "" }
  numberText _ := "1"
  numberOf _ := none
  dateText _ := some "2026-01-01T00:00:00.000Z"

/-- The row of the demo network, for a root that accepts these algorithms. -/
def demoRow (accepted : List String) : PostgresGovernancePublicationBundleRow where
  rootProgramId := "root:qrtrust-demo:2026"
  rootName := "QR Trust Demo Root"
  rootProgramScope := "Reference implementation"
  rootAcceptedAlgorithmIds := accepted
  rootTrustKeys := [demoRootTrustKey]
  rootPolicyConstraints := ⟨[], by simp [Distinct, DistinctFields]⟩
  delegatedAuthorityId := "authority:qrtrust-demo:merchant-web"
  delegatedAuthorityName := "Merchant Web"
  delegatedAuthorityType := "merchant_operator"
  delegatedAuthorityScope := ⟨[("merchant-web", .bool true)], by simp [Distinct, DistinctFields]⟩
  delegatedAuthorityAssuranceRequirements := ⟨[], by simp [Distinct, DistinctFields]⟩
  delegatedAuthorityTrustKeys := [demoDelegatedAuthorityTrustKey]
  issuerId := "issuer:acme-demo"
  issuerDisplayName := "Acme"
  issuerClass := "merchant"
  issuerAssuranceTier := "verified"
  issuerAssuranceEvidence := ⟨[], by simp [Distinct, DistinctFields]⟩
  issuerCertificateRefs := ["cert:acme-demo:1"]
  issuerStatusEventRef := "status:acme-demo:active:v1"
  issuerStatusEventStatus := .active
  destinationPolicyId := "policy:acme-demo:checkout:v1"
  destinationPolicyUsagePolicy := .reusablePublic
  destinationPolicyApprovedDestinations :=
    [.obj
      [("destination_id", .str "dest:checkout"),
       ("expected_final_url", .str "https://shop.example/pay"),
       ("allowed_hosts", .arr [.str "shop.example"]), ("allow_subdomains", .bool false),
       ("path_prefixes", .arr [.str "/pay"]), ("query_policy", .str "none")]]
  destinationPolicyRedirectPolicy :=
    ⟨[("resolver_urls", .arr []), ("expected_final_destinations", .arr []),
      ("allowed_redirect_hosts", .arr []), ("max_redirect_hops", .num 0),
      ("nested_shorteners_allowed", .bool false),
      ("scanner_must_display_resolver_and_final_destination", .bool true)],
      by simp [Distinct, DistinctFields, DistinctItems]⟩
  destinationPolicyRuntimeSafetyPolicy := ⟨[], by simp [Distinct, DistinctFields]⟩
  destinationPolicyVersion := 1
  rootProgramId_ne := by decide
  delegatedAuthorityId_ne := by decide

/-- The trust key of the root. -/
def rootKey : TrustKeyRecord :=
  { demoRootTrustKey with publicKeyMaterialPem := some "root-public" }

/-- The trust key of the authority. -/
def authorityKey : TrustKeyRecord :=
  { demoDelegatedAuthorityTrustKey with publicKeyMaterialPem := some "authority-public" }

/-- Another active key of the root, of another accepted algorithm. -/
def ecdsaRootKey : TrustKeyRecord :=
  { demoRootTrustKey with
    keyId := "key:root:qrtrust-demo:2026:ecdsa-p256:v1"
    algorithmId := "ecdsa-p256"
    publicKeyMaterialPem := some "ecdsa-public" }

/-- The registry with one key for each signer. -/
def demoRegistry : TrustKeyRegistry := makeInMemoryTrustKeyRegistry [rootKey, authorityKey]

/-- The registry with the other root key enrolled first. -/
def mixedRegistry : TrustKeyRegistry :=
  makeInMemoryTrustKeyRegistry [ecdsaRootKey, rootKey, authorityKey]

/-- The signing keys and where their material is. -/
def demoSigningKeys : List SigningKeyRecord := [demoRootSigningKey, demoDelegatedAuthoritySigningKey]

/-- The material of the signing keys. -/
def demoMaterial (ref : String) : Option String :=
  if ref = demoRootSigningKey.privateKeyMaterialRef then some "root-private"
  else some "authority-private"

/-- The public material of a trust key: its own PEM. -/
def ownMaterial : KeyMaterialProvider := fun key => .ok key.publicKeyMaterialPem

theorem demo_rootKeys {registry : TrustKeyRegistry}
    (h : registry.values.filter (usableKey (ed25519Lookup "root:qrtrust-demo:2026"
      "root:qrtrust-demo:2026" none)) = [rootKey]) :
    SignerKeys DemoPair demoSigningKeys demoMaterial registry.values ownMaterial
      "root:qrtrust-demo:2026" "root:qrtrust-demo:2026" none "root-private" where
  signing := ⟨demoRootSigningKey, by decide +kernel, by decide +kernel⟩
  trust := ⟨rootKey, "root-public", h, rfl, .inl ⟨rfl, rfl⟩⟩

theorem demo_authorityKeys {registry : TrustKeyRegistry}
    (h : registry.values.filter (usableKey (ed25519Lookup "authority:qrtrust-demo:merchant-web"
      "root:qrtrust-demo:2026" (some "authority:qrtrust-demo:merchant-web"))) = [authorityKey]) :
    SignerKeys DemoPair demoSigningKeys demoMaterial registry.values ownMaterial
      "authority:qrtrust-demo:merchant-web" "root:qrtrust-demo:2026"
      (some "authority:qrtrust-demo:merchant-web") "authority-private" where
  signing := ⟨demoDelegatedAuthoritySigningKey, by decide +kernel, by decide +kernel⟩
  trust := ⟨authorityKey, "authority-public", h, rfl, .inr ⟨rfl, rfl⟩⟩

/-- **SIGN, STORE, VERIFY**: with one key pair for each signer the plan is signed,
    and all four stored bodies pass, exactly when the root manifest's lookup
    offers the root's own key first. -/
theorem sign_store_verify_iff (laws : Ed25519 host pair) (hless : StrictTotal host.localeLess)
    {source : SigningMaterialSource} {registry : TrustKeyRegistry} {rootPem authorityPem : String}
    {plan : GovernancePublicationPlanArtifacts}
    (hplan : planGovernancePublicationFromPostgresRow planning row occurredAt = .ok plan)
    (hroot : SignerKeys pair signingKeys materialByRef registry.values keyMaterial
      row.rootProgramId row.rootProgramId none rootPem)
    (hauthority : SignerKeys pair signingKeys materialByRef registry.values keyMaterial
      row.delegatedAuthorityId row.rootProgramId (some row.delegatedAuthorityId) authorityPem) :
    (∃ signed, signGovernancePublicationPlan plan (makeTrustArtifactSigner host
          (makeStaticSigningCustodyProvider host signingKeys materialByRef source)) = .ok signed
        ∧ ∀ artifact ∈ signed.toList,
            RoundTrips host registry.values keyMaterial artifact.body) ↔
      ManifestKeyPaired pair registry.values keyMaterial row rootPem := by
  obtain ⟨signed, hsigned, hmanifest, hauthorityManifest, hrecord, hpolicy⟩ :=
    signGovernancePublicationPlan_ok laws hless hplan hroot hauthority
  rw [← hmanifest]
  constructor
  · rintro ⟨signed', hsigned', hall⟩
    obtain rfl := Except.ok.inj (hsigned.symm.trans hsigned')
    exact hall _ (List.mem_cons_self ..)
  · intro hrootManifest
    refine ⟨signed, hsigned, ?_⟩
    intro artifact hartifact
    simp only [GovernancePublicationPlanArtifacts.toList, List.mem_cons, List.not_mem_nil,
      or_false] at hartifact
    rcases hartifact with rfl | rfl | rfl | rfl
    · exact hrootManifest
    · exact hauthorityManifest
    · exact hrecord
    · exact hpolicy

theorem sign_store_verify_iff_ed25519 :
    ∃ plan, planGovernancePublicationFromPostgresRow demoPlanningHost (demoRow ["ed25519"]) 0
        = .ok plan
      ∧ ((∃ signed, signGovernancePublicationPlan plan (makeTrustArtifactSigner demoSigningHost
            (makeStaticSigningCustodyProvider demoSigningHost demoSigningKeys demoMaterial
              .static)) = .ok signed
          ∧ ∀ artifact ∈ signed.toList, RoundTrips demoSigningHost demoRegistry.values ownMaterial
              artifact.body) ↔
        ManifestKeyPaired DemoPair demoRegistry.values ownMaterial
          (demoRow ["ed25519"]) "root-private") := by
  obtain ⟨plan, hplan⟩ := exists_ok_of_isOk (show (planGovernancePublicationFromPostgresRow
    demoPlanningHost (demoRow ["ed25519"]) 0).isOk = true by decide +kernel)
  exact ⟨plan, hplan, sign_store_verify_iff demo_ed25519 demo_localeLess hplan
    (demo_rootKeys (by decide +kernel)) (demo_authorityKeys (by decide +kernel))⟩

/-- **TWO ALGORITHMS**: a root that accepts a second algorithm, with an active key
    of it enrolled before the Ed25519 key.  Everything is signed, and the root
    manifest is turned down as it stands. -/
theorem first_key_of_another_algorithm :
    ∃ plan signed, "ed25519" ∈ (demoRow ["ed25519", "ecdsa-p256"]).rootAcceptedAlgorithmIds
      ∧ planGovernancePublicationFromPostgresRow demoPlanningHost
          (demoRow ["ed25519", "ecdsa-p256"]) 0 = .ok plan
      ∧ SignerKeys DemoPair demoSigningKeys demoMaterial
          mixedRegistry.values ownMaterial "root:qrtrust-demo:2026" "root:qrtrust-demo:2026" none "root-private"
      ∧ SignerKeys DemoPair demoSigningKeys demoMaterial
          mixedRegistry.values ownMaterial "authority:qrtrust-demo:merchant-web" "root:qrtrust-demo:2026"
          (some "authority:qrtrust-demo:merchant-web") "authority-private"
      ∧ signGovernancePublicationPlan plan (makeTrustArtifactSigner demoSigningHost
          (makeStaticSigningCustodyProvider demoSigningHost demoSigningKeys demoMaterial .static))
          = .ok signed
      ∧ ¬ RoundTrips demoSigningHost mixedRegistry.values ownMaterial
          signed.rootManifest.body := by
  obtain ⟨plan, hplan⟩ := exists_ok_of_isOk (show (planGovernancePublicationFromPostgresRow
    demoPlanningHost (demoRow ["ed25519", "ecdsa-p256"]) 0).isOk = true by decide +kernel)
  have hroot := @demo_rootKeys mixedRegistry (by decide +kernel)
  have hauthority := @demo_authorityKeys mixedRegistry (by decide +kernel)
  obtain ⟨signed, hsigned, hmanifest, -⟩ :=
    signGovernancePublicationPlan_ok demo_ed25519 demo_localeLess hplan hroot hauthority
  refine ⟨plan, signed, by decide, hplan, hroot, hauthority, hsigned, ?_⟩
  rw [hmanifest]
  rintro ⟨key, publicPem, hkey, hmaterial, hpair⟩
  have hfirst : mixedRegistry.values.find?
      (usableKey (manifestLookup (demoRow ["ed25519", "ecdsa-p256"]))) = some ecdsaRootKey := by
    decide +kernel
  obtain rfl := Option.some.inj (hfirst.symm.trans hkey)
  obtain rfl := Option.some.inj (Except.ok.inj hmaterial)
  rcases hpair with ⟨-, hpem⟩ | ⟨-, hpem⟩
  · exact absurd hpem (by decide)
  · exact absurd hpem (by decide)

end GovernanceRoundTrip
