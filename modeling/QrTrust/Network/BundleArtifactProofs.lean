import QrTrust.Network.BundlePublication
import QrTrust.Network.GovernanceRoundTripProofs
import QrTrust.Network.PolicyDecodingProofs

/-! # What the four artifacts of a bundle lead to

    Whoever signs, a signed body keeps the fields it was planned with, so each of
    the four artifacts leads to at most one cache call, and the call is about the
    bundle alone: the root's manifest lists the one authority, the authority's
    manifest the one issuer. -/

namespace BundlePublication

open JsonValue VerifierCache VerifierSync SyncAcceptance SigningCustody GovernancePublication
  GovernancePublicationSource SignedPublication GovernanceRoundTrip Fallible
open SignatureVerification (isSignatureMetadata)

variable {planning : PlanningHost} {signing : SigningHost} {root : String}

/-! ## Signed bodies, whoever signs -/

/-- What signing makes of an input. -/
theorem signPublicationInput_eq {input signed : ArtifactPublicationInput}
    {provider : SigningCustodyProvider} {identity : SigningIdentity}
    (h : signPublicationInput input (makeTrustArtifactSigner signing provider) identity
      = .ok signed) :
    ∃ signature, signed = { input with
      body := signatureAlignedPublicationBody
        (signedBody (unsignedBody input.body identity) signature) } := by
  obtain ⟨result, hresult, h⟩ := bind_eq_ok_iff.mp h
  obtain ⟨answer, -, hresult⟩ := bind_eq_ok_iff.mp hresult
  cases answer with
  | none => cases hresult
  | some signature =>
      obtain rfl := Except.ok.inj hresult
      obtain rfl := Except.ok.inj h
      exact ⟨signature, rfl⟩

/-- Realigning the publication changes no other field. -/
theorem prop_aligned {fields : List (String × JsonValue)} (h : Distinct (obj fields))
    {key : String} (hne : key ≠ "publication") :
    (signatureAlignedPublicationBody (obj fields)).prop key = (obj fields).prop key := by
  rw [signatureAlignedPublicationBody]
  split
  · rw [prop_withField h, if_neg hne]
  · rfl

/-- The fields of a signed body that no signature touches. -/
theorem prop_signedInput {input signed : ArtifactPublicationInput}
    {provider : SigningCustodyProvider} {identity : SigningIdentity}
    (hbody : Publishable input.body identity.signedBy)
    (h : signPublicationInput input (makeTrustArtifactSigner signing provider) identity
      = .ok signed) {key : String}
    (hcovered : isSignatureMetadata key = false) (hpublication : key ≠ "publication") :
    signed.body.prop key
      = if key = "signed_by" then some (.str identity.signedBy)
        else if key = "root_program_id" then some (.str identity.rootProgramId)
        else if key = "delegated_authority_id" then
          ((JsString.truthy identity.delegatedAuthorityId).map JsonValue.str).or
            (input.body.prop key)
        else input.body.prop key := by
  obtain ⟨signature, rfl⟩ := signPublicationInput_eq h
  obtain ⟨_, hprop, -⟩ := hbody.publication
  obtain ⟨fields, hfields⟩ := exists_obj_of_prop hprop
  have hdistinct : Distinct (obj fields) := hfields ▸ hbody.distinct
  have hunsigned := publishable_unsignedBody hbody
  obtain ⟨_, hprop', -⟩ := hunsigned.publication
  obtain ⟨fields', hfields'⟩ := exists_obj_of_prop hprop'
  have hdistinct' : Distinct (obj fields') := hfields' ▸ hunsigned.distinct
  obtain ⟨fields'', hfields'', hdistinct''⟩ :=
    exists_withStrings hdistinct' (signatureFields signature)
  show (signatureAlignedPublicationBody (signedBody (unsignedBody input.body identity)
    signature)).prop key = _
  rw [hfields', signedBody_eq, hfields'', prop_aligned hdistinct'' hpublication, ← hfields'',
    ← signedBody_eq, prop_signedBody hdistinct' signature key hcovered, ← hfields', hfields,
    prop_unsignedBody hdistinct]

/-- A planned field that neither the signature nor the identity writes. -/
theorem prop_planned {input signed : ArtifactPublicationInput}
    {provider : SigningCustodyProvider} {identity : SigningIdentity}
    (hbody : Publishable input.body identity.signedBy)
    (h : signPublicationInput input (makeTrustArtifactSigner signing provider) identity
      = .ok signed) {body value : JsonValue} (hplanned : body = input.body) {key : String}
    (hcovered : isSignatureMetadata key = false)
    (hkey : key ∉ ["publication", "signed_by", "root_program_id", "delegated_authority_id"])
    (hprop : body.prop key = some value) : signed.body.prop key = some value := by
  simp only [List.mem_cons, List.not_mem_nil, or_false, not_or] at hkey
  obtain ⟨hpublication, hsigner, hroot, hauthority⟩ := hkey
  rw [prop_signedInput hbody h hcovered hpublication, if_neg hsigner, if_neg hroot,
    if_neg hauthority, ← hplanned, hprop]

/-- The four artifacts of a signed plan, each signed as its own identity. -/
theorem signed_inputs {plan signed : GovernancePublicationPlanArtifacts}
    {signer : TrustArtifactSigner} (h : signGovernancePublicationPlan plan signer = .ok signed) :
    signPublicationInput plan.rootManifest signer (manifestIdentity plan.rootManifest)
        = .ok signed.rootManifest
      ∧ signPublicationInput plan.delegatedAuthority signer
        (manifestIdentity plan.delegatedAuthority) = .ok signed.delegatedAuthority
      ∧ signPublicationInput plan.issuerRecord signer (recordIdentity plan.issuerRecord)
        = .ok signed.issuerRecord
      ∧ signPublicationInput plan.destinationPolicy signer (recordIdentity plan.destinationPolicy)
        = .ok signed.destinationPolicy := by
  obtain ⟨_, hroot, h⟩ := bind_eq_ok_iff.mp h
  obtain ⟨_, hauthority, h⟩ := bind_eq_ok_iff.mp h
  obtain ⟨_, hrecord, h⟩ := bind_eq_ok_iff.mp h
  obtain ⟨_, hpolicy, h⟩ := bind_eq_ok_iff.mp h
  obtain rfl := Except.ok.inj h
  exact ⟨hroot, hauthority, hrecord, hpolicy⟩

/-! ## What the entries of a manifest say -/

theorem delegatedAuthorityManifestEntry_eq {value : JsonValue} {entry : ManifestEntry}
    (h : delegatedAuthorityManifestEntry value = some entry) :
    value.stringField "delegated_authority_id" = some entry.id
      ∧ statusField value "status" = some entry.status := by
  obtain ⟨id, hid, h⟩ := Option.bind_eq_some_iff.mp h
  obtain ⟨_, -, h⟩ := Option.bind_eq_some_iff.mp h
  obtain ⟨_, -, h⟩ := Option.bind_eq_some_iff.mp h
  obtain ⟨status, hstatus, h⟩ := Option.bind_eq_some_iff.mp h
  obtain rfl := Option.some.inj h
  exact ⟨hid, hstatus⟩

theorem enrolledIssuerManifestEntry_eq {value : JsonValue} {entry : ManifestEntry}
    (h : enrolledIssuerManifestEntry value = some entry) :
    value.stringField "issuer_id" = some entry.id
      ∧ statusField value "status" = some entry.status := by
  obtain ⟨id, hid, h⟩ := Option.bind_eq_some_iff.mp h
  obtain ⟨_, -, h⟩ := Option.bind_eq_some_iff.mp h
  obtain ⟨_, -, h⟩ := Option.bind_eq_some_iff.mp h
  obtain ⟨status, hstatus, h⟩ := Option.bind_eq_some_iff.mp h
  obtain rfl := Option.some.inj h
  exact ⟨hid, hstatus⟩

theorem issuerDestinationPolicyRef_eq {value : JsonValue} {entry : ManifestEntry}
    (h : issuerDestinationPolicyRef value = some entry) :
    value.stringField "destination_policy_id" = some entry.id
      ∧ statusField value "status" = some entry.status := by
  obtain ⟨id, hid, h⟩ := Option.bind_eq_some_iff.mp h
  obtain ⟨_, -, h⟩ := Option.bind_eq_some_iff.mp h
  obtain ⟨status, hstatus, h⟩ := Option.bind_eq_some_iff.mp h
  obtain rfl := Option.some.inj h
  exact ⟨hid, hstatus⟩

theorem rootManifest_reads {body : JsonValue} {manifest : RootManifestArtifactBody}
    (h : rootManifestArtifactBody body = some manifest) :
    body.stringField "root_program_id" = some manifest.rootProgramId
      ∧ ∃ authorities, body.arrayField "delegated_authorities" = some authorities
        ∧ authorities.mapM delegatedAuthorityManifestEntry = some manifest.delegatedAuthorities := by
  simp only [rootManifestArtifactBody, Option.bind_eq_bind, Option.bind_eq_some_iff] at h
  obtain ⟨_, -, _, -, root, hroot, _, -, _, -, _, -, _, -, _, -, _, -, authorities, hauthorities,
    entries, hentries, _, -, _, -, h⟩ := h
  obtain rfl := Option.some.inj h
  exact ⟨hroot, authorities, hauthorities, hentries⟩

theorem authorityManifest_reads {body : JsonValue}
    {manifest : DelegatedAuthorityManifestArtifactBody}
    (h : delegatedAuthorityManifestArtifactBody body = some manifest) :
    body.stringField "root_program_id" = some manifest.rootProgramId
      ∧ body.stringField "delegated_authority_id" = some manifest.delegatedAuthorityId
      ∧ ∃ issuers, body.arrayField "enrolled_issuers" = some issuers
        ∧ issuers.mapM enrolledIssuerManifestEntry = some manifest.enrolledIssuers := by
  simp only [delegatedAuthorityManifestArtifactBody, Option.bind_eq_bind,
    Option.bind_eq_some_iff] at h
  obtain ⟨_, -, _, -, root, hroot, authority, hauthority, _, -, _, -, _, -, _, -, _, -, _, -, _, -,
    issuers, hissuers, entries, hentries, _, -, _, -, h⟩ := h
  obtain rfl := Option.some.inj h
  exact ⟨hroot, hauthority, issuers, hissuers, hentries⟩

theorem issuerRecord_reads {body : JsonValue} {record : IssuerRecordArtifactBody}
    (h : issuerRecordArtifactBody body = some record) :
    (∃ ns, body.prop "issuer_namespace" = some ns
        ∧ ns.stringField "root_program_id" = some record.issuerNamespace.rootProgramId
        ∧ ns.stringField "delegated_authority_id"
          = some record.issuerNamespace.delegatedAuthorityId
        ∧ ns.stringField "issuer_id" = some record.issuerNamespace.issuerId)
      ∧ ∃ policies, body.arrayField "destination_policies" = some policies
        ∧ policies.mapM issuerDestinationPolicyRef = some record.destinationPolicies := by
  obtain ⟨_, -, h⟩ := Option.bind_eq_some_iff.mp h
  obtain ⟨ns, hns, h⟩ := Option.bind_eq_some_iff.mp h
  obtain ⟨root, hroot, h⟩ := Option.bind_eq_some_iff.mp h
  obtain ⟨authority, hauthority, h⟩ := Option.bind_eq_some_iff.mp h
  obtain ⟨issuer, hissuer, h⟩ := Option.bind_eq_some_iff.mp h
  obtain ⟨_, -, h⟩ := Option.bind_eq_some_iff.mp h
  obtain ⟨_, -, h⟩ := Option.bind_eq_some_iff.mp h
  obtain ⟨_, -, h⟩ := Option.bind_eq_some_iff.mp h
  obtain ⟨policies, hpolicies, h⟩ := Option.bind_eq_some_iff.mp h
  obtain ⟨entries, hentries, h⟩ := Option.bind_eq_some_iff.mp h
  obtain ⟨_, -, h⟩ := Option.bind_eq_some_iff.mp h
  obtain ⟨_, -, h⟩ := Option.bind_eq_some_iff.mp h
  obtain ⟨_, -, h⟩ := Option.bind_eq_some_iff.mp h
  obtain ⟨_, -, h⟩ := Option.bind_eq_some_iff.mp h
  obtain ⟨_, -, h⟩ := Option.bind_eq_some_iff.mp h
  obtain ⟨_, -, h⟩ := Option.bind_eq_some_iff.mp h
  obtain ⟨_, -, h⟩ := Option.bind_eq_some_iff.mp h
  obtain rfl := Option.some.inj h
  exact ⟨⟨ns, hns, hroot, hauthority, hissuer⟩, policies, hpolicies, hentries⟩

/-- A list of one entry decodes to one entry. -/
theorem mapM_singleton {decode : JsonValue → Option ManifestEntry} {value : JsonValue}
    {entries : List ManifestEntry} (h : [value].mapM decode = some entries) :
    ∃ entry, decode value = some entry ∧ entries = [entry] := by
  rw [List.mapM_cons, List.mapM_nil] at h
  obtain ⟨entry, hentry, h⟩ := Option.bind_eq_some_iff.mp h
  exact ⟨entry, hentry, (Option.some.inj h).symm⟩

/-- The ids that a manifest with one active entry lists as active. -/
theorem activeIds_singleton {entry : ManifestEntry} (h : entry.status = .active) :
    ([entry].filter (·.status = .active)).map ManifestEntry.id = [entry.id] := by
  simp [h]

theorem arrayField_of_prop {value : JsonValue} {key : String} {items : List JsonValue}
    (h : value.prop key = some (.arr items)) : value.arrayField key = some items := by
  rw [arrayField, h]
  rfl

/-! ## The four signed bodies -/

/-- The projection of a row is of the row's own bundle. -/
theorem projection_ids {row : PostgresGovernancePublicationBundleRow} {occurredAt : Rat}
    {policy : DestinationPolicyOfRow}
    (h : destinationPolicyProjectionFromRow planning row occurredAt = .ok policy) :
    policy.ns = namespaceFromRow row ∧ policy.destinationPolicyId = row.destinationPolicyId
      ∧ Distinct policy.redirectPolicy := by
  obtain ⟨_, -, h⟩ := bind_eq_ok_iff.mp h
  obtain ⟨_, -, h⟩ := bind_eq_ok_iff.mp h
  obtain ⟨redirect, hredirect, h⟩ := bind_eq_ok_iff.mp h
  obtain ⟨_, -, h⟩ := bind_eq_ok_iff.mp h
  obtain rfl := Except.ok.inj h
  exact ⟨rfl, rfl, distinct_redirectPolicy hredirect⟩

variable (p : Publication planning signing root)

theorem rootManifest_fields :
    hasArtifactType p.signed.rootManifest.body "root_manifest" = true
      ∧ p.signed.rootManifest.body.stringField "root_program_id" = some root
      ∧ ∃ fields, p.signed.rootManifest.body.prop "delegated_authorities" = some (.arr [.obj fields])
        ∧ (obj fields).stringField "delegated_authority_id" = some p.row.delegatedAuthorityId
        ∧ statusField (obj fields) "status" = some .active := by
  obtain ⟨_, ids, -, hbody, -, -, -, hidentity, -⟩ := plan_bodies p.planned
  obtain ⟨hpublish, -⟩ := rootManifest_publishable hbody
  obtain ⟨hsigned, -⟩ := signed_inputs p.signs
  rw [hidentity] at hsigned
  obtain ⟨publication, -, hbody⟩ := bind_eq_ok_iff.mp hbody
  have hplanned := Except.ok.inj hbody
  refine ⟨?_, stringField_of_prop ?_, _,
    prop_planned hpublish hsigned hplanned (by decide) (by decide) rfl, rfl, rfl⟩
  · exact decide_eq_true (stringField_of_prop
      (prop_planned hpublish hsigned hplanned (by decide) (by decide) rfl))
  · rw [prop_signedInput hpublish hsigned (by decide) (by decide), if_neg (by decide), if_pos rfl,
      p.inProgram]

theorem delegatedAuthority_fields :
    hasArtifactType p.signed.delegatedAuthority.body "delegated_authority_manifest" = true
      ∧ p.signed.delegatedAuthority.body.stringField "root_program_id" = some root
      ∧ p.signed.delegatedAuthority.body.stringField "delegated_authority_id"
        = some p.row.delegatedAuthorityId
      ∧ ∃ fields, p.signed.delegatedAuthority.body.prop "enrolled_issuers"
          = some (.arr [.obj fields])
        ∧ (obj fields).stringField "issuer_id" = some p.row.issuerId
        ∧ statusField (obj fields) "status" = some .active := by
  obtain ⟨_, ids, -, -, hbody, -, -, -, hidentity, -⟩ := plan_bodies p.planned
  obtain ⟨hpublish, -, hnamed, -⟩ := authorityManifest_publishable hbody
  obtain ⟨-, hsigned, -⟩ := signed_inputs p.signs
  rw [hidentity] at hsigned
  obtain ⟨publication, -, hbody⟩ := bind_eq_ok_iff.mp hbody
  have hplanned := Except.ok.inj hbody
  refine ⟨?_, stringField_of_prop ?_, stringField_of_prop ?_, _,
    prop_planned hpublish hsigned hplanned (by decide) (by decide) rfl, rfl, rfl⟩
  · exact decide_eq_true (stringField_of_prop
      (prop_planned hpublish hsigned hplanned (by decide) (by decide) rfl))
  · rw [prop_signedInput hpublish hsigned (by decide) (by decide), if_neg (by decide), if_pos rfl,
      p.inProgram]
  · rw [prop_signedInput hpublish hsigned (by decide) (by decide), if_neg (by decide),
      if_neg (by decide), if_pos rfl, hnamed]
    rfl

theorem issuerRecord_fields :
    hasArtifactType p.signed.issuerRecord.body "issuer_record" = true
      ∧ (∃ fields, p.signed.issuerRecord.body.prop "issuer_namespace" = some (.obj fields)
        ∧ (obj fields).stringField "root_program_id" = some root
        ∧ (obj fields).stringField "delegated_authority_id" = some p.row.delegatedAuthorityId
        ∧ (obj fields).stringField "issuer_id" = some p.row.issuerId)
      ∧ ∃ fields, p.signed.issuerRecord.body.prop "destination_policies"
          = some (.arr [.obj fields])
        ∧ (obj fields).stringField "destination_policy_id" = some p.row.destinationPolicyId
        ∧ statusField (obj fields) "status" = some .active := by
  obtain ⟨_, ids, -, -, -, hbody, -, -, -, hidentity, -⟩ := plan_bodies p.planned
  obtain ⟨hpublish, -⟩ := issuerRecord_publishable hbody
  obtain ⟨-, -, hsigned, -⟩ := signed_inputs p.signs
  rw [hidentity] at hsigned
  obtain ⟨publication, -, hbody⟩ := bind_eq_ok_iff.mp hbody
  have hplanned := Except.ok.inj hbody
  refine ⟨?_, ⟨_, prop_planned hpublish hsigned hplanned (by decide) (by decide) rfl,
    congrArg some p.inProgram, rfl, rfl⟩, _,
    prop_planned hpublish hsigned hplanned (by decide) (by decide) rfl, rfl, rfl⟩
  exact decide_eq_true (stringField_of_prop
    (prop_planned hpublish hsigned hplanned (by decide) (by decide) rfl))

theorem destinationPolicy_fields :
    hasArtifactType p.signed.destinationPolicy.body "destination_policy" = true
      ∧ p.signed.destinationPolicy.body.prop "root_program_id" = some (.str root)
      ∧ p.signed.destinationPolicy.body.prop "delegated_authority_id"
        = some (.str p.row.delegatedAuthorityId)
      ∧ p.signed.destinationPolicy.body.prop "issuer_id" = some (.str p.row.issuerId)
      ∧ p.signed.destinationPolicy.body.prop "destination_policy_id"
        = some (.str p.row.destinationPolicyId) := by
  obtain ⟨policy, hpolicy, h⟩ := bind_eq_ok_iff.mp p.planned
  obtain ⟨_, -, h⟩ := bind_eq_ok_iff.mp h
  obtain ⟨_, -, h⟩ := bind_eq_ok_iff.mp h
  obtain ⟨_, -, h⟩ := bind_eq_ok_iff.mp h
  obtain ⟨body, hbody, h⟩ := bind_eq_ok_iff.mp h
  have hplan : body = p.plan.destinationPolicy.body := by
    rw [← Except.ok.inj h]
  obtain ⟨hns, hid, hredirect⟩ := projection_ids hpolicy
  obtain ⟨_, _, -, -, -, -, -, -, -, -, hidentity⟩ := plan_bodies p.planned
  obtain ⟨hpublish, -⟩ := destinationPolicy_publishable hredirect hbody
  obtain ⟨-, -, -, hsigned⟩ := signed_inputs p.signs
  rw [hns, hplan] at hpublish
  rw [hidentity] at hsigned
  obtain ⟨publication, -, hbody⟩ := bind_eq_ok_iff.mp hbody
  have hplanned := (Except.ok.inj hbody).trans hplan
  rw [hns, hid] at hplanned
  have htype : p.signed.destinationPolicy.body.prop "artifact_type"
      = some (.str "destination_policy") :=
    prop_planned hpublish hsigned hplanned (by decide) (by decide) rfl
  refine ⟨decide_eq_true (stringField_of_prop htype), ?_, ?_,
    prop_planned hpublish hsigned hplanned (by decide) (by decide) rfl,
    prop_planned hpublish hsigned hplanned (by decide) (by decide) rfl⟩
  · rw [prop_signedInput hpublish hsigned (by decide) (by decide), if_neg (by decide), if_pos rfl,
      p.inProgram]
  · rw [prop_signedInput hpublish hsigned (by decide) (by decide), if_neg (by decide),
      if_neg (by decide), if_pos rfl, truthy_delegatedAuthorityId]
    rfl

/-! ## The calls of the four bodies -/

section Calls

variable {service : SyncService} {event : NetworkEvent} {call : CacheCall}

theorem calls_rootManifest
    (h : call ∈ projectionCalls service p.signed.rootManifest.body event) :
    call = .upsertRootAuthorityContext ⟨root, [p.row.delegatedAuthorityId]⟩ := by
  obtain ⟨htype, hroot, fields, hlisted, hid, hstatus⟩ := rootManifest_fields p
  rcases mem_projectionCalls.mp h with ⟨context, hcontext, rfl⟩ | ⟨_, hother, -⟩ | ⟨_, hother, -⟩
    | ⟨_, hother, -⟩ | ⟨_, hother, -⟩
  · obtain ⟨manifest, hmanifest, rfl⟩ := Option.map_eq_some_iff.mp hcontext
    obtain ⟨hmanifestRoot, authorities, hauthorities, hentries⟩ := rootManifest_reads hmanifest
    obtain rfl := Option.some.inj (hauthorities.symm.trans (arrayField_of_prop hlisted))
    obtain ⟨entry, hentry, hall⟩ := mapM_singleton hentries
    obtain ⟨hentryId, hentryStatus⟩ := delegatedAuthorityManifestEntry_eq hentry
    rw [hall, activeIds_singleton (Option.some.inj (hentryStatus.symm.trans hstatus)),
      Option.some.inj (hentryId.symm.trans hid), Option.some.inj (hmanifestRoot.symm.trans hroot)]
  · rw [delegatedAuthorityIssuerContextFromArtifact, authorityManifest_none htype (by decide)]
      at hother
    cases hother
  · rw [issuerProjectionFromArtifact, issuerRecord_none htype (by decide)] at hother
    cases hother
  · rw [policy_none htype (by decide)] at hother
    cases hother
  · rw [statusCalls_none htype (by decide) (by decide)] at hother
    cases hother

theorem calls_delegatedAuthority
    (h : call ∈ projectionCalls service p.signed.delegatedAuthority.body event) :
    call = .upsertDelegatedAuthorityIssuerContext
      ⟨root, p.row.delegatedAuthorityId, [p.row.issuerId]⟩ := by
  obtain ⟨htype, hroot, hauthority, fields, hlisted, hid, hstatus⟩ := delegatedAuthority_fields p
  rcases mem_projectionCalls.mp h with ⟨_, hother, -⟩ | ⟨context, hcontext, rfl⟩ | ⟨_, hother, -⟩
    | ⟨_, hother, -⟩ | ⟨_, hother, -⟩
  · rw [rootAuthorityContextFromArtifact, rootManifest_none htype (by decide)] at hother
    cases hother
  · obtain ⟨manifest, hmanifest, rfl⟩ := Option.map_eq_some_iff.mp hcontext
    obtain ⟨hmanifestRoot, hmanifestAuthority, issuers, hissuers, hentries⟩ :=
      authorityManifest_reads hmanifest
    obtain rfl := Option.some.inj (hissuers.symm.trans (arrayField_of_prop hlisted))
    obtain ⟨entry, hentry, hall⟩ := mapM_singleton hentries
    obtain ⟨hentryId, hentryStatus⟩ := enrolledIssuerManifestEntry_eq hentry
    rw [hall, activeIds_singleton (Option.some.inj (hentryStatus.symm.trans hstatus)),
      Option.some.inj (hentryId.symm.trans hid), Option.some.inj (hmanifestRoot.symm.trans hroot),
      Option.some.inj (hmanifestAuthority.symm.trans hauthority)]
  · rw [issuerProjectionFromArtifact, issuerRecord_none htype (by decide)] at hother
    cases hother
  · rw [policy_none htype (by decide)] at hother
    cases hother
  · rw [statusCalls_none htype (by decide) (by decide)] at hother
    cases hother

/-- A namespace with the ids of the row is the bundle's. -/
theorem ns_eq {ns : IssuerNamespace} (hroot : ns.rootProgramId = root)
    (hauthority : ns.delegatedAuthorityId = p.row.delegatedAuthorityId)
    (hissuer : ns.issuerId = p.row.issuerId) : ns = p.bundle.ns := by
  obtain ⟨_, _, _⟩ := ns
  rw [← p.inProgram] at hroot
  obtain rfl := hroot
  obtain rfl := hauthority
  obtain rfl := hissuer
  rfl

theorem calls_issuerRecord
    (h : call ∈ projectionCalls service p.signed.issuerRecord.body event) :
    ∃ projection, call = .upsertIssuer projection ∧ projection.ns = p.bundle.ns
      ∧ projection.destinationPolicyId = p.bundle.destinationPolicyId := by
  obtain ⟨htype, ⟨ns, hns, hroot, hauthority, hissuer⟩, fields, hlisted, hid, hstatus⟩ :=
    issuerRecord_fields p
  rcases mem_projectionCalls.mp h with ⟨_, hother, -⟩ | ⟨_, hother, -⟩
    | ⟨projection, hprojection, rfl⟩ | ⟨_, hother, -⟩ | ⟨_, hother, -⟩
  · rw [rootAuthorityContextFromArtifact, rootManifest_none htype (by decide)] at hother
    cases hother
  · rw [delegatedAuthorityIssuerContextFromArtifact, authorityManifest_none htype (by decide)]
      at hother
    cases hother
  · obtain ⟨record, hrecord, hprojection⟩ := Option.bind_eq_some_iff.mp hprojection
    obtain ⟨_, -, hprojection⟩ := Option.bind_eq_some_iff.mp hprojection
    obtain ⟨_, -, hprojection⟩ := Option.bind_eq_some_iff.mp hprojection
    obtain ⟨first, hfirst, hprojection⟩ := Option.bind_eq_some_iff.mp hprojection
    obtain rfl := Option.some.inj hprojection
    obtain ⟨⟨ns', hns', hroot', hauthority', hissuer'⟩, policies, hpolicies, hentries⟩ :=
      issuerRecord_reads hrecord
    obtain rfl := Option.some.inj (hns'.symm.trans hns)
    obtain rfl := Option.some.inj (hpolicies.symm.trans (arrayField_of_prop hlisted))
    obtain ⟨entry, hentry, hall⟩ := mapM_singleton hentries
    obtain ⟨hentryId, -⟩ := issuerDestinationPolicyRef_eq hentry
    rw [hall] at hfirst
    obtain rfl := List.mem_singleton.mp (List.mem_of_find?_eq_some hfirst)
    refine ⟨_, rfl, ?_, Option.some.inj (hentryId.symm.trans hid)⟩
    exact ns_eq p (Option.some.inj (hroot'.symm.trans hroot))
      (Option.some.inj (hauthority'.symm.trans hauthority))
      (Option.some.inj (hissuer'.symm.trans hissuer))
  · rw [policy_none htype (by decide)] at hother
    cases hother
  · rw [statusCalls_none htype (by decide) (by decide)] at hother
    cases hother

/-- A scope field of the body is what the projection takes. -/
theorem scopeValue_of_prop {body : JsonValue} {fallback : Option String} {field s value : String}
    (hbody : body.prop field = some (.str s))
    (h : PolicyDecoding.scopeValue body fallback field = .ok value) : value = s := by
  have hnonNull : body.nonNull field = some (.str s) := by
    rw [nonNull, hbody]
  rw [PolicyDecoding.scopeValue, hnonNull] at h
  obtain ⟨hvalue, -⟩ := PolicyDecodingProofs.stringValue_ok h
  exact (JsonValue.str.inj (Option.some.inj hvalue)).symm

theorem calls_destinationPolicy
    (h : call ∈ projectionCalls service p.signed.destinationPolicy.body event) :
    ∃ policy, call = .upsertDestinationPolicy policy ∧ policy.ns = p.bundle.ns
      ∧ policy.destinationPolicyId = p.bundle.destinationPolicyId := by
  obtain ⟨htype, hroot, hauthority, hissuer, hid⟩ := destinationPolicy_fields p
  rcases mem_projectionCalls.mp h with ⟨_, hother, -⟩ | ⟨_, hother, -⟩ | ⟨_, hother, -⟩
    | ⟨policy, hpolicy, rfl⟩ | ⟨_, hother, -⟩
  · rw [rootAuthorityContextFromArtifact, rootManifest_none htype (by decide)] at hother
    cases hother
  · rw [delegatedAuthorityIssuerContextFromArtifact, authorityManifest_none htype (by decide)]
      at hother
    cases hother
  · rw [issuerProjectionFromArtifact, issuerRecord_none htype (by decide)] at hother
    cases hother
  · obtain ⟨body, hbody, h⟩ := bind_eq_ok_iff.mp (SyncGate.projectedPolicy_eq_some hpolicy).2
    obtain rfl := Option.some.inj (PolicyDecodingProofs.objectValue_ok hbody)
    obtain ⟨_, -, h⟩ := bind_eq_ok_iff.mp h
    obtain ⟨_, -, h⟩ := bind_eq_ok_iff.mp h
    obtain ⟨_, -, h⟩ := bind_eq_ok_iff.mp h
    obtain ⟨_, hroot', h⟩ := bind_eq_ok_iff.mp h
    obtain ⟨_, hauthority', h⟩ := bind_eq_ok_iff.mp h
    obtain ⟨_, hissuer', h⟩ := bind_eq_ok_iff.mp h
    obtain ⟨_, -, h⟩ := bind_eq_ok_iff.mp h
    obtain ⟨_, hid', h⟩ := bind_eq_ok_iff.mp h
    obtain ⟨_, -, h⟩ := bind_eq_ok_iff.mp h
    obtain ⟨_, -, h⟩ := bind_eq_ok_iff.mp h
    obtain rfl := Except.ok.inj h
    exact ⟨_, rfl, ns_eq p (scopeValue_of_prop hroot hroot')
      (scopeValue_of_prop hauthority hauthority') (scopeValue_of_prop hissuer hissuer'),
      scopeValue_of_prop hid hid'⟩
  · rw [statusCalls_none htype (by decide) (by decide)] at hother
    cases hother

end Calls

end BundlePublication
