import Mathlib.Data.List.Lex
import QrTrust.Lib.Fallible
import QrTrust.Network.CacheMaterialization
import QrTrust.Network.PolicyDecodingProofs

/-! # What a materialization has checked

    Each group of checks of `materializeVerifierCacheEntryUnsafe` passes
    exactly when one statement about the decoded bodies holds; a materialized
    entry comes from five bodies of which all these statements hold, and its
    report is a function of them. -/

namespace CacheMaterialization

open VerifierCache ArtifactPublication Fallible
open PolicyDecodingProofs (stringValue_ok objectValue_ok stringField_eq_some)

variable {host : MaterializationHost} {input : VerifierCacheMaterializationInput}
  {root : RootManifestBody} {authority : DelegatedAuthorityBody}
  {record : IssuerRecordBody} {policy : DestinationPolicyBody} {event : StatusEventBody}

/-! ## Single checks -/

theorem requireEqual_eq_ok_iff {actual : Option String} {expected message : String}
    {u : Unit} : requireEqual actual expected message = .ok u ↔ actual = some expected := by
  unfold requireEqual
  by_cases h : actual = some expected
  · rw [if_pos h]
    exact ⟨fun _ => h, fun _ => rfl⟩
  · rw [if_neg h]
    exact ⟨fun hok => (nomatch hok), fun heq => absurd heq h⟩

theorem requireTruthy_eq_ok_iff {α : Type} {value : Option α} {message : String} {a : α} :
    requireTruthy value message = .ok a ↔ value = some a := by
  cases value with
  | none => exact ⟨fun hok => (nomatch hok), fun heq => (nomatch heq)⟩
  | some b =>
      constructor
      · intro hok
        exact congrArg some (Except.ok.inj hok)
      · intro heq
        exact congrArg Except.ok (Option.some.inj heq)

theorem requireRefMatchesArtifact_eq_ok_iff {artifactRef artifactId label : String}
    {u : Unit} :
    requireRefMatchesArtifact artifactRef artifactId label = .ok u
      ↔ artifactRef = artifactId := by
  unfold requireRefMatchesArtifact
  by_cases h : artifactRef = artifactId
  · rw [if_pos h]
    exact ⟨fun _ => h, fun _ => rfl⟩
  · rw [if_neg h]
    exact ⟨fun hok => (nomatch hok), fun heq => absurd heq h⟩

theorem LifecycleStatus.text_eq_active {status : LifecycleStatus} :
    status.text = "active" ↔ status = .active := by
  cases status <;> decide

theorem CertificateStatus.text_eq_active {status : CertificateStatus} :
    status.text = "active" ↔ status = .active := by
  cases status <;> decide

/-! ## Groups of checks -/

/-- All parts of a chain name one root program and one authority, and the
    record, the policy and the event one issuer. -/
structure OneNamespace (root : RootManifestBody) (authority : DelegatedAuthorityBody)
    (record : IssuerRecordBody) (policy : DestinationPolicyBody)
    (event : StatusEventBody) : Prop where
  authorityRoot : authority.rootProgramId = root.rootProgramId
  recordRoot : record.issuerNamespace.rootProgramId = root.rootProgramId
  recordAuthority :
    record.issuerNamespace.delegatedAuthorityId = authority.delegatedAuthorityId
  policyScope : ⟨policy.rootProgramId, policy.delegatedAuthorityId, policy.issuerId⟩
    = record.issuerNamespace
  eventRoot : event.rootProgramId = record.issuerNamespace.rootProgramId
  eventAuthority : event.delegatedAuthorityId = record.issuerNamespace.delegatedAuthorityId

theorem requireOneNamespace_eq_ok_iff {u : Unit} :
    requireOneNamespace root authority record policy event = .ok u
      ↔ OneNamespace root authority record policy event := by
  unfold requireOneNamespace
  simp only [bind_eq_ok_iff, requireEqual_eq_ok_iff, Option.some.injEq, exists_and_left,
    exists_const]
  constructor
  · rintro ⟨h1, h2, h3, h4, h5, h6, h7, h8⟩
    exact ⟨h1, h2, h3, by rw [h4, h5, h6], h7, h8⟩
  · rintro ⟨h1, h2, h3, h456, h7, h8⟩
    rw [← h456] at h2 h3 h7 h8 ⊢
    exact ⟨h1, h2, h3, rfl, rfl, rfl, h7, h8⟩

/-- The root manifest's entry for the authority is active and refers to the
    manifest with that id. -/
def Delegates (root : RootManifestBody) (authority : DelegatedAuthorityBody)
    (artifactId : String) : Prop :=
  ∃ entry, (root.delegatedAuthorities.find? fun entry =>
      entry.delegatedAuthorityId = authority.delegatedAuthorityId) = some entry
    ∧ entry.status = .active ∧ entry.manifestRef = artifactId

theorem requireDelegation_eq_ok_iff {artifactId : String} {u : Unit} :
    requireDelegation root authority artifactId = .ok u
      ↔ Delegates root authority artifactId := by
  unfold requireDelegation Delegates
  simp only [bind_eq_ok_iff, requireTruthy_eq_ok_iff, requireEqual_eq_ok_iff,
    Option.some.injEq, LifecycleStatus.text_eq_active,
    requireRefMatchesArtifact_eq_ok_iff, exists_and_left, exists_const]

/-- The authority's entry for the issuer is active and refers to the record with
    that id. -/
def Enrolls (authority : DelegatedAuthorityBody) (record : IssuerRecordBody)
    (artifactId : String) : Prop :=
  ∃ entry, (authority.enrolledIssuers.find? fun entry =>
      entry.issuerId = record.issuerNamespace.issuerId) = some entry
    ∧ entry.status = .active ∧ entry.issuerRecordRef = artifactId

theorem requireEnrollment_eq_ok_iff {artifactId : String} {u : Unit} :
    requireEnrollment authority record artifactId = .ok u
      ↔ Enrolls authority record artifactId := by
  unfold requireEnrollment Enrolls
  simp only [bind_eq_ok_iff, requireTruthy_eq_ok_iff, requireEqual_eq_ok_iff,
    Option.some.injEq, LifecycleStatus.text_eq_active,
    requireRefMatchesArtifact_eq_ok_iff, exists_and_left, exists_const]

theorem requireActiveRecord_eq_ok_iff {u : Unit} :
    requireActiveRecord record = .ok u
      ↔ record.status.issuerStatus = .active ∧ record.status.certificateStatus = .active := by
  unfold requireActiveRecord
  simp only [bind_eq_ok_iff, requireEqual_eq_ok_iff, Option.some.injEq,
    LifecycleStatus.text_eq_active, CertificateStatus.text_eq_active, exists_and_left,
    exists_const]

/-- The record's entry for the policy is active and refers to the policy with
    that id. -/
def References (record : IssuerRecordBody) (policy : DestinationPolicyBody)
    (artifactId : String) : Prop :=
  ∃ entry, (record.destinationPolicies.find? fun entry =>
      entry.destinationPolicyId = policy.destinationPolicyId) = some entry
    ∧ entry.status = .active ∧ entry.policyRef = artifactId

theorem requirePolicyReference_eq_ok_iff {artifactId : String} {u : Unit} :
    requirePolicyReference record policy artifactId = .ok u
      ↔ References record policy artifactId := by
  unfold requirePolicyReference References
  simp only [bind_eq_ok_iff, requireTruthy_eq_ok_iff, requireEqual_eq_ok_iff,
    Option.some.injEq, LifecycleStatus.text_eq_active,
    requireRefMatchesArtifact_eq_ok_iff, exists_and_left, exists_const]

/-- The event says of the record's issuer that it is active. -/
structure SpeaksFor (event : StatusEventBody) (record : IssuerRecordBody) : Prop where
  targetType : event.target.targetType = "issuer_record"
  issuer : event.target.issuerId = some record.issuerNamespace.issuerId
  active : event.status = .active

theorem requireStatusEvent_eq_ok_iff {u : Unit} :
    requireStatusEvent record event = .ok u ↔ SpeaksFor event record := by
  unfold requireStatusEvent
  simp only [bind_eq_ok_iff, requireEqual_eq_ok_iff, Option.some.injEq,
    CertificateStatus.text_eq_active, exists_and_left, exists_const]
  exact ⟨fun ⟨htype, hissuer, hactive⟩ => ⟨htype, hissuer, hactive⟩,
    fun h => ⟨h.targetType, h.issuer, h.active⟩⟩

/-! ## What the decoded bodies say -/

theorem recordBody_eq_ok {artifact : SignedArtifact} {expectedArtifactType : String}
    {body : JsonValue} (h : recordBody host artifact expectedArtifactType = .ok body) :
    body = artifact.body ∧ artifact.body.stringField "artifact_type" = some expectedArtifactType := by
  obtain ⟨record, hrecord, h⟩ := bind_eq_ok_iff.mp h
  obtain rfl := Option.some.inj (objectValue_ok hrecord)
  by_cases htype : artifact.body.stringField "artifact_type" = some expectedArtifactType
  · rw [if_pos htype] at h
    exact ⟨(Except.ok.inj h).symm, htype⟩
  · rw [if_neg htype] at h
    exact nomatch h

theorem requireString_reads {body : JsonValue} {key label s : String}
    (h : requireString (body.prop key) label = .ok s) :
    body.stringField key = some s ∧ s ≠ "" := by
  obtain ⟨hprop, hne⟩ := stringValue_ok h
  exact ⟨stringField_eq_some hprop, hne⟩

theorem rootManifestBody_reads (h : rootManifestBody host input.rootManifest = .ok root) :
    input.rootManifest.body.stringField "root_program_id" = some root.rootProgramId := by
  obtain ⟨body, hbody, h⟩ := bind_eq_ok_iff.mp h
  obtain ⟨rfl, -⟩ := recordBody_eq_ok hbody
  obtain ⟨rootProgramId, hroot, h⟩ := bind_eq_ok_iff.mp h
  repeat obtain ⟨_, -, h⟩ := bind_eq_ok_iff.mp h
  obtain rfl := Except.ok.inj h
  exact (requireString_reads hroot).1

/-- A body names a root program and a delegated authority of its own. -/
structure NamesScope (body : JsonValue) (rootProgramId delegatedAuthorityId : String) :
    Prop where
  root : body.stringField "root_program_id" = some rootProgramId
  authority : body.stringField "delegated_authority_id" = some delegatedAuthorityId

theorem delegatedAuthorityBody_reads
    (h : delegatedAuthorityBody host input.delegatedAuthorityManifest = .ok authority) :
    NamesScope input.delegatedAuthorityManifest.body authority.rootProgramId
      authority.delegatedAuthorityId := by
  obtain ⟨body, hbody, h⟩ := bind_eq_ok_iff.mp h
  obtain rfl := Option.some.inj (objectValue_ok hbody)
  dsimp only at h
  split at h
  · obtain ⟨rootProgramId, hroot, h⟩ := bind_eq_ok_iff.mp h
    obtain ⟨delegatedAuthorityId, hauthority, h⟩ := bind_eq_ok_iff.mp h
    repeat obtain ⟨_, -, h⟩ := bind_eq_ok_iff.mp h
    obtain rfl := Except.ok.inj h
    exact ⟨(requireString_reads hroot).1, (requireString_reads hauthority).1⟩
  · exact nomatch h

/-- A body names a root program and a delegated authority in its issuer
    namespace. -/
structure NamesIssuerScope (body : JsonValue) (rootProgramId delegatedAuthorityId : String) :
    Prop where
  root : (body.prop "issuer_namespace").bind (·.stringField "root_program_id")
    = some rootProgramId
  authority : (body.prop "issuer_namespace").bind (·.stringField "delegated_authority_id")
    = some delegatedAuthorityId

theorem issuerRecordBody_reads (h : issuerRecordBody host input.issuerRecord = .ok record) :
    NamesIssuerScope input.issuerRecord.body record.issuerNamespace.rootProgramId
      record.issuerNamespace.delegatedAuthorityId := by
  obtain ⟨body, hbody, h⟩ := bind_eq_ok_iff.mp h
  obtain ⟨rfl, -⟩ := recordBody_eq_ok hbody
  obtain ⟨ns, hns, h⟩ := bind_eq_ok_iff.mp h
  obtain ⟨_, -, h⟩ := bind_eq_ok_iff.mp h
  obtain ⟨rootProgramId, hroot, h⟩ := bind_eq_ok_iff.mp h
  obtain ⟨delegatedAuthorityId, hauthority, h⟩ := bind_eq_ok_iff.mp h
  obtain ⟨issuerId, -, h⟩ := bind_eq_ok_iff.mp h
  have hprop := objectValue_ok hns
  -- the other fields of the record do not matter here
  have hscope : record.issuerNamespace = ⟨rootProgramId, delegatedAuthorityId, issuerId⟩ := by
    repeat obtain ⟨_, -, h⟩ := bind_eq_ok_iff.mp h
    obtain rfl := Except.ok.inj h
    rfl
  rw [hscope]
  constructor
  · rw [hprop]
    exact (requireString_reads hroot).1
  · rw [hprop]
    exact (requireString_reads hauthority).1

theorem destinationPolicyBody_reads
    (h : destinationPolicyBody host input.destinationPolicy = .ok policy) :
    NamesScope input.destinationPolicy.body policy.rootProgramId
      policy.delegatedAuthorityId := by
  obtain ⟨body, hbody, h⟩ := bind_eq_ok_iff.mp h
  obtain ⟨rfl, -⟩ := recordBody_eq_ok hbody
  obtain ⟨_, -, h⟩ := bind_eq_ok_iff.mp h
  obtain ⟨rootProgramId, hroot, h⟩ := bind_eq_ok_iff.mp h
  obtain ⟨delegatedAuthorityId, hauthority, h⟩ := bind_eq_ok_iff.mp h
  have hscope : policy.rootProgramId = rootProgramId
      ∧ policy.delegatedAuthorityId = delegatedAuthorityId := by
    repeat obtain ⟨_, -, h⟩ := bind_eq_ok_iff.mp h
    obtain rfl := Except.ok.inj h
    exact ⟨rfl, rfl⟩
  rw [hscope.1, hscope.2]
  exact ⟨(requireString_reads hroot).1, (requireString_reads hauthority).1⟩

theorem statusEventBody_reads (h : statusEventBody host input.statusEvent = .ok event) :
    NamesScope input.statusEvent.body event.rootProgramId event.delegatedAuthorityId := by
  obtain ⟨body, hbody, h⟩ := bind_eq_ok_iff.mp h
  obtain ⟨rfl, -⟩ := recordBody_eq_ok hbody
  obtain ⟨_, -, h⟩ := bind_eq_ok_iff.mp h
  obtain ⟨rootProgramId, hroot, h⟩ := bind_eq_ok_iff.mp h
  obtain ⟨delegatedAuthorityId, hauthority, h⟩ := bind_eq_ok_iff.mp h
  repeat obtain ⟨_, -, h⟩ := bind_eq_ok_iff.mp h
  obtain rfl := Except.ok.inj h
  exact ⟨(requireString_reads hroot).1, (requireString_reads hauthority).1⟩

/-! ## The whole materialization -/

/-- The five artifacts of an input, decoded. -/
structure SourceChain (host : MaterializationHost)
    (input : VerifierCacheMaterializationInput) where
  root : RootManifestBody
  authority : DelegatedAuthorityBody
  record : IssuerRecordBody
  policy : DestinationPolicyBody
  event : StatusEventBody
  rootDecoded : rootManifestBody host input.rootManifest = .ok root
  authorityDecoded :
    delegatedAuthorityBody host input.delegatedAuthorityManifest = .ok authority
  recordDecoded : issuerRecordBody host input.issuerRecord = .ok record
  policyDecoded : destinationPolicyBody host input.destinationPolicy = .ok policy
  eventDecoded : statusEventBody host input.statusEvent = .ok event

namespace SourceChain

/-- The checks of the materialization hold of a chain. -/
structure Checked (chain : SourceChain host input) : Prop where
  oneNamespace :
    OneNamespace chain.root chain.authority chain.record chain.policy chain.event
  delegates :
    Delegates chain.root chain.authority input.delegatedAuthorityManifest.artifactId
  enrolls : Enrolls chain.authority chain.record input.issuerRecord.artifactId
  issuerActive : chain.record.status.issuerStatus = .active
  certificateActive : chain.record.status.certificateStatus = .active
  references : References chain.record chain.policy input.destinationPolicy.artifactId
  speaksFor : SpeaksFor chain.event chain.record

/-- The expiry times of a chain. -/
def expiries (chain : SourceChain host input) : List String :=
  chain.root.publication.validUntil
    :: expiryTimes chain.authority chain.record chain.policy chain.event

/-- The publication times of a chain, and the time its event takes effect. -/
def beginnings (chain : SourceChain host input) : List String :=
  chain.root.publication.publishedAt
    :: publishedTimes chain.authority chain.record chain.policy chain.event

/-- The earliest expiry, by the order of texts. -/
def cacheExpiresAt (chain : SourceChain host input) : String :=
  earliestIso chain.root.publication.validUntil
    (expiryTimes chain.authority chain.record chain.policy chain.event)

end SourceChain

theorem dateText_eq_ok_iff {date : Option Int} {text : String} :
    dateText host date = .ok text ↔ ∃ now, date = some now ∧ text = host.toISOString now := by
  cases date with
  | none => exact ⟨fun hok => (nomatch hok), fun ⟨_, hnone, _⟩ => (nomatch hnone)⟩
  | some now =>
      constructor
      · intro hok
        exact ⟨now, rfl, (Except.ok.inj hok).symm⟩
      · rintro ⟨t, ht, rfl⟩
        obtain rfl := Option.some.inj ht
        rfl

theorem materializeVerifierCacheEntry_eq_ok_iff
    {report : VerifierCacheMaterializationReport} :
    materializeVerifierCacheEntry host input = .ok report
      ↔ materializeVerifierCacheEntryUnsafe host input = .ok report := by
  unfold materializeVerifierCacheEntry
  cases materializeVerifierCacheEntryUnsafe host input with
  | error cause => exact ⟨fun hok => (nomatch hok), fun hok => (nomatch hok)⟩
  | ok r =>
      constructor
      · intro hok
        exact congrArg Except.ok (Except.ok.inj hok)
      · intro hok
        exact congrArg Except.ok (Except.ok.inj hok)

/-- **INVERSION**: an entry is materialized from a checked chain, at a valid
    date, under a certificate of the record. -/
theorem materialized_iff {report : VerifierCacheMaterializationReport} :
    materializeVerifierCacheEntry host input = .ok report
      ↔ ∃ (chain : SourceChain host input) (certificateRef : String) (now : Int),
        chain.Checked
        ∧ requireCertificateRef chain.record chain.event = .ok certificateRef
        ∧ input.materializedAt = some now
        ∧ report = {
            cacheEntry := cacheEntry host.js input chain.record chain.policy certificateRef
              (latestIso chain.root.publication.publishedAt
                (publishedTimes chain.authority chain.record chain.policy chain.event))
              (host.toISOString now) chain.cacheExpiresAt
            issuerProjection := issuerProjection host.js chain.record chain.policy
              (host.toISOString now) chain.cacheExpiresAt
            destinationPolicyProjection := destinationPolicyProjection host.js chain.record
              chain.policy (host.toISOString now) chain.cacheExpiresAt
            sourceArtifactHashes := sourceArtifactHashes input
            materializationWarnings :=
              materializationWarnings (host.toISOString now) chain.cacheExpiresAt } := by
  rw [materializeVerifierCacheEntry_eq_ok_iff]
  unfold materializeVerifierCacheEntryUnsafe
  constructor
  · intro hok
    obtain ⟨root, hroot, hok⟩ := bind_eq_ok_iff.mp hok
    obtain ⟨authority, hauthority, hok⟩ := bind_eq_ok_iff.mp hok
    obtain ⟨record, hrecord, hok⟩ := bind_eq_ok_iff.mp hok
    obtain ⟨policy, hpolicy, hok⟩ := bind_eq_ok_iff.mp hok
    obtain ⟨event, hevent, hok⟩ := bind_eq_ok_iff.mp hok
    obtain ⟨_, hnamespace, hok⟩ := bind_eq_ok_iff.mp hok
    obtain ⟨_, hdelegation, hok⟩ := bind_eq_ok_iff.mp hok
    obtain ⟨_, henrollment, hok⟩ := bind_eq_ok_iff.mp hok
    obtain ⟨_, hactive, hok⟩ := bind_eq_ok_iff.mp hok
    obtain ⟨_, hreference, hok⟩ := bind_eq_ok_iff.mp hok
    obtain ⟨_, hstatus, hok⟩ := bind_eq_ok_iff.mp hok
    obtain ⟨certificateRef, hcertificate, hok⟩ := bind_eq_ok_iff.mp hok
    obtain ⟨text, hdate, hok⟩ := bind_eq_ok_iff.mp hok
    obtain ⟨now, hnow, rfl⟩ := dateText_eq_ok_iff.mp hdate
    obtain ⟨hissuer, hcert⟩ := requireActiveRecord_eq_ok_iff.mp hactive
    exact ⟨⟨root, authority, record, policy, event, hroot, hauthority, hrecord, hpolicy,
        hevent⟩, certificateRef, now,
      ⟨requireOneNamespace_eq_ok_iff.mp hnamespace,
        requireDelegation_eq_ok_iff.mp hdelegation,
        requireEnrollment_eq_ok_iff.mp henrollment, hissuer, hcert,
        requirePolicyReference_eq_ok_iff.mp hreference,
        requireStatusEvent_eq_ok_iff.mp hstatus⟩,
      hcertificate, hnow, (Except.ok.inj hok).symm⟩
  · rintro ⟨chain, certificateRef, now, hchecked, hcertificate, hnow, rfl⟩
    have hactive : requireActiveRecord chain.record = .ok () :=
      requireActiveRecord_eq_ok_iff.mpr ⟨hchecked.issuerActive, hchecked.certificateActive⟩
    refine bind_eq_ok_iff.mpr ⟨_, chain.rootDecoded, ?_⟩
    refine bind_eq_ok_iff.mpr ⟨_, chain.authorityDecoded, ?_⟩
    refine bind_eq_ok_iff.mpr ⟨_, chain.recordDecoded, ?_⟩
    refine bind_eq_ok_iff.mpr ⟨_, chain.policyDecoded, ?_⟩
    refine bind_eq_ok_iff.mpr ⟨_, chain.eventDecoded, ?_⟩
    refine bind_eq_ok_iff.mpr
      ⟨(), requireOneNamespace_eq_ok_iff.mpr hchecked.oneNamespace, ?_⟩
    refine bind_eq_ok_iff.mpr ⟨(), requireDelegation_eq_ok_iff.mpr hchecked.delegates, ?_⟩
    refine bind_eq_ok_iff.mpr ⟨(), requireEnrollment_eq_ok_iff.mpr hchecked.enrolls, ?_⟩
    refine bind_eq_ok_iff.mpr ⟨(), hactive, ?_⟩
    refine bind_eq_ok_iff.mpr
      ⟨(), requirePolicyReference_eq_ok_iff.mpr hchecked.references, ?_⟩
    refine bind_eq_ok_iff.mpr ⟨(), requireStatusEvent_eq_ok_iff.mpr hchecked.speaksFor, ?_⟩
    refine bind_eq_ok_iff.mpr ⟨certificateRef, hcertificate, ?_⟩
    exact bind_eq_ok_iff.mpr ⟨_, dateText_eq_ok_iff.mpr ⟨now, hnow, rfl⟩, rfl⟩

end CacheMaterialization
