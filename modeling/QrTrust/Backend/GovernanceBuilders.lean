import QrTrust.Backend.GovernanceMutations

/-! # The governance mutations

    The builders of `management_plane.py`, each with the data of its event; the
    statement is the one of `ManagementPlane`.  `Built` collects what they build
    from arguments that the request schemas admit. -/

namespace GovernanceMutations

open TrustProjection (IssuerKey)

/-- The texts of a datetime: `str(value)` and `value.isoformat()`. -/
structure DateTexts where
  str : Datetime → String
  isoformat : Datetime → String

section Builders

variable (host : Host) (dates : DateTexts)

/-- A datetime or `None`, as text. -/
def dateOrNone (text : Datetime → String) (value : Option Datetime) : PyJson :=
  .ofOption (value.map text)

/-- `build_root_program_upsert_mutation`. -/
def buildRootProgramUpsertMutation (rootProgramId name programScope : String)
    (acceptedAlgorithmIds : List String) (policyConstraints : List (String × PyJson)) :
    GovernanceMutation where
  action := "root_program.upsert"
  targetType := "root_program"
  targetId := rootProgramId
  rootProgramId := some rootProgramId
  delegatedAuthorityId := none
  issuerId := none
  statement := ManagementPlane.buildRootProgramUpsertMutation
  stateValues :=
    [.str rootProgramId, .str name, .str programScope, .list (acceptedAlgorithmIds.map .str),
      .str (jsonDumps host (.dict policyConstraints))]
  afterJson :=
    [("root_program_id", .str rootProgramId), ("name", .str name),
      ("program_scope", .str programScope),
      ("accepted_algorithm_ids", .list (acceptedAlgorithmIds.map .str)),
      ("policy_constraints", .dict policyConstraints), ("status", .str "active")]
  eventType := "root_program.upserted"

/-- `build_delegated_authority_upsert_mutation`. -/
def buildDelegatedAuthorityUpsertMutation
    (rootProgramId delegatedAuthorityId name authorityType : String)
    (scope assuranceRequirements : List (String × PyJson)) : GovernanceMutation where
  action := "delegated_authority.upsert"
  targetType := "delegated_authority"
  targetId := delegatedAuthorityId
  rootProgramId := some rootProgramId
  delegatedAuthorityId := some delegatedAuthorityId
  issuerId := none
  statement := ManagementPlane.buildDelegatedAuthorityUpsertMutation
  stateValues :=
    [.str rootProgramId, .str delegatedAuthorityId, .str name, .str authorityType,
      .str (jsonDumps host (.dict scope)), .str (jsonDumps host (.dict assuranceRequirements))]
  afterJson :=
    [("root_program_id", .str rootProgramId),
      ("delegated_authority_id", .str delegatedAuthorityId), ("name", .str name),
      ("authority_type", .str authorityType), ("scope", .dict scope),
      ("assurance_requirements", .dict assuranceRequirements), ("status", .str "active")]
  eventType := "delegated_authority.upserted"

/-- `build_issuer_enrollment_mutation`. -/
def buildIssuerEnrollmentMutation (issuer : IssuerKey)
    (displayName issuerClass assuranceTier : String) : GovernanceMutation where
  action := "issuer.enroll"
  targetType := "issuer"
  targetId := issuer.issuerId
  rootProgramId := some issuer.rootProgramId
  delegatedAuthorityId := some issuer.delegatedAuthorityId
  issuerId := some issuer.issuerId
  statement := ManagementPlane.buildIssuerEnrollmentMutation issuer displayName
  stateValues :=
    [.str issuer.rootProgramId, .str issuer.delegatedAuthorityId, .str issuer.issuerId,
      .str displayName, .str issuerClass, .str assuranceTier]
  afterJson :=
    [("root_program_id", .str issuer.rootProgramId),
      ("delegated_authority_id", .str issuer.delegatedAuthorityId),
      ("issuer_id", .str issuer.issuerId), ("display_name", .str displayName),
      ("issuer_class", .str issuerClass), ("assurance_tier", .str assuranceTier),
      ("enrollment_status", .str "pending")]
  eventType := "issuer.enrollment.requested"

/-- `build_domain_proof_upsert_mutation`. -/
def buildDomainProofUpsertMutation (issuer : IssuerKey)
    (domain proofMethod verificationStatus : String) (expiresAt : Option Datetime)
    (evidenceRef : Option String) : GovernanceMutation where
  action := "domain_proof.upsert"
  targetType := "domain_proof"
  targetId := domain
  rootProgramId := some issuer.rootProgramId
  delegatedAuthorityId := some issuer.delegatedAuthorityId
  issuerId := some issuer.issuerId
  statement :=
    ManagementPlane.buildDomainProofUpsertMutation issuer domain verificationStatus expiresAt
  stateValues :=
    [.str issuer.rootProgramId, .str issuer.delegatedAuthorityId, .str issuer.issuerId,
      .str domain, .str proofMethod, .str verificationStatus, dateOrNone dates.str expiresAt,
      .ofOption evidenceRef]
  afterJson :=
    [("root_program_id", .str issuer.rootProgramId),
      ("delegated_authority_id", .str issuer.delegatedAuthorityId),
      ("issuer_id", .str issuer.issuerId), ("domain", .str domain),
      ("proof_method", .str proofMethod), ("verification_status", .str verificationStatus),
      ("expires_at", dateOrNone dates.isoformat expiresAt), ("evidence_ref", .ofOption evidenceRef)]
  eventType := "domain_proof.upserted"

/-- `build_issuer_status_update_mutation`. -/
def buildIssuerStatusUpdateMutation (issuer : IssuerKey) (enrollmentStatus : String) :
    GovernanceMutation where
  action := "issuer.status.update"
  targetType := "issuer"
  targetId := issuer.issuerId
  rootProgramId := some issuer.rootProgramId
  delegatedAuthorityId := some issuer.delegatedAuthorityId
  issuerId := some issuer.issuerId
  statement := ManagementPlane.buildIssuerStatusUpdateMutation issuer enrollmentStatus
  stateValues :=
    [.str issuer.rootProgramId, .str issuer.delegatedAuthorityId, .str issuer.issuerId,
      .str enrollmentStatus]
  afterJson :=
    [("root_program_id", .str issuer.rootProgramId),
      ("delegated_authority_id", .str issuer.delegatedAuthorityId),
      ("issuer_id", .str issuer.issuerId), ("enrollment_status", .str enrollmentStatus)]
  eventType := "issuer.status.changed"

/-- `build_destination_policy_upsert_mutation`. -/
def buildDestinationPolicyUpsertMutation (issuer : IssuerKey)
    (destinationPolicyId usagePolicy : String) (approvedDestinations : List PyJson)
    (redirectPolicy runtimeSafetyPolicy : List (String × PyJson)) (hostScopes : List PyJson) :
    GovernanceMutation where
  action := "destination_policy.upsert"
  targetType := "destination_policy"
  targetId := destinationPolicyId
  rootProgramId := some issuer.rootProgramId
  delegatedAuthorityId := some issuer.delegatedAuthorityId
  issuerId := some issuer.issuerId
  destinationPolicyId := some destinationPolicyId
  statement := ManagementPlane.buildDestinationPolicyUpsertMutation
  stateValues :=
    [.str issuer.rootProgramId, .str issuer.delegatedAuthorityId, .str issuer.issuerId,
      .str destinationPolicyId, .str usagePolicy,
      .str (jsonDumps host (.list approvedDestinations)),
      .str (jsonDumps host (.dict redirectPolicy)),
      .str (jsonDumps host (.dict runtimeSafetyPolicy)), .str (jsonDumps host (.list hostScopes))]
  afterJson :=
    [("root_program_id", .str issuer.rootProgramId),
      ("delegated_authority_id", .str issuer.delegatedAuthorityId),
      ("issuer_id", .str issuer.issuerId), ("destination_policy_id", .str destinationPolicyId),
      ("usage_policy", .str usagePolicy), ("approved_destinations", .list approvedDestinations),
      ("redirect_policy", .dict redirectPolicy),
      ("runtime_safety_policy", .dict runtimeSafetyPolicy), ("status", .str "active"),
      ("publication_gate", .dict
        [("requires_active_issuer", .bool true), ("requires_verified_domain_proofs", .bool true),
          ("required_hosts", .list hostScopes)])]
  eventType := "destination_policy.upserted"

/-- `build_destination_policy_status_update_mutation`. -/
def buildDestinationPolicyStatusUpdateMutation (issuer : IssuerKey)
    (destinationPolicyId status : String) : GovernanceMutation where
  action := "destination_policy.status.update"
  targetType := "destination_policy"
  targetId := destinationPolicyId
  rootProgramId := some issuer.rootProgramId
  delegatedAuthorityId := some issuer.delegatedAuthorityId
  issuerId := some issuer.issuerId
  destinationPolicyId := some destinationPolicyId
  statement := ManagementPlane.buildDestinationPolicyStatusUpdateMutation
  stateValues :=
    [.str issuer.rootProgramId, .str issuer.delegatedAuthorityId, .str issuer.issuerId,
      .str destinationPolicyId, .str status]
  afterJson :=
    [("root_program_id", .str issuer.rootProgramId),
      ("delegated_authority_id", .str issuer.delegatedAuthorityId),
      ("issuer_id", .str issuer.issuerId), ("destination_policy_id", .str destinationPolicyId),
      ("status", .str status)]
  eventType := "destination_policy.status.changed"

/-- `build_trust_key_upsert_mutation`. -/
def buildTrustKeyUpsertMutation (keyId rootProgramId : String)
    (delegatedAuthorityId : Option String) (signerId algorithmId publicKeyMaterialRef : String)
    (publicKeyMaterialPem : Option String) (scope : String)
    (notBefore notAfter : Option Datetime) : GovernanceMutation where
  action := "trust_key.upsert"
  targetType := "trust_key"
  targetId := keyId
  rootProgramId := some rootProgramId
  delegatedAuthorityId := delegatedAuthorityId
  issuerId := none
  statement := ManagementPlane.buildTrustKeyUpsertMutation
  stateValues :=
    [.str keyId, .str rootProgramId, .ofOption delegatedAuthorityId, .str signerId,
      .str algorithmId, .str publicKeyMaterialRef, .ofOption publicKeyMaterialPem, .str scope,
      dateOrNone dates.str notBefore, dateOrNone dates.str notAfter]
  afterJson :=
    [("key_id", .str keyId), ("root_program_id", .str rootProgramId),
      ("delegated_authority_id", .ofOption delegatedAuthorityId), ("signer_id", .str signerId),
      ("algorithm_id", .str algorithmId), ("public_key_material_ref", .str publicKeyMaterialRef),
      ("public_key_material_pem", .ofOption publicKeyMaterialPem), ("scope", .str scope),
      ("key_status", .str "active"), ("not_before", dateOrNone dates.isoformat notBefore),
      ("not_after", dateOrNone dates.isoformat notAfter)]
  eventType := "trust_key.upserted"

/-- `build_issuer_certificate_enroll_mutation`. -/
def buildIssuerCertificateEnrollMutation (certificateId : String) (issuer : IssuerKey)
    (algorithmId publicKeyRef publicKeyMaterialPem : String) (notBefore : Datetime)
    (notAfter : Option Datetime) : GovernanceMutation where
  action := "issuer_certificate.enrolled"
  targetType := "issuer_certificate"
  targetId := certificateId
  rootProgramId := some issuer.rootProgramId
  delegatedAuthorityId := some issuer.delegatedAuthorityId
  issuerId := some issuer.issuerId
  statement :=
    ManagementPlane.buildIssuerCertificateEnrollMutation certificateId issuer algorithmId
      publicKeyMaterialPem notBefore notAfter
  stateValues :=
    [.str certificateId, .str issuer.rootProgramId, .str issuer.delegatedAuthorityId,
      .str issuer.issuerId, .str algorithmId, .str publicKeyRef, .str publicKeyMaterialPem,
      .str (dates.str notBefore), dateOrNone dates.str notAfter]
  afterJson :=
    [("certificate_id", .str certificateId), ("issuer_id", .str issuer.issuerId),
      ("root_program_id", .str issuer.rootProgramId),
      ("delegated_authority_id", .str issuer.delegatedAuthorityId),
      ("algorithm_id", .str algorithmId), ("public_key_ref", .str publicKeyRef),
      ("key_status", .str "active"), ("not_before", .str (dates.isoformat notBefore)),
      ("not_after", dateOrNone dates.isoformat notAfter)]
  eventType := "issuer_certificate.enrolled"

/-- `build_issuer_certificate_status_mutation`. -/
def buildIssuerCertificateStatusMutation (certificateId : String) (issuer : IssuerKey)
    (keyStatus : String) (revocationReason : Option String) : GovernanceMutation where
  action := "issuer_certificate.status.changed"
  targetType := "issuer_certificate"
  targetId := certificateId
  rootProgramId := some issuer.rootProgramId
  delegatedAuthorityId := some issuer.delegatedAuthorityId
  issuerId := some issuer.issuerId
  statement :=
    ManagementPlane.buildIssuerCertificateStatusMutation certificateId keyStatus revocationReason
  stateValues :=
    if keyStatus = "revoked" then
      [.str certificateId, .str keyStatus, .ofOption revocationReason]
    else [.str certificateId, .str keyStatus]
  afterJson :=
    [("certificate_id", .str certificateId), ("key_status", .str keyStatus),
      ("revocation_reason", .ofOption revocationReason)]
  eventType := "issuer_certificate.status.changed"

/-- `build_trust_key_status_update_mutation`. -/
def buildTrustKeyStatusUpdateMutation (rootProgramId keyId keyStatus : String) :
    GovernanceMutation where
  action := "trust_key.status.update"
  targetType := "trust_key"
  targetId := keyId
  rootProgramId := some rootProgramId
  delegatedAuthorityId := none
  issuerId := none
  statement := ManagementPlane.buildTrustKeyStatusUpdateMutation
  stateValues := [.str rootProgramId, .str keyId, .str keyStatus]
  afterJson :=
    [("root_program_id", .str rootProgramId), ("key_id", .str keyId),
      ("key_status", .str keyStatus)]
  eventType := "trust_key.status.changed"

/-- `build_runtime_safety_provider_upsert_mutation`. -/
def buildRuntimeSafetyProviderUpsertMutation (providerId displayName : String)
    (baseUrl : Option String) (verdictTtlSeconds : Int)
    (staleBehavior unavailableBehavior status : String) : GovernanceMutation where
  action := "runtime_provider.upsert"
  targetType := "runtime_safety_provider"
  targetId := providerId
  rootProgramId := none
  delegatedAuthorityId := none
  issuerId := none
  statement := ManagementPlane.buildRuntimeSafetyProviderUpsertMutation
  stateValues :=
    [.str providerId, .str displayName, .ofOption baseUrl, .int verdictTtlSeconds,
      .str staleBehavior, .str unavailableBehavior, .str status]
  afterJson :=
    [("provider_id", .str providerId), ("display_name", .str displayName),
      ("base_url", .ofOption baseUrl), ("verdict_ttl_seconds", .int verdictTtlSeconds),
      ("stale_behavior", .str staleBehavior), ("unavailable_behavior", .str unavailableBehavior),
      ("status", .str status)]
  eventType := "runtime_provider.upserted"

/-- `build_nats_subscriber_authorization_mutation`. -/
def buildNatsSubscriberAuthorizationMutation
    (subscriberId displayName durableName description : String) (subjects : List String) :
    GovernanceMutation where
  action := "nats_subscriber.authorize"
  targetType := "nats_subscriber"
  targetId := subscriberId
  rootProgramId := none
  delegatedAuthorityId := none
  issuerId := none
  statement := ManagementPlane.buildNatsSubscriberAuthorizationMutation
  stateValues :=
    [.str subscriberId, .str displayName, .str durableName, .str description,
      .str (jsonDumps host (.list (subjects.map .str)))]
  afterJson :=
    [("subscriber_id", .str subscriberId), ("display_name", .str displayName),
      ("durable_name", .str durableName), ("description", .str description),
      ("status", .str "active"), ("subjects", .list (subjects.map .str))]
  eventType := "nats.subscriber.authorization.changed"

/-! ## Valid arguments -/

/-- `ROOT_PROGRAM_ID_PATTERN`; its `$` also stands before a last line break. -/
def IsRootProgramId (s : String) : Prop :=
  PyString.startswith s "root:" = true ∨ s = "control-plane" ∨ s = "control-plane\n"

/-- `DELEGATED_AUTHORITY_ID_PATTERN`. -/
def IsDelegatedAuthorityId (s : String) : Prop := PyString.startswith s "authority:" = true

/-- `ISSUER_ID_PATTERN`. -/
def IsIssuerId (s : String) : Prop := PyString.startswith s "issuer:" = true

/-- `DESTINATION_POLICY_ID_PATTERN`. -/
def IsDestinationPolicyId (s : String) : Prop := PyString.startswith s "policy:" = true

/-- An issuer under ids that the request schemas admit. -/
structure IsIssuerKey (issuer : IssuerKey) : Prop where
  root : IsRootProgramId issuer.rootProgramId
  authority : IsDelegatedAuthorityId issuer.delegatedAuthorityId
  issuer : IsIssuerId issuer.issuerId

/-- What the builders make of valid arguments.  The schemas of certificate requests
    restrict no id. -/
inductive Built : GovernanceMutation → Prop where
  | rootProgram {rootProgramId : String} (hroot : IsRootProgramId rootProgramId)
      (name programScope : String) (acceptedAlgorithmIds : List String)
      (policyConstraints : List (String × PyJson)) :
      Built (buildRootProgramUpsertMutation host rootProgramId name programScope
        acceptedAlgorithmIds policyConstraints)
  | delegatedAuthority {rootProgramId delegatedAuthorityId : String}
      (hroot : IsRootProgramId rootProgramId)
      (hauthority : IsDelegatedAuthorityId delegatedAuthorityId) (name authorityType : String)
      (scope assuranceRequirements : List (String × PyJson)) :
      Built (buildDelegatedAuthorityUpsertMutation host rootProgramId delegatedAuthorityId name
        authorityType scope assuranceRequirements)
  | issuerEnrollment {issuer : IssuerKey} (hissuer : IsIssuerKey issuer)
      (displayName issuerClass assuranceTier : String) :
      Built (buildIssuerEnrollmentMutation issuer displayName issuerClass assuranceTier)
  | domainProof {issuer : IssuerKey} (hissuer : IsIssuerKey issuer) {domain : String}
      (hdomain : domain ≠ "") (proofMethod verificationStatus : String)
      (expiresAt : Option Datetime) (evidenceRef : Option String) :
      Built (buildDomainProofUpsertMutation dates issuer domain proofMethod verificationStatus
        expiresAt evidenceRef)
  | issuerStatus {issuer : IssuerKey} (hissuer : IsIssuerKey issuer) (enrollmentStatus : String) :
      Built (buildIssuerStatusUpdateMutation issuer enrollmentStatus)
  | destinationPolicy {issuer : IssuerKey} (hissuer : IsIssuerKey issuer)
      {destinationPolicyId : String} (hpolicy : IsDestinationPolicyId destinationPolicyId)
      (usagePolicy : String) (approvedDestinations : List PyJson)
      (redirectPolicy runtimeSafetyPolicy : List (String × PyJson)) (hostScopes : List PyJson) :
      Built (buildDestinationPolicyUpsertMutation host issuer destinationPolicyId usagePolicy
        approvedDestinations redirectPolicy runtimeSafetyPolicy hostScopes)
  | destinationPolicyStatus {issuer : IssuerKey} (hissuer : IsIssuerKey issuer)
      {destinationPolicyId : String} (hpolicy : IsDestinationPolicyId destinationPolicyId)
      (status : String) :
      Built (buildDestinationPolicyStatusUpdateMutation issuer destinationPolicyId status)
  | trustKey {keyId rootProgramId : String} (hkey : keyId ≠ "")
      (hroot : IsRootProgramId rootProgramId) {delegatedAuthorityId : Option String}
      (hauthority : ∀ id ∈ delegatedAuthorityId, IsDelegatedAuthorityId id)
      (signerId algorithmId publicKeyMaterialRef : String) (publicKeyMaterialPem : Option String)
      (scope : String) (notBefore notAfter : Option Datetime) :
      Built (buildTrustKeyUpsertMutation dates keyId rootProgramId delegatedAuthorityId signerId
        algorithmId publicKeyMaterialRef publicKeyMaterialPem scope notBefore notAfter)
  | issuerCertificateEnroll (certificateId : String) (issuer : IssuerKey)
      (algorithmId publicKeyRef publicKeyMaterialPem : String) (notBefore : Datetime)
      (notAfter : Option Datetime) :
      Built (buildIssuerCertificateEnrollMutation dates certificateId issuer algorithmId
        publicKeyRef publicKeyMaterialPem notBefore notAfter)
  | issuerCertificateStatus (certificateId : String) (issuer : IssuerKey) (keyStatus : String)
      (revocationReason : Option String) :
      Built (buildIssuerCertificateStatusMutation certificateId issuer keyStatus revocationReason)
  | trustKeyStatus {rootProgramId keyId : String} (hroot : IsRootProgramId rootProgramId)
      (hkey : keyId ≠ "") (keyStatus : String) :
      Built (buildTrustKeyStatusUpdateMutation rootProgramId keyId keyStatus)
  | runtimeSafetyProvider {providerId : String} (hprovider : providerId ≠ "")
      (displayName : String) (baseUrl : Option String) (verdictTtlSeconds : Int)
      (staleBehavior unavailableBehavior status : String) :
      Built (buildRuntimeSafetyProviderUpsertMutation providerId displayName baseUrl
        verdictTtlSeconds staleBehavior unavailableBehavior status)
  | natsSubscriber {subscriberId : String} (hsubscriber : subscriberId ≠ "")
      (displayName durableName description : String) (subjects : List String) :
      Built (buildNatsSubscriberAuthorizationMutation host subscriberId displayName durableName
        description subjects)

end Builders

end GovernanceMutations
