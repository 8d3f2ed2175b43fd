import QrTrust.Backend.DestinationPolicies
import QrTrust.Backend.GovernanceBuilders
import QrTrust.Backend.IssuerCertificates
import QrTrust.Backend.ManagementAuth

/-! # The management endpoints

    The endpoints that record governance mutations, and those that change
    credentials, over the tables they share.  An endpoint puts the texts of its
    request in order, loads its principal and checks a scope; an issuer endpoint
    then asks `require_issuer_resource`; what is left is an answer without a
    mutation, or a mutation to record. -/

namespace ManagementEndpoints

open GovernanceMutations (GovernanceMutation AuditRow DateTexts)
open ManagementPlane (ServerValues)
open TrustProjection (IssuerKey)
open IssuerCertificates TrustKeyEnrolment DestinationPolicies
open PostgresTrustKeys (TrustKeyRow TrustKeyTable)

/-! ## Principals and resources -/

/-- `ResourceAssignment`. -/
structure ResourceAssignment where
  rootProgramId : Option String
  delegatedAuthorityId : Option String
  issuerId : Option String
  deriving DecidableEq, Repr

/-- `covers`. -/
def ResourceAssignment.covers (assignment : ResourceAssignment) (issuer : IssuerKey) : Bool :=
  if assignment.rootProgramId = none ∧ assignment.delegatedAuthorityId = none
      ∧ assignment.issuerId = none then false
  else if assignment.rootProgramId.any (· ≠ issuer.rootProgramId) then false
  else if assignment.delegatedAuthorityId.any (· ≠ issuer.delegatedAuthorityId) then false
  else if assignment.issuerId.any (· ≠ issuer.issuerId) then false
  else true

/-- `ManagementPrincipal`. -/
structure ManagementPrincipal extends GovernanceMutations.ManagementPrincipal where
  resourceAssignments : List ResourceAssignment := []
  deriving DecidableEq

/-- `ResourceAuthzDecision`; every decision permits. -/
structure ResourceAuthzDecision where
  wouldBlock : Bool
  detail : String
  deriving DecidableEq, Repr

/-- `require_issuer_resource`. -/
def requireIssuerResource (principal : ManagementPrincipal) (scope : String) (issuer : IssuerKey)
    (mode : String) : Except PyError ResourceAuthzDecision :=
  match principal.keyId with
  | none => .ok ⟨false, "bootstrap principal bypasses resource scoping"⟩
  | some keyId =>
      if principal.resourceAssignments.any fun assignment => assignment.covers issuer then
        .ok ⟨false, "assignment covers issuer '" ++ issuer.issuerId ++ "'"⟩
      else
        let detail := "no resource assignment covers key '" ++ keyId ++ "' for scope '" ++ scope
          ++ "' on root_program '" ++ issuer.rootProgramId ++ "', delegated_authority '"
          ++ issuer.delegatedAuthorityId ++ "', issuer '" ++ issuer.issuerId ++ "'"
        if mode = "enforce" then .error (.httpException 403 detail) else .ok ⟨true, detail⟩

/-! ## Tables and settings -/

/-- The tables; `keyResources` has the resource columns of the key table,
    `publicKeyRefs` the column of the certificate table that no mutation reads. -/
structure Tables where
  credentials : ManagementAuth.Tables
  keyResources : OrderedMap String ResourceAssignment
  governance : GovernanceMutations.Tables
  publicKeyRefs : OrderedMap String String
  trustKeys : TrustKeyTable

/-- The settings of `config` that the endpoints read. -/
structure Config where
  resourceAuthzMode : String
  bootstrapAdminTokensEnabled : Bool
  adminTokens : List String
  enrollment : EnrollmentConfig

/-- What the endpoints take from their host. -/
structure Host where
  py : PyRuntime
  governance : GovernanceMutations.Host
  dates : DateTexts
  credentials : ManagementAuth.Host

/-- A response, as JSON. -/
abbrev Response := List (String × PyJson)

/-! ## Requests -/

/-- A request that may record a governance mutation, as its schema admits it. -/
inductive GovernanceRequest where
  | upsertTrustKey (request : TrustKeyUpsertRequest)
  | enrollIssuerCertificate (request : IssuerCertificateEnrollRequest)
  | updateIssuerCertificateStatus (request : IssuerCertificateStatusRequest)
  | updateTrustKeyStatus (request : TrustKeyStatusUpdateRequest)
  | upsertRootProgram (rootProgramId name programScope : String)
      (acceptedAlgorithmIds : List String) (policyConstraints : List (String × PyJson))
  | upsertDelegatedAuthority (rootProgramId delegatedAuthorityId name authorityType : String)
      (scope assuranceRequirements : List (String × PyJson))
  | enrollIssuer (issuer : IssuerKey) (displayName issuerClass assuranceTier : String)
  | updateIssuerStatus (issuer : IssuerKey) (enrollmentStatus : String)
  | upsertDomainProof (issuer : IssuerKey) (domain proofMethod verificationStatus : String)
      (expiresAt : Option Datetime) (evidenceRef : Option String)
  | upsertDestinationPolicy (issuer : IssuerKey) (destinationPolicyId usagePolicy : String)
      (approvedDestinations : List ApprovedDestination)
      (redirectPolicy runtimeSafetyPolicy : List (String × PyJson))
  | updateDestinationPolicyStatus (issuer : IssuerKey) (destinationPolicyId status : String)
  | upsertRuntimeProvider (providerId displayName : String) (baseUrl : Option String)
      (verdictTtlSeconds : Int) (staleBehavior unavailableBehavior status : String)
  | authorizeNatsSubscriber (subscriberId displayName durableName description : String)
      (subjects : List String)

/-- A management request; the credential requests change keys, operators and
    role assignments. -/
inductive Request where
  | credentials (request : ManagementAuth.Request)
  | governance (request : GovernanceRequest)

/-- A request with its credential, its headers, and what its server supplies; the
    audit row of a credential request names `record`. -/
structure Step where
  request : Request
  adminToken : String
  requestId : String
  idempotencyKey : Option String
  now : Int
  server : ServerValues
  utcNowIso : String
  executes : Bool
  record : String × PyJson

/-! ## Texts of the other requests -/

/-- `_normalize_runtime_provider_base_url`. -/
def normalizeRuntimeProviderBaseUrl (py : PyRuntime) (value : Option String) :
    Except PyError (Option String) :=
  match optionalCleanText value with
  | none => .ok none
  | some cleaned =>
      match py.urlparse cleaned with
      | .error _ => .error (unprocessable "runtime provider base_url must be a valid URL")
      | .ok parsed =>
          match parsed.port with
          | .error _ => .error (unprocessable "runtime provider base_url must be a valid URL")
          | .ok _ =>
              let hostname := parsed.hostname.getD ""
              if parsed.scheme ∉ ["http", "https"] ∨ hostname = "" then
                .error (unprocessable
                  "runtime provider base_url must be an absolute http or https URL")
              else if parsed.username.getD "" ≠ "" ∨ parsed.password.getD "" ≠ "" then
                .error (unprocessable "runtime provider base_url must not include credentials")
              else if parsed.query ≠ "" ∨ (cleaned.toList.dropWhile (· ≠ '#')).tail ≠ [] then
                .error (unprocessable
                  "runtime provider base_url must not include query or fragment")
              else if parsed.scheme = "http"
                  ∧ py.lower hostname ∉ ["localhost", "127.0.0.1", "::1"] then
                .error (unprocessable
                  "runtime provider base_url must use https unless it targets localhost")
              else
                .ok (some (String.ofList
                  (cleaned.toList.reverse.dropWhile (· = '/')).reverse))

/-- `NATS_SUBJECT_FAMILIES`. -/
def natsSubjectFamilies : List String :=
  ["root", "authority", "issuer", "destination", "certificate", "runtime", "verifier", "scanner"]

/-- `CONTROL_PLANE_NATS_SUBJECTS`. -/
def controlPlaneNatsSubjects : List String :=
  ["qrtrust.control-plane.runtime.provider.upserted.v1",
    "qrtrust.control-plane.authority.nats-subscriber.authorization.changed.v1"]

/-- `_NATS_SUBJECT_TOKEN_PATTERN`, on a whole token. -/
def isNatsSubjectToken (token : String) : Bool :=
  let alphanumeric := fun c : Char => c.isLower || c.isDigit
  token.toList ≠ [] && token.toList.all (fun c => alphanumeric c || c = '-')
    && token.toList.head?.any alphanumeric && token.toList.getLast?.any alphanumeric

/-- `validate_qrtrust_nats_subject`: is the subject valid? -/
def isQrtrustNatsSubject (subject : String) : Bool :=
  let tokens := (subject.toList.splitOn '.').map String.ofList
  let last := tokens.getLast?.getD ""
  4 ≤ tokens.length && tokens.head? = some "qrtrust" && tokens.all (· ≠ "")
    && (tokens[2]?.getD "") ∈ natsSubjectFamilies
    && tokens.all (fun token => token = "*" || token = ">" || isNatsSubjectToken token)
    && tokens.dropLast.all (· ≠ ">")
    && (if tokens[1]? = some "control-plane" then subject ∈ controlPlaneNatsSubjects
        else if last = ">" then tokens.length = 4
        else last = "v1" && 5 ≤ tokens.length)

/-- `NATS_SUBJECT_DETAIL`. -/
def natsSubjectDetail : String :=
  "Trust-root NATS subject must match qrtrust.<root>.<family>.<event>.v1 "
    ++ "or qrtrust.<root>.<family>.>; control-plane subjects must be documented "
    ++ "exact management events"

/-- `_normalize_subjects`. -/
def normalizeSubjects (subjects : List String) : Except PyError (List String) := do
  let normalized ←
    ManagementAuth.normalizeTextItems subjects "at least one NATS subject is required"
  if normalized.all isQrtrustNatsSubject then
    .ok (normalized.dedup.mergeSort (· ≤ ·))
  else .error (unprocessable natsSubjectDetail)

/-- The validator of `DomainProofUpsertRequest`. -/
def validateDomainProofWindow (now : Int) (verificationStatus : String)
    (expiresAt : Option Datetime) : Except PyError Unit := do
  timezoneAwareDatetime expiresAt "expires_at"
  if verificationStatus = "verified" ∧ expiresAt.any (fun expiry => expiry.instant ≤ now) then
    .error (.valueError "verified domain proof expires_at must be in the future")
  else .ok ()

/-! ## What an endpoint does with the tables -/

/-- What an endpoint is to do, over the rows it looked up: the issuer it asks
    `require_issuer_resource` about, with the target of the audit row; then an
    answer without a mutation, or a mutation to record, with what the mutation's
    statement does to the column and the table that only the endpoints read. -/
structure Plan where
  resource : Option (IssuerKey × String) := none
  outcome : Except PyError (Response ⊕ GovernanceMutation)
  publicKeyRefs : OrderedMap String String → OrderedMap String String := id
  trustKeys : TrustKeyTable → TrustKeyTable := id
  response : Response
  inTransaction : Bool := false

/-- A request that only records a mutation. -/
def Plan.record (resource : Option (IssuerKey × String)) (mutation : GovernanceMutation)
    (response : Response) : Plan where
  resource := resource
  outcome := .ok (.inr mutation)
  response := response

/-- A certificate row with the column that the governed tables leave out. -/
def certificateRow (tables : Tables) (certificateId : String) : Option IssuerCertificateRow :=
  (tables.governance.governed.certificates.find? fun row =>
      row.certificateId = certificateId).map fun row =>
    { row with publicKeyRef := (tables.publicKeyRefs.get? certificateId).getD "" }

/-- `IssuerCertificateMutationResponse`, as JSON. -/
def certificateResponse (response : IssuerCertificateMutationResponse) : Response :=
  [("certificate_id", .str response.certificateId), ("issuer_id", .str response.issuerId),
    ("key_status", .str response.keyStatus), ("event_type", .str response.eventType)]

/-- `TrustKeyMutationResponse`, as JSON. -/
def trustKeyResponse (response : TrustKeyMutationResponse) : Response :=
  [("key_id", .str response.keyId), ("key_status", .str (statusText response.keyStatus)),
    ("event_type", .str response.eventType)]

section Endpoints

variable (host : Host) (config : Config)

/-- `enroll_issuer_certificate`, over the row that its replay lookup finds. -/
def planCertificateEnrollment (requested : IssuerCertificateRow) (tables : Tables) : Plan where
  resource := some (requested.issuer, requested.certificateId)
  outcome :=
    match certificateRow tables requested.certificateId with
    | some existing =>
        (replayedCertificate existing requested).map fun response =>
          .inl (certificateResponse response)
    | none =>
        .ok (.inr (GovernanceMutations.buildIssuerCertificateEnrollMutation host.dates
          requested.certificateId requested.issuer requested.algorithmId requested.publicKeyRef
          (strOfOptional requested.publicKeyMaterialPem) requested.notBefore requested.notAfter))
  publicKeyRefs := fun column => column.set requested.certificateId requested.publicKeyRef
  response := certificateResponse
    ⟨requested.certificateId, requested.issuer.issuerId, "active", "issuer_certificate.enrolled"⟩

/-- `update_issuer_certificate_status`, over the row that it locks. -/
def planCertificateStatus (row : IssuerCertificateRow) (request : IssuerCertificateStatusRequest) :
    Plan where
  resource := some (row.issuer, row.certificateId)
  outcome :=
    (decideCertificateStatus row request.keyStatus).map fun
      | .unchanged =>
          .inl (certificateResponse ⟨row.certificateId, row.issuer.issuerId, row.keyStatus,
            "issuer_certificate.status.unchanged"⟩)
      | .change =>
          .inr (GovernanceMutations.buildIssuerCertificateStatusMutation row.certificateId
            row.issuer request.keyStatus.text request.revocationReason)
  response := certificateResponse ⟨row.certificateId, row.issuer.issuerId, request.keyStatus.text,
    "issuer_certificate.status.changed"⟩
  inTransaction := true

/-- `upsert_trust_key`, over the row that its replay lookup finds. -/
def planTrustKeyEnrollment (request : TrustKeyUpsertRequest) (requested : TrustKeyRow)
    (tables : Tables) : Plan where
  outcome :=
    match tables.trustKeys.find? requested.keyId with
    | some existing =>
        if sameIdentity existing requested then
          .ok (.inl (trustKeyResponse
            ⟨requested.keyId, existing.keyStatus, "trust_key.replayed"⟩))
        else
          .error (.httpException 409 ("trust key '" ++ requested.keyId
            ++ "' already enrolled with a different identity"))
    | none =>
        .ok (.inr (GovernanceMutations.buildTrustKeyUpsertMutation host.dates requested.keyId
          requested.rootProgramId requested.delegatedAuthorityId requested.signerId
          requested.algorithmId requested.publicKeyMaterialRef requested.publicKeyMaterialPem
          (match requested.scope with
            | .rootProgram => "root_program"
            | .delegatedAuthority => "delegated_authority")
          request.notBefore request.notAfter))
  trustKeys := fun table => table.put requested
  response := trustKeyResponse ⟨requested.keyId, .active, "trust_key.upserted"⟩

/-- `update_trust_key_status`, over the row that it locks. -/
def planTrustKeyStatus (row : TrustKeyRow) (keyStatus : TrustKeys.TrustKeyStatus) : Plan where
  outcome :=
    match TrustKeyEnrolment.checkTransition row.keyStatus keyStatus with
    | .noop =>
        .ok (.inl (trustKeyResponse ⟨row.keyId, row.keyStatus, "trust_key.status.unchanged"⟩))
    | .terminal => .error (.httpException 409 "revocation is terminal")
    | .disallowed detail => .error (.httpException 409 detail)
    | .allowed =>
        .ok (.inr (GovernanceMutations.buildTrustKeyStatusUpdateMutation row.rootProgramId
          row.keyId (statusText keyStatus)))
  trustKeys := fun table => table.put { row with keyStatus := keyStatus }
  response := trustKeyResponse ⟨row.keyId, keyStatus, "trust_key.status.changed"⟩
  inTransaction := true

/-- The texts of a request in order: the scope that its endpoint requires, and what
    it then does over the tables. -/
def endpoint (now : Int) :
    GovernanceRequest → Except PyError (String × (Tables → Except PyError Plan))
  | .upsertTrustKey request => do
      let requested ← requestedRow ⟨request, now, .fresh, ⟨[], []⟩⟩
      return ("trust_keys:write", fun tables =>
        .ok (planTrustKeyEnrollment host request requested tables))
  | .enrollIssuerCertificate request => do
      let requested ← requestedCertificate config.enrollment request
      return ("issuer:write", fun tables =>
        .ok (planCertificateEnrollment host requested tables))
  | .updateIssuerCertificateStatus request => do
      let certificateId ←
        TrustKeyEnrolment.normalizeRequiredText request.certificateId "certificate_id is required"
      return ("issuer:write", fun tables =>
        match certificateRow tables certificateId with
        | none =>
            .error (.httpException 404 ("certificate '" ++ certificateId ++ "' not found"))
        | some row => .ok (planCertificateStatus row request))
  | .updateTrustKeyStatus request => do
      let rootProgramId ←
        TrustKeyEnrolment.normalizeRequiredText request.rootProgramId "root program id is required"
      let keyId ← TrustKeyEnrolment.normalizeRequiredText request.keyId "trust key id is required"
      return ("trust_keys:write", fun tables =>
        match (tables.trustKeys.find? keyId).filter fun row =>
            row.rootProgramId = rootProgramId with
        | none =>
            .error (.httpException 404 ("trust key '" ++ keyId ++ "' not found for root program '"
              ++ rootProgramId ++ "'"))
        | some row => .ok (planTrustKeyStatus row request.keyStatus))
  | .upsertRootProgram rootProgramId name programScope acceptedAlgorithmIds policyConstraints =>
      -- the algorithm ids are put in order after the scope is checked
      return ("root:write", fun _ => do
        let algorithmIds ← ManagementAuth.normalizeTextItems acceptedAlgorithmIds
          "at least one accepted algorithm id is required"
        return .record none
          (GovernanceMutations.buildRootProgramUpsertMutation host.governance rootProgramId name
            programScope algorithmIds policyConstraints)
          [("root_program_id", .str rootProgramId), ("status", .str "active"),
            ("event_type", .str "root_program.upserted")])
  | .upsertDelegatedAuthority rootProgramId delegatedAuthorityId name authorityType scope
      assuranceRequirements =>
      return ("authority:write", fun _ => .ok (.record none
        (GovernanceMutations.buildDelegatedAuthorityUpsertMutation host.governance rootProgramId
          delegatedAuthorityId name authorityType scope assuranceRequirements)
        [("root_program_id", .str rootProgramId),
          ("delegated_authority_id", .str delegatedAuthorityId), ("status", .str "active"),
          ("event_type", .str "delegated_authority.upserted")]))
  | .enrollIssuer issuer displayName issuerClass assuranceTier =>
      return ("issuer:write", fun _ => .ok (.record (some (issuer, issuer.issuerId))
        (GovernanceMutations.buildIssuerEnrollmentMutation issuer displayName issuerClass
          assuranceTier)
        [("issuer_id", .str issuer.issuerId), ("enrollment_status", .str "pending"),
          ("event_type", .str "issuer.enrollment.requested")]))
  | .updateIssuerStatus issuer enrollmentStatus =>
      return ("issuer:write", fun _ => .ok (.record (some (issuer, issuer.issuerId))
        (GovernanceMutations.buildIssuerStatusUpdateMutation issuer enrollmentStatus)
        [("issuer_id", .str issuer.issuerId), ("enrollment_status", .str enrollmentStatus),
          ("event_type", .str "issuer.status.changed")]))
  | .upsertDomainProof issuer domain proofMethod verificationStatus expiresAt evidenceRef => do
      validateDomainProofWindow now verificationStatus expiresAt
      let domain ← normalizeDomain host.py domain
      return ("issuer:write", fun _ => .ok (.record (some (issuer, issuer.issuerId))
        (GovernanceMutations.buildDomainProofUpsertMutation host.dates issuer domain proofMethod
          verificationStatus expiresAt (optionalCleanText evidenceRef))
        [("root_program_id", .str issuer.rootProgramId),
          ("delegated_authority_id", .str issuer.delegatedAuthorityId),
          ("issuer_id", .str issuer.issuerId), ("domain", .str domain),
          ("verification_status", .str verificationStatus),
          ("event_type", .str "domain_proof.upserted")]))
  | .upsertDestinationPolicy issuer destinationPolicyId usagePolicy approvedDestinations
      redirectPolicy runtimeSafetyPolicy => do
      let destinations ← normalizeApprovedDestinations host.py approvedDestinations
      let hostScopes ← destinationPolicyHostScopes host.py destinations
      let redirectPolicy ←
        normalizeRedirectPolicy host.py (mergeDicts defaultRedirectPolicy redirectPolicy)
      let runtimeSafetyPolicy ←
        normalizeRuntimeSafetyPolicy (mergeDicts defaultRuntimeSafetyPolicy runtimeSafetyPolicy)
      -- no `require_issuer_resource` here, nor for the status of a policy
      return ("policy:write", fun _ => .ok (.record none
        (GovernanceMutations.buildDestinationPolicyUpsertMutation host.governance issuer
          destinationPolicyId usagePolicy (destinations.map ApprovedDestination.toJson)
          redirectPolicy runtimeSafetyPolicy (hostScopes.map HostScope.toJson))
        [("destination_policy_id", .str destinationPolicyId), ("status", .str "active"),
          ("event_type", .str "destination_policy.upserted"),
          ("required_hosts", texts (hostScopes.map HostScope.host))]))
  | .updateDestinationPolicyStatus issuer destinationPolicyId status =>
      return ("policy:write", fun _ => .ok (.record none
        (GovernanceMutations.buildDestinationPolicyStatusUpdateMutation issuer destinationPolicyId
          status)
        [("destination_policy_id", .str destinationPolicyId), ("status", .str status),
          ("event_type", .str "destination_policy.status.changed")]))
  | .upsertRuntimeProvider providerId displayName baseUrl verdictTtlSeconds staleBehavior
      unavailableBehavior status => do
      let baseUrl ← normalizeRuntimeProviderBaseUrl host.py baseUrl
      return ("runtime:write", fun _ => .ok (.record none
        (GovernanceMutations.buildRuntimeSafetyProviderUpsertMutation providerId displayName
          baseUrl verdictTtlSeconds staleBehavior unavailableBehavior status)
        [("provider_id", .str providerId), ("status", .str status),
          ("event_type", .str "runtime_provider.upserted")]))
  | .authorizeNatsSubscriber subscriberId displayName durableName description subjects => do
      let subjects ← normalizeSubjects subjects
      return ("nats:write", fun _ => .ok (.record none
        (GovernanceMutations.buildNatsSubscriberAuthorizationMutation host.governance subscriberId
          displayName durableName description subjects)
        [("subscriber_id", .str subscriberId), ("status", .str "active"),
          ("event_type", .str "nats.subscriber.authorization.changed"),
          ("subjects", texts subjects)]))

/-! ## Credentials -/

/-- The principal of a bootstrap token. -/
def localAdminPrincipal : ManagementPrincipal where
  keyId := none
  operatorId := none
  scopes := {"admin:*"}

/-- `_local_admin_principal_for_token`. -/
def localAdminPrincipalForToken (adminToken : String) : Option ManagementPrincipal :=
  if config.bootstrapAdminTokensEnabled
      ∧ adminToken ∈ (config.adminTokens.map PyString.strip).filter (· ≠ "") then
    some localAdminPrincipal
  else none

/-- The assignment in the resource columns of a key. -/
def keyAssignments (tables : Tables) (keyId : String) : List ResourceAssignment :=
  match tables.keyResources.get? keyId with
  | none => []
  | some resources =>
      if resources.rootProgramId = none ∧ resources.delegatedAuthorityId = none
          ∧ resources.issuerId = none then []
      else [resources]

/-- `load_management_principal`. -/
def loadManagementPrincipal (tables : Tables) (now : Int) (plaintextKey : String) :
    Option ManagementPrincipal :=
  (ManagementAuth.loadManagementPrincipal host.credentials.sha256Hex tables.credentials now
      plaintextKey).map fun principal =>
    { keyId := some principal.keyId
      operatorId := principal.operatorId
      scopes := principal.scopes
      resourceAssignments := keyAssignments tables principal.keyId }

/-- `_management_principal`, of the stripped credential. -/
def managementPrincipal (tables : Tables) (now : Int) (adminToken requiredScope : String) :
    Except PyError ManagementPrincipal :=
  let token := PyString.strip adminToken
  let loaded :=
    if token = "" then none
    else (localAdminPrincipalForToken config token).or
      (loadManagementPrincipal host tables now token)
  match loaded with
  | none => .error (.httpException 401 "management credential required")
  | some principal =>
      if requiredScope ∈ principal.scopes ∨ "admin:*" ∈ principal.scopes then .ok principal
      else .error (.httpException 403 ("missing required scope: " ++ requiredScope))

/-! ## Serving a request -/

/-- A row joins the audit log. -/
def Tables.audit (tables : Tables) (row : AuditRow) : Tables :=
  { tables with
    governance :=
      { tables.governance with auditLog := tables.governance.auditLog ++ [row] } }

/-- The row of `record_resource_authz_audit`. -/
def resourceAuditRow (step : Step) (principal : ManagementPrincipal) (scope : String)
    (issuer : IssuerKey) (targetId detail : String) : AuditRow where
  actorOperatorId := principal.operatorId
  actorKeyId := principal.keyId
  action := "resource_authz.would_block"
  targetType := "resource_authz"
  targetId := targetId
  rootProgramId := some issuer.rootProgramId
  delegatedAuthorityId := some issuer.delegatedAuthorityId
  issuerId := some issuer.issuerId
  afterJson := .dict [("scope", .str scope), ("detail", .str detail)]
  requestId := step.requestId
  idempotencyKey := none

/-- The resource check of a plan: the tables with the row of a request that would
    be blocked. -/
def authorizeResource (step : Step) (principal : ManagementPrincipal) (scope : String)
    (resource : Option (IssuerKey × String)) (tables : Tables) : Except PyError Tables :=
  match resource with
  | none => .ok tables
  | some (issuer, targetId) => do
      let decision ← requireIssuerResource principal scope issuer config.resourceAuthzMode
      .ok (if decision.wouldBlock then
          tables.audit (resourceAuditRow step principal scope issuer targetId decision.detail)
        else tables)

/-- The exception handlers around a mutation. -/
def recordFailure : GovernanceMutations.RecordError → PyError
  | .idempotencyConflict text => .httpException 409 text
  | .idempotencyInProgress text => .httpException 409 text
  | .mutation (.preconditionFailed detail) => .httpException 409 detail
  | _ => ManagementAuth.persistenceUnavailable

/-- The call of `record_governance_mutation` of an endpoint. -/
def mutationCall (step : Step) (principal : ManagementPrincipal) (mutation : GovernanceMutation) :
    GovernanceMutations.Call where
  principal := principal.toManagementPrincipal
  mutation := mutation
  requestId := step.requestId
  idempotencyKey := step.idempotencyKey
  server := step.server
  utcNowIso := step.utcNowIso
  executes := step.executes

/-- What serving a request leaves: the tables, the response, and the mutation it
    committed with the principal that asked for it. -/
structure Served where
  tables : Tables
  response : Except PyError Response
  committed : Option (ManagementPrincipal × GovernanceMutation) := none

/-- The end of an endpoint that has a mutation to record. -/
def recordMutation (step : Step) (principal : ManagementPrincipal) (plan : Plan)
    (mutation : GovernanceMutation) (before audited : Tables) : Served :=
  match GovernanceMutations.recordGovernanceMutation host.governance audited.governance
      (mutationCall step principal mutation) with
  | .error exc =>
      ⟨if plan.inTransaction then before else audited, .error (recordFailure exc), none⟩
  | .ok (governance, .replayed _) =>
      ⟨{ audited with governance := governance }, .ok plan.response, none⟩
  | .ok (governance, .applied _) =>
      ⟨{ audited with
          governance := governance
          publicKeyRefs := plan.publicKeyRefs audited.publicKeyRefs
          trustKeys := plan.trustKeys audited.trustKeys },
        .ok plan.response, some (principal, mutation)⟩

/-- An endpoint over its plan. -/
def servePlan (step : Step) (principal : ManagementPrincipal) (scope : String) (plan : Plan)
    (tables : Tables) : Served :=
  match authorizeResource config step principal scope plan.resource tables with
  | .error exc => ⟨tables, .error exc, none⟩
  | .ok audited =>
      match plan.outcome with
      | .error exc => ⟨if plan.inTransaction then tables else audited, .error exc, none⟩
      | .ok (.inl response) => ⟨audited, .ok response, none⟩
      | .ok (.inr mutation) => recordMutation host step principal plan mutation tables audited

/-- A request that may record a governance mutation. -/
def serveGovernance (tables : Tables) (step : Step) (request : GovernanceRequest) : Served :=
  match endpoint host config step.now request with
  | .error exc => ⟨tables, .error exc, none⟩
  | .ok (scope, planOf) =>
      match managementPrincipal host config tables step.now step.adminToken scope with
      | .error exc => ⟨tables, .error exc, none⟩
      | .ok principal =>
          match planOf tables with
          | .error exc => ⟨tables, .error exc, none⟩
          | .ok plan => servePlan host config step principal scope plan tables

/-- The action and the target type in the audit row of a credential request. -/
def credentialAction : ManagementAuth.Request → String × String
  | .issueManagementKey .. => ("management_key.issue", "management_api_key")
  | .issueVerifierClientKey .. => ("verifier_client_key.issue", "verifier_client_key")
  | .revokeManagementKey _ => ("management_key.revoke", "management_api_key")
  | .revokeVerifierClientKey _ => ("verifier_client_key.revoke", "verifier_client_key")
  | .upsertOperator .. => ("operator.upsert", "operator")
  | .upsertOperatorRoleAssignment .. => ("operator_role.upsert", "operator_role_assignment")

/-- The key that a credential request inserts; its resource columns are null. -/
def insertedKeyId : ManagementAuth.Request → Option String
  | .issueManagementKey _ _ _ _ plaintextKey =>
      some (ManagementAuth.managementKeyId (host.credentials.sha256Hex plaintextKey))
  | .issueVerifierClientKey _ _ plaintextKey =>
      some (VerifierApiKeys.buildVerifierClientKeyId (host.credentials.sha256Hex plaintextKey))
  | _ => none

/-- The audit row of a credential request. -/
def credentialAuditRow (step : Step) (principal : ManagementPrincipal)
    (request : ManagementAuth.Request) : AuditRow where
  actorOperatorId := principal.operatorId
  actorKeyId := principal.keyId
  action := (credentialAction request).1
  targetType := (credentialAction request).2
  targetId := step.record.1
  rootProgramId := none
  delegatedAuthorityId := none
  issuerId := none
  afterJson := step.record.2
  requestId := step.requestId
  idempotencyKey := none

/-- A request that changes credentials: its texts, its principal and scope, its
    statement and audit row. -/
def serveCredentials (tables : Tables) (step : Step) (request : ManagementAuth.Request) :
    Except PyError Tables := do
  let statement ← ManagementAuth.prepare host.credentials step.now request
  let principal ←
    managementPrincipal host config tables step.now step.adminToken request.requiredScope
  let credentials ← statement tables.credentials
  let keyResources := (insertedKeyId host request).elim tables.keyResources tables.keyResources.erase
  return Tables.audit
    { tables with credentials := credentials, keyResources := keyResources }
    (credentialAuditRow step principal request)

/-- A management request. -/
def serve (tables : Tables) (step : Step) : Served :=
  match step.request with
  | .governance request => serveGovernance host config tables step request
  | .credentials request =>
      match serveCredentials host config tables step request with
      | .error exc => ⟨tables, .error exc, none⟩
      | .ok changed => ⟨changed, .ok [("record", step.record.2)], none⟩

/-- The management plane, as a machine that serves one request at a time. -/
def machine : Runs.Machine Tables Step Step where
  plan _ step := [step]
  apply tables step := (serve host config tables step).tables

end Endpoints

end ManagementEndpoints
