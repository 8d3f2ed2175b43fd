import QrTrust.Lib.Runs
import QrTrust.Network.PolicyDecoding
import QrTrust.Network.TrustKeys

/-! # The verifier sync service

    `syncRecent` walks the recent events, fetches the artifact each one names,
    checks its hash, asks the signature verifier about the bodies it
    recognises, and projects bodies into the verifier cache.  A body is JSON of
    no promised shape: the type guards of the source are decoders here, so that
    a guard holds exactly when its decoder succeeds.

    The service is modelled with a cache; without one it writes nothing.  What
    an event makes the service do is a list of `SyncAction`s, so that a reader
    of the cache can be placed between any two of them. -/

namespace VerifierSync

open VerifierCache PolicyDecoding TrustKeys

/-! ## Events and artifacts -/

/-- The fields of an event envelope that the service reads. -/
structure NetworkEvent where
  type : String
  occurredAt : String
  rootProgramId : String
  delegatedAuthorityId : Option String
  issuerId : Option String
  destinationPolicyId : Option String
  artifactId : String
  artifactHash : String
  deriving DecidableEq, Repr

/-- The fields of a stored artifact that the service reads. -/
structure SignedArtifact where
  artifactHash : String
  body : JsonValue

/-- The in-memory artifact store, by artifact id. -/
abbrev ArtifactStore := OrderedMap String SignedArtifact

/-- The answer of a signature verifier. -/
structure SignatureVerificationResult where
  accepted : Bool
  reason : String
  deriving DecidableEq, Repr

/-! ## The type guards of artifact bodies -/

/-- `StatusEventStatus`. -/
inductive StatusEventStatus where
  | active
  | suspended
  | revoked
  | expired
  | retired
  deriving DecidableEq, Repr

/-- The status a text names (`lifecycleStatuses`). -/
def StatusEventStatus.ofText : String → Option StatusEventStatus
  | "active" => some .active
  | "suspended" => some .suspended
  | "revoked" => some .revoked
  | "expired" => some .expired
  | "retired" => some .retired
  | _ => none

/-- The key or certificate status a text names (`certificateStatuses`). -/
def trustKeyStatusOfText : String → Option TrustKeyStatus
  | "active" => some .active
  | "suspended" => some .suspended
  | "revoked" => some .revoked
  | "expired" => some .expired
  | _ => none

/-- The lifecycle status under a key. -/
def statusField (v : JsonValue) (key : String) : Option StatusEventStatus :=
  (v.stringField key).bind StatusEventStatus.ofText

/-- `candidate.artifact_type === artifactType`. -/
def hasArtifactType (body : JsonValue) (artifactType : String) : Bool :=
  body.stringField "artifact_type" = some artifactType

/-- An identifier with its lifecycle status, as manifests list them. -/
structure ManifestEntry where
  id : String
  status : StatusEventStatus

/-- `isTrustKeyManifestEntry`. -/
def isTrustKeyManifestEntry (entry : JsonValue) : Bool :=
  (do let _ ← entry.stringField "key_id"
      let _ ← entry.stringField "signer_id"
      let _ ← entry.stringField "algorithm_id"
      let _ ← entry.stringField "public_key_material_ref"
      (entry.stringField "status").bind trustKeyStatusOfText).isSome

/-- `isDelegatedAuthorityManifestEntry`. -/
def delegatedAuthorityManifestEntry (entry : JsonValue) : Option ManifestEntry := do
  let id ← entry.stringField "delegated_authority_id"
  let _ ← entry.stringField "name"
  let _ ← entry.stringField "manifest_ref"
  let status ← statusField entry "status"
  return { id, status }

/-- `isEnrolledIssuerManifestEntry`. -/
def enrolledIssuerManifestEntry (entry : JsonValue) : Option ManifestEntry := do
  let id ← entry.stringField "issuer_id"
  let _ ← entry.stringField "issuer_record_ref"
  let _ ← entry.stringField "assurance_tier"
  let status ← statusField entry "status"
  return { id, status }

/-- The signer fields `isPublicationMetadata` checks. -/
structure PublicationMetadata where
  signedBy : String
  signatureStatus : String

/-- `isPublicationMetadata`. -/
def publicationMetadata (body : JsonValue) : Option PublicationMetadata := do
  let publication ← body.prop "publication"
  let _ ← publication.stringField "published_at"
  let _ ← publication.stringField "valid_until"
  let signedBy ← publication.stringField "signed_by"
  let signatureStatus ← publication.stringField "signature_status"
  return { signedBy, signatureStatus }

/-- The fields of a root manifest that the service uses. -/
structure RootManifestArtifactBody where
  rootProgramId : String
  delegatedAuthorities : List ManifestEntry
  publication : PublicationMetadata
  signedBy : String

/-- `isRootManifestArtifactBody`. -/
def rootManifestArtifactBody (body : JsonValue) : Option RootManifestArtifactBody := do
  guard (hasArtifactType body "root_manifest")
  let _ ← body.stringField "schema_version"
  let rootProgramId ← body.stringField "root_program_id"
  let _ ← body.stringField "name"
  let _ ← body.stringArrayField "accepted_algorithm_ids"
  let trustKeys ← body.arrayField "trust_keys"
  guard (trustKeys.all isTrustKeyManifestEntry)
  let policyConstraints ← body.prop "policy_constraints"
  guard policyConstraints.isRecord
  let authorities ← body.arrayField "delegated_authorities"
  let delegatedAuthorities ← authorities.mapM delegatedAuthorityManifestEntry
  let publication ← publicationMetadata body
  let signedBy ← body.stringField "signed_by"
  return { rootProgramId, delegatedAuthorities, publication, signedBy }

/-- The fields of a delegated-authority manifest that the service uses. -/
structure DelegatedAuthorityManifestArtifactBody where
  rootProgramId : String
  delegatedAuthorityId : String
  enrolledIssuers : List ManifestEntry
  publication : PublicationMetadata
  signedBy : String

/-- `isDelegatedAuthorityManifestArtifactBody`. -/
def delegatedAuthorityManifestArtifactBody (body : JsonValue) :
    Option DelegatedAuthorityManifestArtifactBody := do
  guard (hasArtifactType body "delegated_authority_manifest")
  let _ ← body.stringField "schema_version"
  let rootProgramId ← body.stringField "root_program_id"
  let delegatedAuthorityId ← body.stringField "delegated_authority_id"
  let _ ← body.stringField "operator_name"
  let _ ← body.stringField "operator_class"
  let _ ← body.stringArrayField "scope"
  let trustKeys ← body.arrayField "trust_keys"
  guard (trustKeys.all isTrustKeyManifestEntry)
  let assuranceRequirements ← body.prop "assurance_requirements"
  guard assuranceRequirements.isRecord
  let issuers ← body.arrayField "enrolled_issuers"
  let enrolledIssuers ← issuers.mapM enrolledIssuerManifestEntry
  let publication ← publicationMetadata body
  let signedBy ← body.stringField "signed_by"
  return { rootProgramId, delegatedAuthorityId, enrolledIssuers, publication, signedBy }

/-- `isIssuerDestinationPolicyRef`. -/
def issuerDestinationPolicyRef (policy : JsonValue) : Option ManifestEntry := do
  let id ← policy.stringField "destination_policy_id"
  let _ ← policy.stringField "policy_ref"
  let status ← statusField policy "status"
  return { id, status }

/-- The fields of an issuer record that the service uses. -/
structure IssuerRecordArtifactBody where
  issuerNamespace : IssuerNamespace
  issuerDisplayName : String
  assuranceTier : String
  destinationPolicies : List ManifestEntry
  issuerStatus : StatusEventStatus
  certificateStatus : TrustKeyStatus
  publishedAt : String
  validUntil : String

/-- `isIssuerRecordArtifactBody`. -/
def issuerRecordArtifactBody (body : JsonValue) : Option IssuerRecordArtifactBody := do
  guard (hasArtifactType body "issuer_record")
  let issuerNamespace ← body.prop "issuer_namespace"
  let rootProgramId ← issuerNamespace.stringField "root_program_id"
  let delegatedAuthorityId ← issuerNamespace.stringField "delegated_authority_id"
  let issuerId ← issuerNamespace.stringField "issuer_id"
  let issuerDisplayName ← body.stringField "issuer_display_name"
  let _ ← body.stringField "issuer_class"
  let assuranceTier ← body.stringField "assurance_tier"
  let policies ← body.arrayField "destination_policies"
  let destinationPolicies ← policies.mapM issuerDestinationPolicyRef
  let status ← body.prop "status"
  let issuerStatus ← statusField status "issuer_status"
  let certificateStatus ← (status.stringField "certificate_status").bind trustKeyStatusOfText
  let _ ← status.stringField "status_event_ref"
  let publication ← body.prop "publication"
  let publishedAt ← publication.stringField "published_at"
  let validUntil ← publication.stringField "valid_until"
  return { issuerNamespace := ⟨rootProgramId, delegatedAuthorityId, issuerId⟩
           issuerDisplayName, assuranceTier, destinationPolicies, issuerStatus,
           certificateStatus, publishedAt, validUntil }

/-- `typeof x === "undefined" || (Array.isArray(x) && x.every(string))`. -/
def isOptionalStringArray : Option JsonValue → Bool
  | none => true
  | some value => (value.asArray.bind fun items => items.mapM JsonValue.asString).isSome

/-- `isDestinationPolicyDestination`. -/
def isDestinationPolicyDestination (destination : JsonValue) : Bool :=
  (destination.stringField "destination_id").isSome
    && (destination.stringField "expected_final_url").isSome
    && (destination.stringArrayField "allowed_hosts").isSome
    && (destination.boolField "allow_subdomains").isSome
    && (destination.stringArrayField "path_prefixes").isSome
    && (destination.stringField "query_policy").isSome
    && isOptionalStringArray (destination.prop "allowed_query_keys")

/-- `isRedirectPolicy`. -/
def isRedirectPolicy (policy : JsonValue) : Bool :=
  (policy.stringArrayField "resolver_urls").isSome
    && (policy.stringArrayField "expected_final_destinations").isSome
    && (policy.stringArrayField "allowed_redirect_hosts").isSome
    && (policy.numberField "max_redirect_hops").isSome
    && (policy.boolField "nested_shorteners_allowed").isSome
    && (policy.boolField "scanner_must_display_resolver_and_final_destination").isSome

/-- `isDestinationPolicyArtifactBody`. -/
def isDestinationPolicyArtifactBody (body : JsonValue) : Bool :=
  hasArtifactType body "destination_policy"
    && (body.stringField "root_program_id").isSome
    && (body.stringField "delegated_authority_id").isSome
    && (body.stringField "issuer_id").isSome
    && (body.stringField "destination_policy_id").isSome
    && (body.arrayField "approved_destinations").any (·.all isDestinationPolicyDestination)
    && (body.prop "redirect_policy").any isRedirectPolicy
    && (body.prop "publication").any fun publication =>
        (publication.stringField "published_at").isSome
          && (publication.stringField "valid_until").isSome

/-- The target types of a revocation. -/
inductive RevocationTargetType where
  | issuerRecord
  | issuer
  | certificate
  | destinationPolicy
  | delegatedAuthority
  | trustKey
  deriving DecidableEq, Repr

/-- The target type a text names. -/
def RevocationTargetType.ofText : String → Option RevocationTargetType
  | "issuer_record" => some .issuerRecord
  | "issuer" => some .issuer
  | "certificate" => some .certificate
  | "destination_policy" => some .destinationPolicy
  | "delegated_authority" => some .delegatedAuthority
  | "trust_key" => some .trustKey
  | _ => none

/-- The fields of a revocation that the service uses. -/
structure RevocationStatusArtifactBody where
  rootProgramId : String
  delegatedAuthorityId : String
  targetType : RevocationTargetType
  targetIssuerId : Option String
  targetDestinationPolicyId : Option String
  targetKeyId : Option String
  status : StatusEventStatus
  signedBy : String
  signatureAlgorithmId : String

/-- `isRevocationStatusArtifactBody`. -/
def revocationStatusArtifactBody (body : JsonValue) :
    Option RevocationStatusArtifactBody := do
  let target ← body.prop "target"
  guard (hasArtifactType body "revocation_status_event")
  let rootProgramId ← body.stringField "root_program_id"
  let delegatedAuthorityId ← body.stringField "delegated_authority_id"
  let targetType ← (target.stringField "target_type").bind RevocationTargetType.ofText
  let targetIssuerId ← target.optionalStringField "issuer_id"
  let targetDestinationPolicyId ← target.optionalStringField "destination_policy_id"
  let _ ← target.optionalStringField "certificate_ref"
  let targetKeyId ← target.optionalStringField "key_id"
  let status ← statusField body "status"
  let signedBy ← body.stringField "signed_by"
  let _ ← body.stringField "signature_status"
  let signatureAlgorithmId ← body.stringField "signature_algorithm_id"
  let _ ← body.stringField "signature_input"
  let _ ← body.stringField "signature"
  return { rootProgramId, delegatedAuthorityId, targetType, targetIssuerId,
           targetDestinationPolicyId, targetKeyId, status, signedBy, signatureAlgorithmId }

/-- The fields of an assurance update that the service uses. -/
structure AssuranceStatusArtifactBody where
  rootProgramId : String
  delegatedAuthorityId : String
  targetIssuerId : String
  newAssuranceTier : String

/-- `isAssuranceStatusArtifactBody`. -/
def assuranceStatusArtifactBody (body : JsonValue) : Option AssuranceStatusArtifactBody := do
  let target ← body.prop "target"
  guard (hasArtifactType body "assurance_status_event")
  let rootProgramId ← body.stringField "root_program_id"
  let delegatedAuthorityId ← body.stringField "delegated_authority_id"
  let _ ← target.oneOfField "target_type" ["issuer", "issuer_record"]
  let targetIssuerId ← target.stringField "issuer_id"
  let _ ← body.optionalStringField "previous_assurance_tier"
  let newAssuranceTier ← body.stringField "new_assurance_tier"
  let _ ← body.stringField "signed_by"
  let _ ← body.stringField "signature_status"
  let _ ← body.stringField "signature_algorithm_id"
  let _ ← body.stringField "signature_input"
  let _ ← body.stringField "signature"
  return { rootProgramId, delegatedAuthorityId, targetIssuerId, newAssuranceTier }

/-- `recognizedTrustArtifactFromBody`: is the body one whose signature is
    demanded? -/
def isRecognizedTrustArtifact (body : JsonValue) : Bool :=
  (rootManifestArtifactBody body).isSome
    || (delegatedAuthorityManifestArtifactBody body).isSome
    || (issuerRecordArtifactBody body).isSome
    || isDestinationPolicyArtifactBody body
    || (revocationStatusArtifactBody body).isSome
    || (assuranceStatusArtifactBody body).isSome

/-- The publication signer of a manifest is the signer of its body. -/
def publicationSignerMatches (body : JsonValue) (publication : PublicationMetadata)
    (signedBy : String) : Bool :=
  publication.signedBy = signedBy
    && body.stringField "signature_status" = some publication.signatureStatus

/-- `trustArtifactScopeMatchesBody`.  (A comparison of a field of the body with
    itself is left out, and a destination policy or an assurance update that
    passed its guard passes its scope check.) -/
def trustArtifactScopeMatchesBody (body : JsonValue) : Bool :=
  match rootManifestArtifactBody body with
  | some manifest => publicationSignerMatches body manifest.publication manifest.signedBy
  | none =>
      match delegatedAuthorityManifestArtifactBody body with
      | some manifest => publicationSignerMatches body manifest.publication manifest.signedBy
      | none =>
          match issuerRecordArtifactBody body with
          | some record =>
              body.stringField "root_program_id" = some record.issuerNamespace.rootProgramId
                && body.stringField "delegated_authority_id"
                  = some record.issuerNamespace.delegatedAuthorityId
                && match body.prop "issuer_id" with
                  | none => true
                  | some issuerId =>
                      issuerId.asString = some record.issuerNamespace.issuerId
          | none => true

/-! ## Projections -/

/-- `rootAuthorityContextFromArtifact`. -/
def rootAuthorityContextFromArtifact (body : JsonValue) : Option RootAuthorityContext :=
  (rootManifestArtifactBody body).map fun manifest =>
    { rootProgramId := manifest.rootProgramId
      activeDelegatedAuthorityIds :=
        (manifest.delegatedAuthorities.filter (·.status = .active)).map ManifestEntry.id }

/-- `delegatedAuthorityIssuerContextFromArtifact`. -/
def delegatedAuthorityIssuerContextFromArtifact (body : JsonValue) :
    Option DelegatedAuthorityIssuerContext :=
  (delegatedAuthorityManifestArtifactBody body).map fun manifest =>
    { rootProgramId := manifest.rootProgramId
      delegatedAuthorityId := manifest.delegatedAuthorityId
      activeIssuerIds :=
        (manifest.enrolledIssuers.filter (·.status = .active)).map ManifestEntry.id }

/-- `issuerProjectionFromArtifact`: the record of an active issuer with an
    active certificate, under its first active policy. -/
def issuerProjectionFromArtifact (body : JsonValue) : Option IssuerProjection := do
  let record ← issuerRecordArtifactBody body
  guard (record.issuerStatus = .active)
  guard (record.certificateStatus = .active)
  let activeDestinationPolicy ← record.destinationPolicies.find? (·.status = .active)
  return { ns := record.issuerNamespace
           issuerDisplayName := record.issuerDisplayName
           assuranceTier := record.assuranceTier
           destinationPolicyId := activeDestinationPolicy.id
           allowedHosts := []
           cacheGeneratedAt := record.publishedAt
           cacheExpiresAt := record.validUntil }

/-- `artifactBodyTypeIs`. -/
def artifactBodyTypeIs (body : JsonValue) (artifactType : String) : Bool :=
  body.isRecord && hasArtifactType body artifactType

/-- The publication input the service makes of a body and its event: an empty
    identifier of the envelope counts as absent. -/
def publicationInputOfEvent (body : JsonValue) (event : NetworkEvent) :
    ArtifactPublicationInput where
  rootProgramId := event.rootProgramId
  delegatedAuthorityId := JsString.truthy event.delegatedAuthorityId
  issuerId := JsString.truthy event.issuerId
  destinationPolicyId := JsString.truthy event.destinationPolicyId
  body := body
  occurredAt := event.occurredAt

/-- `destinationPolicyProjectionFromArtifact`. -/
def destinationPolicyProjectionFromArtifact (js : JsRuntime) (body : JsonValue)
    (event : NetworkEvent) : Option (Except String DestinationPolicyProjection) :=
  if artifactBodyTypeIs body "destination_policy" then
    some (destinationPolicyProjectionFromArtifactPublicationInput js
      (publicationInputOfEvent body event))
  else none

/-- The policy an event projects, if its body decodes. -/
def projectedPolicy (js : JsRuntime) (body : JsonValue) (event : NetworkEvent) :
    Option DestinationPolicyProjection :=
  (destinationPolicyProjectionFromArtifact js body event).bind Except.toOption

/-- `statusEventFromArtifact`. -/
inductive StatusEvent where
  | revocation (body : RevocationStatusArtifactBody)
  | assurance (body : AssuranceStatusArtifactBody)

/-- The status event a body carries. -/
def statusEventFromArtifact (body : JsonValue) : Option StatusEvent :=
  ((revocationStatusArtifactBody body).map .revocation)
    <|> ((assuranceStatusArtifactBody body).map .assurance)

/-- The cache calls of a revocation that is not `active`. -/
def revocationCalls (body : RevocationStatusArtifactBody) : List CacheCall :=
  match body.targetType, body.targetIssuerId, body.targetDestinationPolicyId with
  | .issuerRecord, some issuerId, _ | .issuer, some issuerId, _
  | .certificate, some issuerId, _ =>
      let ns : IssuerNamespace := ⟨body.rootProgramId, body.delegatedAuthorityId, issuerId⟩
      [.removeIssuer ns, .removeDestinationPoliciesForIssuer ns]
  | .delegatedAuthority, _, _ =>
      [.removeDelegatedAuthority ⟨body.rootProgramId, body.delegatedAuthorityId⟩]
  | .destinationPolicy, some issuerId, some destinationPolicyId =>
      [.removeDestinationPolicy
        ⟨⟨body.rootProgramId, body.delegatedAuthorityId, issuerId⟩, destinationPolicyId⟩]
  | _, _, _ => []

/-- The cache calls of `applyStatusEvent`. -/
def applyStatusEventCalls : StatusEvent → List CacheCall
  | .assurance body =>
      [.updateIssuerAssuranceTier
        ⟨⟨body.rootProgramId, body.delegatedAuthorityId, body.targetIssuerId⟩,
          body.newAssuranceTier⟩]
  | .revocation body => if body.status = .active then [] else revocationCalls body

/-- `isTrustKeyStatus`. -/
def StatusEventStatus.trustKeyStatus : StatusEventStatus → Option TrustKeyStatus
  | .active => some .active
  | .suspended => some .suspended
  | .revoked => some .revoked
  | .expired => some .expired
  | .retired => none

/-- The key-status update of `applyKeyStatusEvent`: the signer is looked up
    again, and a delegated authority is confined to its own keys. -/
def keyStatusUpdate (registry : TrustKeyRegistry) (body : RevocationStatusArtifactBody) :
    Option TrustKeyStatusUpdateInput := do
  guard (body.targetType = .trustKey)
  let keyId ← body.targetKeyId
  let status ← body.status.trustKeyStatus
  let signer := lookupSignerKey registry
    { signedBy := body.signedBy
      rootProgramId := body.rootProgramId
      acceptedAlgorithmIds := [body.signatureAlgorithmId]
      delegatedAuthorityId := some body.delegatedAuthorityId }
  let key ← signer.key
  guard (signer.reason = none)
  return { rootProgramId := body.rootProgramId
           keyId := keyId
           status := status
           delegatedAuthorityId :=
             if key.scope = .rootProgram then none else some body.delegatedAuthorityId }

/-! ## The service -/

/-- The collaborators of the service: the host runtime, the artifact store, and
    a signature verifier whose answer is any function of registry and body. -/
structure SyncService where
  js : JsRuntime
  store : ArtifactStore
  verifyTrustArtifact :
    Option TrustKeyRegistry → JsonValue → SignatureVerificationResult

/-- What the service changes: the cache, and the key registry where it has one. -/
structure SyncState where
  cache : Cache
  trustKeyRegistry : Option TrustKeyRegistry

/-- One thing the service does to a collaborator. -/
inductive SyncAction where
  | verifyTrustArtifact (body : JsonValue) (result : SignatureVerificationResult)
  | cacheCall (call : CacheCall)
  | updateTrustKeyStatus (input : TrustKeyStatusUpdateInput)

/-- The state after an action; asking the verifier changes nothing. -/
def applyAction (s : SyncState) : SyncAction → SyncState
  | .verifyTrustArtifact _ _ => s
  | .cacheCall call => { s with cache := applyCall s.cache call }
  | .updateTrustKeyStatus input =>
      { s with
        trustKeyRegistry := s.trustKeyRegistry.map fun registry =>
          TrustKeys.updateTrustKeyStatus registry input }

variable (service : SyncService)

/-- The cache calls a body and its event lead to, in source order: contexts,
    issuer, policy, status event. -/
def projectionCalls (body : JsonValue) (event : NetworkEvent) : List CacheCall :=
  (rootAuthorityContextFromArtifact body).toList.map .upsertRootAuthorityContext
  ++ (delegatedAuthorityIssuerContextFromArtifact body).toList.map
      .upsertDelegatedAuthorityIssuerContext
  ++ (issuerProjectionFromArtifact body).toList.map .upsertIssuer
  ++ (projectedPolicy service.js body event).toList.map .upsertDestinationPolicy
  ++ (statusEventFromArtifact body).toList.flatMap applyStatusEventCalls

/-- The key-status update a body leads to. -/
def keyStatusUpdates (registry : Option TrustKeyRegistry) (body : JsonValue) :
    List TrustKeyStatusUpdateInput :=
  match registry, revocationStatusArtifactBody body with
  | some registry, some revocation => (keyStatusUpdate registry revocation).toList
  | _, _ => []

/-- Everything a body leads to once the gate let it pass. -/
def projectionActions (s : SyncState) (body : JsonValue) (event : NetworkEvent) :
    List SyncAction :=
  (projectionCalls service body event).map .cacheCall
    ++ (keyStatusUpdates s.trustKeyRegistry body).map .updateTrustKeyStatus

/-- The rejection a destination policy that does not decode leaves in the report. -/
def policyRejections (body : JsonValue) (event : NetworkEvent) : List String :=
  match destinationPolicyProjectionFromArtifact service.js body event with
  | some (.error _) => [event.artifactId ++ ":contract_validation_failed"]
  | _ => []

/-- What one event comes to. -/
structure EventPlan where
  actions : List SyncAction := []
  fetchedArtifact : Bool := false
  validatedTrustArtifact : Bool := false
  missingArtifacts : List String := []
  artifactHashMismatches : List String := []
  rejectedStatusEvents : List String := []

/-- Does the stored artifact hash to the hash the event names? -/
def hashesMatch (artifact : SignedArtifact) (event : NetworkEvent) : Bool :=
  artifact.artifactHash = event.artifactHash
    && artifact.artifactHash = "sha256:" ++ service.js.hashJson artifact.body

/-- The body of the event loop of `syncRecent`. -/
def planEvent (s : SyncState) (event : NetworkEvent) : EventPlan :=
  if event.type = "scanner.decision.recorded" then {}
  else
    match service.store.get? event.artifactId with
    | none => { missingArtifacts := [event.artifactId] }
    | some artifact =>
        if !hashesMatch service artifact event then
          { fetchedArtifact := true, artifactHashMismatches := [event.artifactId] }
        else if !isRecognizedTrustArtifact artifact.body then
          -- no signature is demanded, yet the body is still projected
          { actions := projectionActions service s artifact.body event
            fetchedArtifact := true
            rejectedStatusEvents := policyRejections service artifact.body event }
        else
          let result := service.verifyTrustArtifact s.trustKeyRegistry artifact.body
          let asked : SyncAction := .verifyTrustArtifact artifact.body result
          if !result.accepted then
            { actions := [asked]
              fetchedArtifact := true
              rejectedStatusEvents := [event.artifactId ++ ":" ++ result.reason] }
          else if !trustArtifactScopeMatchesBody artifact.body then
            { actions := [asked]
              fetchedArtifact := true
              rejectedStatusEvents := [event.artifactId ++ ":scope_mismatch"] }
          else
            { actions := asked :: projectionActions service s artifact.body event
              fetchedArtifact := true
              validatedTrustArtifact := true
              rejectedStatusEvents := policyRejections service artifact.body event }

/-- The service as a machine that plans actions for events. -/
def machine : Runs.Machine SyncState NetworkEvent SyncAction where
  plan s event := (planEvent service s event).actions
  apply := applyAction

/-! ## The report -/

/-- `VerifierSyncReport`. -/
structure VerifierSyncReport where
  processedEvents : Nat := 0
  fetchedArtifacts : Nat := 0
  validatedTrustArtifacts : Nat := 0
  projectedIssuers : Nat := 0
  projectedDestinationPolicies : Nat := 0
  appliedStatusEvents : Nat := 0
  appliedKeyStatusEvents : Nat := 0
  missingArtifacts : List String := []
  artifactHashMismatches : List String := []
  rejectedStatusEvents : List String := []

/-- Did a status call of the list find anything to change? -/
def anyCallFound : SyncState → List SyncAction → Bool
  | _, [] => false
  | s, .cacheCall call :: rest =>
      callFound s.cache call || anyCallFound (applyAction s (.cacheCall call)) rest
  | s, a :: rest => anyCallFound (applyAction s a) rest

/-- Did a key-status update of the list find its key? -/
def anyKeyUpdated : SyncState → List SyncAction → Bool
  | _, [] => false
  | s, .updateTrustKeyStatus input :: rest =>
      (s.trustKeyRegistry.bind fun registry => updatableKey registry input).isSome
        || anyKeyUpdated (applyAction s (.updateTrustKeyStatus input)) rest
  | s, a :: rest => anyKeyUpdated (applyAction s a) rest

/-- Add one event, met in state `s`, to a report. -/
def VerifierSyncReport.add (report : VerifierSyncReport) (s : SyncState) (plan : EventPlan) :
    VerifierSyncReport where
  processedEvents := report.processedEvents + 1
  fetchedArtifacts := report.fetchedArtifacts + plan.fetchedArtifact.toNat
  validatedTrustArtifacts := report.validatedTrustArtifacts + plan.validatedTrustArtifact.toNat
  projectedIssuers := report.projectedIssuers
    + plan.actions.countP fun a => a matches .cacheCall (.upsertIssuer _)
  projectedDestinationPolicies := report.projectedDestinationPolicies
    + plan.actions.countP fun a => a matches .cacheCall (.upsertDestinationPolicy _)
  appliedStatusEvents := report.appliedStatusEvents + (anyCallFound s plan.actions).toNat
  appliedKeyStatusEvents := report.appliedKeyStatusEvents + (anyKeyUpdated s plan.actions).toNat
  missingArtifacts := report.missingArtifacts ++ plan.missingArtifacts
  artifactHashMismatches := report.artifactHashMismatches ++ plan.artifactHashMismatches
  rejectedStatusEvents := report.rejectedStatusEvents ++ plan.rejectedStatusEvents

/-- `syncRecent`: the state and the report after the recent events. -/
def syncRecent (s : SyncState) (events : List NetworkEvent) : SyncState × VerifierSyncReport :=
  events.foldl
    (fun (acc : SyncState × VerifierSyncReport) event =>
      ((machine service).step acc.1 event,
        acc.2.add acc.1 (planEvent service acc.1 event)))
    (s, {})

/-- The state `syncRecent` leaves is the state of the machine's run. -/
theorem syncRecent_state (s : SyncState) (events : List NetworkEvent) :
    (syncRecent service s events).1 = (machine service).runState s events := by
  suffices h : ∀ (report : VerifierSyncReport) (s : SyncState),
      (events.foldl
        (fun (acc : SyncState × VerifierSyncReport) event =>
          ((machine service).step acc.1 event,
            acc.2.add acc.1 (planEvent service acc.1 event)))
        (s, report)).1 = (machine service).runState s events from h {} s
  induction events with
  | nil => intro report s; rfl
  | cons event rest ih =>
      intro report s
      rw [List.foldl_cons, Runs.Machine.runState_cons]
      exact ih _ _

end VerifierSync
