import QrTrust.Network.ArtifactPublication
import QrTrust.Network.PolicyDecoding

/-! # Materializing a verifier cache entry

    `materializeVerifierCacheEntry` reads five artifacts of one chain of trust
    (root manifest, delegated authority manifest, issuer record, destination
    policy, issuer status event), checks that they belong together, and turns
    them into the issuer and the policy projection of the verifier cache.  It
    throws at the first field or reference that does not fit; the texts are
    those of the source. -/

namespace CacheMaterialization

open VerifierCache ArtifactPublication
open PolicyDecoding (objectValue stringValue booleanValue arrayValue literalStringValue
  pathPrefixValue httpsUrlValue hostnameValue)

/-- The host functions the materialization calls. -/
structure MaterializationHost where
  js : JsRuntime
  /-- `String(value)` of a property -/
  stringOf : Option JsonValue → String
  /-- `date.toISOString()` of a valid date, given by its milliseconds -/
  toISOString : Int → String

/-! ## Field values -/

/-- `VerifierCacheStaleBehavior`. -/
inductive VerifierCacheStaleBehavior where
  | allow
  | downgradeToCaution
  | downgradeOrBlock
  | block
  deriving DecidableEq, Repr

/-- The status of an enrolment, a policy reference or an issuer. -/
inductive LifecycleStatus where
  | active
  | suspended
  | revoked
  deriving DecidableEq, Repr

/-- The status of a certificate or of a status event. -/
inductive CertificateStatus where
  | active
  | suspended
  | revoked
  | expired
  deriving DecidableEq, Repr

/-- The text of a lifecycle status. -/
def LifecycleStatus.text : LifecycleStatus → String
  | active => "active"
  | suspended => "suspended"
  | revoked => "revoked"

/-- The text of a certificate status. -/
def CertificateStatus.text : CertificateStatus → String
  | active => "active"
  | suspended => "suspended"
  | revoked => "revoked"
  | expired => "expired"

/-- `recordValue`. -/
def recordValue (value : Option JsonValue) (label : String) : Except String JsonValue :=
  objectValue value label

/-- `requireArray`. -/
def requireArray (value : Option JsonValue) (label : String) :
    Except String (List JsonValue) :=
  arrayValue value label

/-- `requireString`. -/
def requireString (value : Option JsonValue) (label : String) : Except String String :=
  stringValue value label

/-- `requireStringArray`: the strings may be empty. -/
def requireStringArray (value : Option JsonValue) (label : String) :
    Except String (List String) := do
  let entries ← requireArray value label
  match entries.mapM JsonValue.asString with
  | some strings => .ok strings
  | none => .error (label ++ " must contain only strings.")

/-- `requireNumber`. -/
def requireNumber (value : Option JsonValue) (label : String) : Except String Rat :=
  match value with
  | some (.num n) => .ok n
  | _ => .error (label ++ " must be a finite number.")

/-- `requireNonNegativeInteger`. -/
def requireNonNegativeInteger (value : Option JsonValue) (label : String) :
    Except String Rat := do
  let numericValue ← requireNumber value label
  if numericValue.den = 1 ∧ 0 ≤ numericValue then .ok numericValue
  else .error (label ++ " must be a non-negative integer.")

/-- `requireBoolean`. -/
def requireBoolean (value : Option JsonValue) (label : String) : Except String Bool :=
  booleanValue value label

/-- `requireLiteral`. -/
def requireLiteral (value : Option JsonValue) (label : String) (allowed : List String) :
    Except String String :=
  literalStringValue value label allowed

/-- `requirePathPrefix`. -/
def requirePathPrefix (value : Option JsonValue) (label : String) : Except String String :=
  pathPrefixValue value label

/-- `requireHttpsUrl`. -/
def requireHttpsUrl (js : JsRuntime) (value : Option JsonValue) (label : String) :
    Except String String :=
  httpsUrlValue js value label

/-- `requireHostname`. -/
def requireHostname (js : JsRuntime) (value : Option JsonValue) (label : String) :
    Except String String :=
  hostnameValue js value label

/-- `lifecycleStatus`. -/
def lifecycleStatus (value : Option JsonValue) (label : String) :
    Except String LifecycleStatus :=
  match value.bind JsonValue.asString with
  | some "active" => .ok .active
  | some "suspended" => .ok .suspended
  | some "revoked" => .ok .revoked
  | _ => .error (label ++ " must be active, suspended, or revoked.")

/-- `certificateStatus`. -/
def certificateStatus (value : Option JsonValue) (label : String) :
    Except String CertificateStatus :=
  match value.bind JsonValue.asString with
  | some "active" => .ok .active
  | some "suspended" => .ok .suspended
  | some "revoked" => .ok .revoked
  | some "expired" => .ok .expired
  | _ => .error (label ++ " must be active, suspended, revoked, or expired.")

/-- `statusValue`: the statuses of a status event are those of a certificate. -/
def statusValue (value : Option JsonValue) (label : String) :
    Except String CertificateStatus :=
  certificateStatus value label

/-- `staleBehavior`. -/
def staleBehavior (value : Option JsonValue) (label : String) :
    Except String VerifierCacheStaleBehavior :=
  match value.bind JsonValue.asString with
  | some "allow" => .ok .allow
  | some "downgrade_to_caution" => .ok .downgradeToCaution
  | some "downgrade_or_block" => .ok .downgradeOrBlock
  | some "block" => .ok .block
  | _ => .error (label ++ " is not a recognized stale behavior.")

/-! ## Checks -/

/-- `requireEqual` on a text that may be `undefined` and one that is not. -/
def requireEqual (actual : Option String) (expected message : String) :
    Except String Unit :=
  if actual = some expected then .ok ()
  else .error (message ++ ". Expected " ++ expected ++ ", got "
    ++ actual.getD "undefined" ++ ".")

/-- `requireTruthy` on a value that is missing or an object. -/
def requireTruthy {α : Type} (value : Option α) (message : String) : Except String α :=
  match value with
  | some a => .ok a
  | none => .error message

/-- `requireRefMatchesArtifact`. -/
def requireRefMatchesArtifact (artifactRef artifactId label : String) :
    Except String Unit :=
  if artifactRef = artifactId then .ok ()
  else .error (label ++ " " ++ artifactRef ++ " does not match artifact "
    ++ artifactId ++ ".")

/-! ## Artifact bodies -/

/-- `PublicationBody`. -/
structure PublicationBody where
  publishedAt : String
  validUntil : String
  deriving DecidableEq, Repr

/-- An entry of `delegated_authorities`. -/
structure DelegatedAuthorityEntry where
  delegatedAuthorityId : String
  manifestRef : String
  status : LifecycleStatus
  deriving DecidableEq, Repr

/-- `RootManifestBody`. -/
structure RootManifestBody where
  rootProgramId : String
  delegatedAuthorities : List DelegatedAuthorityEntry
  publication : PublicationBody
  deriving DecidableEq, Repr

/-- An entry of `enrolled_issuers`. -/
structure EnrolledIssuerEntry where
  issuerId : String
  issuerRecordRef : String
  assuranceTier : String
  status : LifecycleStatus
  deriving DecidableEq, Repr

/-- `DelegatedAuthorityBody`. -/
structure DelegatedAuthorityBody where
  rootProgramId : String
  delegatedAuthorityId : String
  enrolledIssuers : List EnrolledIssuerEntry
  publication : PublicationBody
  deriving DecidableEq, Repr

/-- An entry of the record's `destination_policies`. -/
structure PolicyReference where
  destinationPolicyId : String
  policyRef : String
  status : LifecycleStatus
  deriving DecidableEq, Repr

/-- The `status` of an issuer record. -/
structure IssuerRecordStatus where
  issuerStatus : LifecycleStatus
  certificateStatus : CertificateStatus
  statusEventRef : String
  deriving DecidableEq, Repr

/-- `IssuerRecordBody`. -/
structure IssuerRecordBody where
  issuerNamespace : IssuerNamespace
  issuerDisplayName : String
  assuranceTier : String
  certificateRefs : List String
  destinationPolicies : List PolicyReference
  status : IssuerRecordStatus
  publication : PublicationBody
  deriving DecidableEq, Repr

/-- `runtime_safety_policy`. -/
structure RuntimeSafetyPolicy where
  provider : String
  verdictTtlSeconds : Rat
  staleBehavior : VerifierCacheStaleBehavior
  unavailableBehavior : VerifierCacheStaleBehavior
  deriving DecidableEq, Repr

/-- `DestinationPolicyBody`. -/
structure DestinationPolicyBody where
  rootProgramId : String
  delegatedAuthorityId : String
  issuerId : String
  destinationPolicyId : String
  approvedDestinations : List DestinationPolicyRule
  redirectPolicy : RedirectPolicyProjection
  runtimeSafetyPolicy : RuntimeSafetyPolicy
  publication : PublicationBody
  deriving DecidableEq, Repr

/-- The `target` of a status event. -/
structure StatusTarget where
  targetType : String
  issuerId : Option String
  certificateRef : Option String
  deriving DecidableEq, Repr

/-- `StatusEventBody`. -/
structure StatusEventBody where
  rootProgramId : String
  delegatedAuthorityId : String
  target : StatusTarget
  status : CertificateStatus
  effectiveAt : String
  expiresAt : Option String
  deriving DecidableEq, Repr

/-- `publicationBody`. -/
def publicationBody (value : Option JsonValue) (label : String) :
    Except String PublicationBody := do
  let candidate ← recordValue value label
  let publishedAt ← requireString (candidate.prop "published_at") (label ++ " published_at")
  let validUntil ← requireString (candidate.prop "valid_until") (label ++ " valid_until")
  return { publishedAt, validUntil }

/-- `destinationRule`. -/
def destinationRule (js : JsRuntime) (value : JsonValue) :
    Except String DestinationPolicyRule := do
  let candidate ← recordValue (some value) "destination policy rule"
  let destinationId ←
    requireString (candidate.prop "destination_id") "destination destination_id"
  let expectedFinalUrl ←
    requireHttpsUrl js (candidate.prop "expected_final_url") "destination expected_final_url"
  let hosts ←
    requireStringArray (candidate.prop "allowed_hosts") "destination allowed_hosts"
  let allowedHosts ← hosts.mapM fun host =>
    requireHostname js (some (.str host)) "destination allowed_hosts[]"
  let allowSubdomains ←
    requireBoolean (candidate.prop "allow_subdomains") "destination allow_subdomains"
  let paths ←
    requireStringArray (candidate.prop "path_prefixes") "destination path_prefixes"
  let pathPrefixes ← paths.mapM fun path =>
    requirePathPrefix (some (.str path)) "destination path_prefixes[]"
  let queryPolicy ← requireLiteral (candidate.prop "query_policy") "destination query_policy"
    ["none", "allow_known_payment_query"]
  let allowedQueryKeys ←
    match candidate.prop "allowed_query_keys" with
    | none => pure none
    | some keys => do
        let strings ← requireStringArray (some keys) "destination allowed_query_keys"
        pure (some strings)
  return { destinationId, expectedFinalUrl, allowedHosts, allowSubdomains, pathPrefixes,
           queryPolicy, allowedQueryKeys }

/-- `redirectPolicy`. -/
def redirectPolicy (js : JsRuntime) (value : Option JsonValue) :
    Except String RedirectPolicyProjection := do
  let candidate ← recordValue value "redirect policy"
  let resolvers ←
    requireStringArray (candidate.prop "resolver_urls") "redirect resolver_urls"
  let resolverUrls ← resolvers.mapM fun url =>
    requireHttpsUrl js (some (.str url)) "redirect resolver_urls[]"
  let finals ← requireStringArray (candidate.prop "expected_final_destinations")
    "redirect expected_final_destinations"
  let expectedFinalDestinations ← finals.mapM fun url =>
    requireHttpsUrl js (some (.str url)) "redirect expected_final_destinations[]"
  let hosts ← requireStringArray (candidate.prop "allowed_redirect_hosts")
    "redirect allowed_redirect_hosts"
  let allowedRedirectHosts ← hosts.mapM fun host =>
    requireHostname js (some (.str host)) "redirect allowed_redirect_hosts[]"
  let maxRedirectHops ← requireNonNegativeInteger (candidate.prop "max_redirect_hops")
    "redirect max_redirect_hops"
  let nestedShortenersAllowed ← requireBoolean
    (candidate.prop "nested_shorteners_allowed") "redirect nested_shorteners_allowed"
  let scannerMustDisplayResolverAndFinalDestination ← requireBoolean
    (candidate.prop "scanner_must_display_resolver_and_final_destination")
    "redirect scanner_must_display_resolver_and_final_destination"
  return { resolverUrls, expectedFinalDestinations, allowedRedirectHosts, maxRedirectHops,
           nestedShortenersAllowed, scannerMustDisplayResolverAndFinalDestination }

variable (host : MaterializationHost)

/-- `recordBody`. -/
def recordBody (artifact : SignedArtifact) (expectedArtifactType : String) :
    Except String JsonValue := do
  let body ← recordValue (some artifact.body) (expectedArtifactType ++ " body")
  if body.stringField "artifact_type" = some expectedArtifactType then .ok body
  else .error ("Artifact " ++ artifact.artifactId ++ " expected " ++ expectedArtifactType
    ++ ", got " ++ host.stringOf (body.prop "artifact_type") ++ ".")

/-- An entry of `delegated_authorities`, as `rootManifestBody` reads it. -/
def delegatedAuthorityEntry (authority : JsonValue) :
    Except String DelegatedAuthorityEntry := do
  let candidate ← recordValue (some authority) "delegated authority"
  let delegatedAuthorityId ←
    requireString (candidate.prop "delegated_authority_id") "delegated authority id"
  let manifestRef ←
    requireString (candidate.prop "manifest_ref") "delegated authority manifest_ref"
  let status ← lifecycleStatus (candidate.prop "status") "delegated authority status"
  return { delegatedAuthorityId, manifestRef, status }

/-- `rootManifestBody`. -/
def rootManifestBody (artifact : SignedArtifact) : Except String RootManifestBody := do
  let body ← recordBody host artifact "root_manifest"
  let rootProgramId ←
    requireString (body.prop "root_program_id") "root manifest root_program_id"
  let authorities ← requireArray (body.prop "delegated_authorities")
    "root manifest delegated_authorities"
  let delegatedAuthorities ← authorities.mapM delegatedAuthorityEntry
  let publication ←
    publicationBody (body.prop "publication") "root manifest publication"
  return { rootProgramId, delegatedAuthorities, publication }

/-- An entry of `enrolled_issuers`, as `delegatedAuthorityBody` reads it. -/
def enrolledIssuerEntry (issuer : JsonValue) : Except String EnrolledIssuerEntry := do
  let candidate ← recordValue (some issuer) "enrolled issuer"
  let issuerId ← requireString (candidate.prop "issuer_id") "enrolled issuer id"
  let issuerRecordRef ←
    requireString (candidate.prop "issuer_record_ref") "enrolled issuer record ref"
  let assuranceTier ←
    requireString (candidate.prop "assurance_tier") "enrolled issuer assurance tier"
  let status ← lifecycleStatus (candidate.prop "status") "enrolled issuer status"
  return { issuerId, issuerRecordRef, assuranceTier, status }

/-- `delegatedAuthorityBody`: a manifest under either of its two type names. -/
def delegatedAuthorityBody (artifact : SignedArtifact) :
    Except String DelegatedAuthorityBody := do
  let body ← recordValue (some artifact.body) "delegated authority manifest"
  let artifactType := body.stringField "artifact_type"
  if artifactType = some "delegated_authority_manifest"
      ∨ artifactType = some "delegated_operator_manifest" then
    let rootProgramId ←
      requireString (body.prop "root_program_id") "delegated authority root_program_id"
    let delegatedAuthorityId ← requireString (body.prop "delegated_authority_id")
      "delegated authority delegated_authority_id"
    let issuers ← requireArray (body.prop "enrolled_issuers")
      "delegated authority enrolled_issuers"
    let enrolledIssuers ← issuers.mapM enrolledIssuerEntry
    let publication ←
      publicationBody (body.prop "publication") "delegated authority publication"
    return { rootProgramId, delegatedAuthorityId, enrolledIssuers, publication }
  else
    .error ("Expected delegated authority manifest, got "
      ++ host.stringOf (body.prop "artifact_type") ++ ".")

/-- An entry of the record's `destination_policies`. -/
def policyReference (policy : JsonValue) : Except String PolicyReference := do
  let candidate ← recordValue (some policy) "issuer destination policy"
  let destinationPolicyId ← requireString (candidate.prop "destination_policy_id")
    "issuer destination_policy_id"
  let policyRef ← requireString (candidate.prop "policy_ref") "issuer policy ref"
  let status ← lifecycleStatus (candidate.prop "status") "issuer policy status"
  return { destinationPolicyId, policyRef, status }

/-- `issuerRecordBody`. -/
def issuerRecordBody (artifact : SignedArtifact) : Except String IssuerRecordBody := do
  let body ← recordBody host artifact "issuer_record"
  let ns ← recordValue (body.prop "issuer_namespace") "issuer namespace"
  let status ← recordValue (body.prop "status") "issuer status"
  let rootProgramId ←
    requireString (ns.prop "root_program_id") "issuer namespace root_program_id"
  let delegatedAuthorityId ← requireString (ns.prop "delegated_authority_id")
    "issuer namespace delegated_authority_id"
  let issuerId ← requireString (ns.prop "issuer_id") "issuer namespace issuer_id"
  let issuerDisplayName ←
    requireString (body.prop "issuer_display_name") "issuer display name"
  let assuranceTier ← requireString (body.prop "assurance_tier") "issuer assurance tier"
  let certificateRefs ←
    requireStringArray (body.prop "certificate_refs") "issuer certificate refs"
  let policies ←
    requireArray (body.prop "destination_policies") "issuer destination policies"
  let destinationPolicies ← policies.mapM policyReference
  let issuerStatus ← lifecycleStatus (status.prop "issuer_status") "issuer status"
  let certStatus ← certificateStatus (status.prop "certificate_status") "certificate status"
  let statusEventRef ←
    requireString (status.prop "status_event_ref") "issuer status_event_ref"
  let publication ← publicationBody (body.prop "publication") "issuer publication"
  return {
      issuerNamespace := ⟨rootProgramId, delegatedAuthorityId, issuerId⟩
      issuerDisplayName, assuranceTier, certificateRefs, destinationPolicies
      status := ⟨issuerStatus, certStatus, statusEventRef⟩
      publication }

/-- `destinationPolicyBody`. -/
def destinationPolicyBody (artifact : SignedArtifact) :
    Except String DestinationPolicyBody := do
  let body ← recordBody host artifact "destination_policy"
  let runtimeSafetyPolicy ←
    recordValue (body.prop "runtime_safety_policy") "runtime safety policy"
  let rootProgramId ←
    requireString (body.prop "root_program_id") "destination policy root_program_id"
  let delegatedAuthorityId ← requireString (body.prop "delegated_authority_id")
    "destination policy delegated_authority_id"
  let issuerId ← requireString (body.prop "issuer_id") "destination policy issuer_id"
  let destinationPolicyId ←
    requireString (body.prop "destination_policy_id") "destination policy id"
  let destinations ← requireArray (body.prop "approved_destinations")
    "destination policy approved_destinations"
  let approvedDestinations ← destinations.mapM (destinationRule host.js)
  let redirect ← redirectPolicy host.js (body.prop "redirect_policy")
  let provider ← requireString (runtimeSafetyPolicy.prop "provider") "runtime provider"
  let verdictTtlSeconds ← requireNumber
    (runtimeSafetyPolicy.prop "verdict_ttl_seconds") "runtime verdict_ttl_seconds"
  let stale ←
    staleBehavior (runtimeSafetyPolicy.prop "stale_behavior") "runtime stale_behavior"
  let unavailable ← staleBehavior (runtimeSafetyPolicy.prop "unavailable_behavior")
    "runtime unavailable_behavior"
  let publication ←
    publicationBody (body.prop "publication") "destination policy publication"
  return {
      rootProgramId, delegatedAuthorityId, issuerId, destinationPolicyId
      approvedDestinations
      redirectPolicy := redirect
      runtimeSafetyPolicy := ⟨provider, verdictTtlSeconds, stale, unavailable⟩
      publication }

/-- `statusEventBody`: the optional fields count where they are strings. -/
def statusEventBody (artifact : SignedArtifact) : Except String StatusEventBody := do
  let body ← recordBody host artifact "revocation_status_event"
  let target ← recordValue (body.prop "target") "status target"
  let rootProgramId ← requireString (body.prop "root_program_id") "status root_program_id"
  let delegatedAuthorityId ← requireString (body.prop "delegated_authority_id")
    "status delegated_authority_id"
  let targetType ← requireString (target.prop "target_type") "status target_type"
  let status ← statusValue (body.prop "status") "status event status"
  let effectiveAt ← requireString (body.prop "effective_at") "status effective_at"
  return {
      rootProgramId, delegatedAuthorityId
      target := ⟨targetType, target.stringField "issuer_id",
        target.stringField "certificate_ref"⟩
      status, effectiveAt
      expiresAt := body.stringField "expires_at" }

/-! ## The entry -/

/-- `VerifierCacheMaterializationInput`; an invalid date has no milliseconds. -/
structure VerifierCacheMaterializationInput where
  rootManifest : SignedArtifact
  delegatedAuthorityManifest : SignedArtifact
  issuerRecord : SignedArtifact
  destinationPolicy : SignedArtifact
  statusEvent : SignedArtifact
  materializedAt : Option Int
  maxStalenessSeconds : Option Rat
  staleBehavior : Option VerifierCacheStaleBehavior

/-- `source_artifacts`. -/
structure SourceArtifacts where
  rootManifestRef : String
  delegatedOperatorManifestRef : String
  issuerRecordRef : String
  destinationPolicyRef : String
  statusEventRef : String
  deriving DecidableEq, Repr

/-- `scanner_trust_projection`. -/
structure ScannerTrustProjection where
  issuerLegitimacy : String
  destinationBinding : String
  runtimeSafety : String
  scannerDecisionIfClean : String
  scannerDecisionIfRisky : String
  approvedDestinationCount : Nat
  resolverPolicy : String
  deriving DecidableEq, Repr

/-- `freshness`. -/
structure CacheFreshness where
  statePublishedAt : String
  cacheGeneratedAt : String
  cacheExpiresAt : String
  maxStalenessSeconds : Rat
  staleBehavior : VerifierCacheStaleBehavior
  deriving DecidableEq, Repr

/-- `VerifierCacheEntryArtifactBody`, apart from its type and schema version. -/
structure VerifierCacheEntryArtifactBody where
  cacheEntryId : String
  effectiveIssuerNamespace : IssuerNamespace
  sourceArtifacts : SourceArtifacts
  certificateRef : String
  issuerDisplayName : String
  assuranceTier : String
  destinationPolicyId : String
  scannerTrustProjection : ScannerTrustProjection
  freshness : CacheFreshness
  deriving DecidableEq, Repr

/-- `VerifierCacheMaterializationReport`. -/
structure VerifierCacheMaterializationReport where
  cacheEntry : VerifierCacheEntryArtifactBody
  issuerProjection : IssuerProjection
  destinationPolicyProjection : DestinationPolicyProjection
  sourceArtifactHashes : List String
  materializationWarnings : List String
  deriving DecidableEq, Repr

/-- `normalizeDestinationRule`. -/
def normalizeDestinationRule (js : JsRuntime) (destination : DestinationPolicyRule) :
    DestinationPolicyRule :=
  { destination with allowedHosts := destination.allowedHosts.map js.toLowerCase }

/-- `[...new Set(values)]`. -/
def distinct (values : List String) : List String :=
  values.foldl (fun acc v => if v ∈ acc then acc else acc ++ [v]) []

/-- `allowedHosts`. -/
def allowedHosts (js : JsRuntime) (policy : DestinationPolicyBody) : List String :=
  distinct (policy.approvedDestinations.flatMap fun destination =>
    destination.allowedHosts.map js.toLowerCase)

/-- `value.replace(/^start/, "")`. -/
def dropStart (start value : String) : String :=
  if JsString.startsWith value start then String.ofList (value.toList.drop start.toList.length)
  else value

/-- `cacheEntryId`. -/
def cacheEntryId (js : JsRuntime) (ns : IssuerNamespace) (destinationPolicyId : String)
    (sourceArtifactHashes : List String) : String :=
  "cache:" ++ dropStart "issuer:" ns.issuerId ++ ":"
    ++ dropStart "policy:" destinationPolicyId ++ ":"
    ++ String.ofList ((js.hashJson (.obj
        [("namespace", .obj [("root_program_id", .str ns.rootProgramId),
            ("delegated_authority_id", .str ns.delegatedAuthorityId),
            ("issuer_id", .str ns.issuerId)]),
          ("destinationPolicyId", .str destinationPolicyId),
          ("sourceArtifactHashes", .arr (sourceArtifactHashes.map .str))])).toList.take 16)

/-- `latestIso`. -/
def latestIso (first : String) (rest : List String) : String :=
  rest.foldl (fun latest date => if JsString.less latest date then date else latest) first

/-- `earliestIso`. -/
def earliestIso (first : String) (rest : List String) : String :=
  rest.foldl (fun earliest date => if JsString.less date earliest then date else earliest)
    first

/-- `CACHE_MATERIALIZED_AFTER_EXPIRY_WARNING`. -/
def cacheMaterializedAfterExpiryWarning : String := "cache_materialized_after_expiry"

/-- `materializationWarnings`. -/
def materializationWarnings (materializedAt cacheExpiresAt : String) : List String :=
  if JsString.less cacheExpiresAt materializedAt then [cacheMaterializedAfterExpiryWarning]
  else []

/-- `date.toISOString()`. -/
def dateText (date : Option Int) : Except String String :=
  match date with
  | some t => .ok (host.toISOString t)
  | none => .error "Invalid time value"

/-! The checks of `materializeVerifierCacheEntryUnsafe`, in its order. -/

/-- The parts of the chain name one root program, authority and issuer. -/
def requireOneNamespace (root : RootManifestBody) (authority : DelegatedAuthorityBody)
    (record : IssuerRecordBody) (policy : DestinationPolicyBody) (event : StatusEventBody) :
    Except String Unit := do
  requireEqual authority.rootProgramId root.rootProgramId
    "delegated authority root_program_id must match root manifest"
  requireEqual record.issuerNamespace.rootProgramId root.rootProgramId
    "issuer root_program_id must match root manifest"
  requireEqual record.issuerNamespace.delegatedAuthorityId authority.delegatedAuthorityId
    "issuer delegated_authority_id must match delegated authority"
  requireEqual policy.rootProgramId record.issuerNamespace.rootProgramId
    "destination policy root_program_id must match issuer namespace"
  requireEqual policy.delegatedAuthorityId record.issuerNamespace.delegatedAuthorityId
    "destination policy delegated_authority_id must match issuer namespace"
  requireEqual policy.issuerId record.issuerNamespace.issuerId
    "destination policy issuer_id must match issuer namespace"
  requireEqual event.rootProgramId record.issuerNamespace.rootProgramId
    "status event root_program_id must match issuer namespace"
  requireEqual event.delegatedAuthorityId record.issuerNamespace.delegatedAuthorityId
    "status event delegated_authority_id must match issuer namespace"

/-- The root manifest delegates to the supplied authority manifest. -/
def requireDelegation (root : RootManifestBody) (authority : DelegatedAuthorityBody)
    (artifactId : String) : Except String Unit := do
  let entry ← requireTruthy
    (root.delegatedAuthorities.find? fun entry =>
      entry.delegatedAuthorityId = authority.delegatedAuthorityId)
    "root manifest does not delegate this authority"
  requireEqual entry.status.text "active"
    "delegated authority must be active in the root manifest"
  requireRefMatchesArtifact entry.manifestRef artifactId "delegated authority manifest ref"

/-- The authority enrols the supplied issuer record. -/
def requireEnrollment (authority : DelegatedAuthorityBody) (record : IssuerRecordBody)
    (artifactId : String) : Except String Unit := do
  let entry ← requireTruthy
    (authority.enrolledIssuers.find? fun entry =>
      entry.issuerId = record.issuerNamespace.issuerId)
    "delegated authority does not enroll this issuer"
  requireEqual entry.status.text "active"
    "issuer enrollment must be active in delegated authority manifest"
  requireRefMatchesArtifact entry.issuerRecordRef artifactId "issuer record ref"

/-- The issuer and its certificate are active. -/
def requireActiveRecord (record : IssuerRecordBody) : Except String Unit := do
  requireEqual record.status.issuerStatus.text "active"
    "issuer record must be active before cache materialization"
  requireEqual record.status.certificateStatus.text "active"
    "issuer certificate must be active before cache materialization"

/-- The record refers to the supplied policy. -/
def requirePolicyReference (record : IssuerRecordBody) (policy : DestinationPolicyBody)
    (artifactId : String) : Except String Unit := do
  let entry ← requireTruthy
    (record.destinationPolicies.find? fun entry =>
      entry.destinationPolicyId = policy.destinationPolicyId)
    "issuer record does not reference destination policy"
  requireEqual entry.status.text "active"
    "issuer destination policy reference must be active"
  requireRefMatchesArtifact entry.policyRef artifactId "destination policy ref"

/-- The status event is about the issuer record, and active. -/
def requireStatusEvent (record : IssuerRecordBody) (event : StatusEventBody) :
    Except String Unit := do
  requireEqual event.target.targetType "issuer_record"
    "materialized cache status event must target the issuer record"
  requireEqual event.target.issuerId record.issuerNamespace.issuerId
    "status event issuer target must match issuer record"
  requireEqual event.status.text "active"
    "status event must be active before cache materialization"

/-- The certificate the entry is for. -/
def requireCertificateRef (record : IssuerRecordBody) (event : StatusEventBody) :
    Except String String := do
  let certificateRef ← requireTruthy
    (JsString.truthy (event.target.certificateRef <|> record.certificateRefs.head?))
    "issuer record must expose at least one certificate ref"
  if certificateRef ∈ record.certificateRefs then .ok certificateRef
  else .error "status event certificate ref must belong to the issuer record"

/-! ## The report -/

/-- The issuer projection of the report. -/
def issuerProjection (js : JsRuntime) (record : IssuerRecordBody)
    (policy : DestinationPolicyBody) (materializedAt cacheExpiresAt : String) :
    IssuerProjection where
  ns := record.issuerNamespace
  issuerDisplayName := record.issuerDisplayName
  assuranceTier := record.assuranceTier
  destinationPolicyId := policy.destinationPolicyId
  allowedHosts := allowedHosts js policy
  cacheGeneratedAt := materializedAt
  cacheExpiresAt := cacheExpiresAt

/-- The policy projection of the report. -/
def destinationPolicyProjection (js : JsRuntime) (record : IssuerRecordBody)
    (policy : DestinationPolicyBody) (materializedAt cacheExpiresAt : String) :
    DestinationPolicyProjection where
  ns := record.issuerNamespace
  destinationPolicyId := policy.destinationPolicyId
  approvedDestinations := policy.approvedDestinations.map (normalizeDestinationRule js)
  redirectPolicy :=
    { policy.redirectPolicy with
      allowedRedirectHosts :=
        policy.redirectPolicy.allowedRedirectHosts.map js.toLowerCase }
  allowedHosts := allowedHosts js policy
  allowSubdomains := policy.approvedDestinations.any fun destination =>
    destination.allowSubdomains
  cacheGeneratedAt := materializedAt
  cacheExpiresAt := cacheExpiresAt

/-- The publication times of the chain, the oldest source first. -/
def publishedTimes (authority : DelegatedAuthorityBody) (record : IssuerRecordBody)
    (policy : DestinationPolicyBody) (event : StatusEventBody) : List String :=
  [authority.publication.publishedAt, record.publication.publishedAt,
    policy.publication.publishedAt, event.effectiveAt]

/-- The expiry times of the chain after that of the root manifest. -/
def expiryTimes (authority : DelegatedAuthorityBody) (record : IssuerRecordBody)
    (policy : DestinationPolicyBody) (event : StatusEventBody) : List String :=
  [authority.publication.validUntil, record.publication.validUntil,
    policy.publication.validUntil] ++ event.expiresAt.toList

/-- `sourceArtifactHashes`. -/
def sourceArtifactHashes (input : VerifierCacheMaterializationInput) : List String :=
  [input.rootManifest.artifactHash, input.delegatedAuthorityManifest.artifactHash,
    input.issuerRecord.artifactHash, input.destinationPolicy.artifactHash,
    input.statusEvent.artifactHash]

/-- The cache entry of the report. -/
def cacheEntry (js : JsRuntime) (input : VerifierCacheMaterializationInput)
    (record : IssuerRecordBody) (policy : DestinationPolicyBody)
    (certificateRef statePublishedAt materializedAt cacheExpiresAt : String) :
    VerifierCacheEntryArtifactBody where
  cacheEntryId := cacheEntryId js record.issuerNamespace policy.destinationPolicyId
    (sourceArtifactHashes input)
  effectiveIssuerNamespace := record.issuerNamespace
  sourceArtifacts := ⟨input.rootManifest.artifactId,
    input.delegatedAuthorityManifest.artifactId, input.issuerRecord.artifactId,
    input.destinationPolicy.artifactId, input.statusEvent.artifactId⟩
  certificateRef := certificateRef
  issuerDisplayName := record.issuerDisplayName
  assuranceTier := record.assuranceTier
  destinationPolicyId := policy.destinationPolicyId
  scannerTrustProjection := {
    issuerLegitimacy := "recognized"
    destinationBinding := "policy_bound"
    runtimeSafety := "provider_required"
    scannerDecisionIfClean := "verified_issuer"
    scannerDecisionIfRisky := "verified_issuer_destination_risky"
    approvedDestinationCount := policy.approvedDestinations.length
    resolverPolicy :=
      if 0 < policy.redirectPolicy.resolverUrls.length then
        "resolver_final_destination_required"
      else "direct_destination_only" }
  freshness := {
    statePublishedAt := statePublishedAt
    cacheGeneratedAt := materializedAt
    cacheExpiresAt := cacheExpiresAt
    maxStalenessSeconds := input.maxStalenessSeconds.getD 3600
    staleBehavior := input.staleBehavior.getD policy.runtimeSafetyPolicy.staleBehavior }

/-- `materializeVerifierCacheEntryUnsafe`. -/
def materializeVerifierCacheEntryUnsafe (input : VerifierCacheMaterializationInput) :
    Except String VerifierCacheMaterializationReport := do
  let rootManifest ← rootManifestBody host input.rootManifest
  let delegatedAuthority ← delegatedAuthorityBody host input.delegatedAuthorityManifest
  let issuerRecord ← issuerRecordBody host input.issuerRecord
  let destinationPolicy ← destinationPolicyBody host input.destinationPolicy
  let statusEvent ← statusEventBody host input.statusEvent
  requireOneNamespace rootManifest delegatedAuthority issuerRecord destinationPolicy
    statusEvent
  requireDelegation rootManifest delegatedAuthority
    input.delegatedAuthorityManifest.artifactId
  requireEnrollment delegatedAuthority issuerRecord input.issuerRecord.artifactId
  requireActiveRecord issuerRecord
  requirePolicyReference issuerRecord destinationPolicy input.destinationPolicy.artifactId
  requireStatusEvent issuerRecord statusEvent
  let certificateRef ← requireCertificateRef issuerRecord statusEvent
  let statePublishedAt := latestIso rootManifest.publication.publishedAt
    (publishedTimes delegatedAuthority issuerRecord destinationPolicy statusEvent)
  let cacheExpiresAt := earliestIso rootManifest.publication.validUntil
    (expiryTimes delegatedAuthority issuerRecord destinationPolicy statusEvent)
  let materializedAt ← dateText host input.materializedAt
  return {
      cacheEntry := cacheEntry host.js input issuerRecord destinationPolicy certificateRef
        statePublishedAt materializedAt cacheExpiresAt
      issuerProjection := issuerProjection host.js issuerRecord destinationPolicy
        materializedAt cacheExpiresAt
      destinationPolicyProjection := destinationPolicyProjection host.js issuerRecord
        destinationPolicy materializedAt cacheExpiresAt
      sourceArtifactHashes := sourceArtifactHashes input
      materializationWarnings := materializationWarnings materializedAt cacheExpiresAt }

/-- `materializeVerifierCacheEntry`: the message of the failure covers every cause. -/
def materializeVerifierCacheEntry (input : VerifierCacheMaterializationInput) :
    Except (String × String) VerifierCacheMaterializationReport :=
  (materializeVerifierCacheEntryUnsafe host input).mapError fun cause =>
    ("Verifier cache entry could not be materialized from the supplied artifact chain.",
      cause)

end CacheMaterialization
