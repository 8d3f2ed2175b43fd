import QrTrust.Network.StoredJson
import QrTrust.Network.VerifierSync
import QrTrust.Network.GovernancePublication

/-! # Planning a governance publication from a database row

    One row of the registry database joins a root program, a delegated
    authority, an issuer and a destination policy that are all active.
    `planGovernancePublicationFromPostgresRow` turns it into the four artifacts
    of a publication plan, and throws where a JSON column does not have the
    shape the artifacts need. -/

namespace GovernancePublicationSource

open TrustKeys VerifierCache VerifierSync GovernancePublication
open PolicyDecoding (objectValue arrayValue booleanValue httpsUrlValue hostnameValue
  pathPrefixValue normalizeHost uniqueStrings)

/-- The host functions the planner calls. -/
structure PlanningHost where
  js : JsRuntime
  /-- `String(value)` of a number. -/
  numberText : Rat → String
  /-- `Number(value)` of a text of digits; `none` where it overflows to infinity. -/
  numberOf : String → Option Rat
  /-- `new Date(time).toISOString()`; `none` where the date is out of range. -/
  dateText : Rat → Option String

/-- The usage policy of a destination policy. -/
inductive UsagePolicy where
  | reusablePublic
  | oneTime
  | timeLimited
  deriving DecidableEq, Repr

/-- The text of a usage policy. -/
def UsagePolicy.text : UsagePolicy → String
  | reusablePublic => "reusable_public"
  | oneTime => "one_time"
  | timeLimited => "time_limited"

/-- The text of a key status. -/
def keyStatusText : TrustKeyStatus → String
  | .active => "active"
  | .suspended => "suspended"
  | .revoked => "revoked"
  | .expired => "expired"

/-- The text of an issuer status. -/
def issuerStatusText : StatusEventStatus → String
  | .active => "active"
  | .suspended => "suspended"
  | .revoked => "revoked"
  | .expired => "expired"
  | .retired => "retired"

/-- `PostgresGovernancePublicationBundleRow`, as its decoder leaves it: the JSON
    columns are objects, and the ids are not empty (kept here for the two that
    sign).  The columns that can only hold `active` are left out. -/
structure PostgresGovernancePublicationBundleRow where
  rootProgramId : String
  rootName : String
  rootProgramScope : String
  rootAcceptedAlgorithmIds : List String
  rootTrustKeys : List TrustKeyRecord
  rootPolicyConstraints : JsonValue.JsonObject
  delegatedAuthorityId : String
  delegatedAuthorityName : String
  delegatedAuthorityType : String
  delegatedAuthorityScope : JsonValue.JsonObject
  delegatedAuthorityAssuranceRequirements : JsonValue.JsonObject
  delegatedAuthorityTrustKeys : List TrustKeyRecord
  issuerId : String
  issuerDisplayName : String
  issuerClass : String
  issuerAssuranceTier : String
  issuerAssuranceEvidence : JsonValue.JsonObject
  issuerCertificateRefs : List String
  issuerStatusEventRef : String
  issuerStatusEventStatus : StatusEventStatus
  destinationPolicyId : String
  destinationPolicyUsagePolicy : UsagePolicy
  destinationPolicyApprovedDestinations : List JsonValue
  destinationPolicyRedirectPolicy : JsonValue.JsonObject
  destinationPolicyRuntimeSafetyPolicy : JsonValue.JsonObject
  destinationPolicyVersion : Rat
  rootProgramId_ne : rootProgramId ≠ ""
  delegatedAuthorityId_ne : delegatedAuthorityId ≠ ""

/-- `namespaceFromRow`. -/
def namespaceFromRow (row : PostgresGovernancePublicationBundleRow) : IssuerNamespace :=
  ⟨row.rootProgramId, row.delegatedAuthorityId, row.issuerId⟩

/-! ## Artifact ids -/

/-- A decimal digit. -/
def isDigit (c : Char) : Bool := '0' ≤ c && c ≤ '9'

/-- `/^\d+$/.test(value)`. -/
def isDigits (value : String) : Bool := value ≠ "" && value.toList.all isDigit

/-- `value.replace(/:v\d+$/i, "")`: a version at the end goes. -/
def dropVersionSuffix (value : String) : String :=
  let reversed := value.toList.reverse
  match reversed.takeWhile isDigit, reversed.dropWhile isDigit with
  | _ :: _, v :: ':' :: rest =>
      if v = 'v' ∨ v = 'V' then String.ofList rest.reverse else value
  | _, _ => value

/-- A character a slug keeps. -/
def isSlugChar (c : Char) : Bool := ('a' ≤ c && c ≤ 'z') || isDigit c

variable (host : PlanningHost)

/-- `slug`: the runs of slug characters, joined by underscores. -/
def slug (value : String) : String :=
  let runs := ((host.js.toLowerCase value).toList.splitOnP fun c => !isSlugChar c).filter (· ≠ [])
  String.ofList (runs.intersperse ['_']).flatten

/-- `artifactSlug`. -/
def artifactSlug (value family : String) : String :=
  let unprefixed :=
    if JsString.startsWith value (family ++ ":") then
      String.ofList (value.toList.drop (family ++ ":").length)
    else value
  slug host (dropVersionSuffix unprefixed)

/-- `GovernanceArtifactIds`. -/
structure GovernanceArtifactIds where
  rootManifestArtifactId : String
  delegatedAuthorityArtifactId : String
  issuerRecordArtifactId : String
  destinationPolicyArtifactId : String

/-- `governanceArtifactIds`. -/
def governanceArtifactIds (row : PostgresGovernancePublicationBundleRow) :
    GovernanceArtifactIds where
  rootManifestArtifactId := "art_root_" ++ artifactSlug host row.rootProgramId "root" ++ "_v1"
  delegatedAuthorityArtifactId :=
    "art_authority_" ++ artifactSlug host row.delegatedAuthorityId "authority" ++ "_v1"
  issuerRecordArtifactId := "art_issuer_" ++ artifactSlug host row.issuerId "issuer" ++ "_v1"
  destinationPolicyArtifactId :=
    "art_policy_" ++ artifactSlug host row.destinationPolicyId "policy" ++ "_v"
      ++ host.numberText row.destinationPolicyVersion

/-! ## Column values -/

/-- `requireStringValue`. -/
def requireStringValue (value : Option JsonValue) (field : String) : Except String String :=
  match value with
  | some (.str s) =>
      if s ≠ "" then .ok s
      else .error ("Postgres governance publication row is missing " ++ field ++ ".")
  | _ => .error ("Postgres governance publication row is missing " ++ field ++ ".")

/-- `requireHttpsUrlValue`. -/
def requireHttpsUrlValue (value : Option JsonValue) (field : String) : Except String String := do
  let text ← requireStringValue value field
  httpsUrlValue host.js (some (.str text)) field

/-- `requireHostnameValue`. -/
def requireHostnameValue (value : Option JsonValue) (field : String) : Except String String := do
  let text ← requireStringValue value field
  hostnameValue host.js (some (.str text)) field

/-- `requirePathPrefixValue`. -/
def requirePathPrefixValue (value : Option JsonValue) (field : String) :
    Except String String := do
  let text ← requireStringValue value field
  pathPrefixValue (some (.str text)) field

/-- `requireLiteralValue`. -/
def requireLiteralValue (value : Option JsonValue) (field : String) (allowed : List String) :
    Except String String :=
  match value.bind JsonValue.asString with
  | some s =>
      if s ∈ allowed then .ok s
      else .error ("Postgres governance publication row has invalid " ++ field ++ ".")
  | none => .error ("Postgres governance publication row has invalid " ++ field ++ ".")

/-- `positiveIntegerOrDefault`; `none` is infinity. -/
def positiveIntegerOrDefault (value : Option JsonValue) (fallback : Rat) (field : String) :
    Except String (Option Rat) :=
  match value with
  | none | some .null => .ok (some fallback)
  | some (.num n) =>
      if n.den = 1 ∧ 0 < n then .ok (some n)
      else .error (field ++ " must be a positive integer.")
  | some (.str s) =>
      if isDigits s ∧ (host.numberOf s).all (0 < ·) then .ok (host.numberOf s)
      else .error (field ++ " must be a positive integer.")
  | _ => .error (field ++ " must be a positive integer.")

/-- `requireNonNegativeIntegerValue`; `none` is infinity. -/
def requireNonNegativeIntegerValue (value : Option JsonValue) (field : String) :
    Except String (Option Rat) :=
  match value with
  | some (.num n) =>
      if n.den = 1 ∧ 0 ≤ n then .ok (some n)
      else .error (field ++ " must be a non-negative integer.")
  | some (.str s) =>
      if isDigits s then .ok (host.numberOf s)
      else .error (field ++ " must be a non-negative integer.")
  | _ => .error (field ++ " must be a non-negative integer.")

/-! ## The destination policy of the row -/

/-- `destinationRuleFromUnknown`. -/
def destinationRuleFromUnknown (value : JsonValue) : Except String DestinationPolicyRule := do
  let rule ← objectValue (some value) "destination policy rule"
  let destinationId ← requireStringValue (rule.prop "destination_id") "destination_id"
  let expectedFinalUrl ←
    requireHttpsUrlValue host (rule.prop "expected_final_url") "expected_final_url"
  let hosts ← arrayValue (rule.prop "allowed_hosts") "allowed_hosts"
  let allowedHosts ← hosts.mapM fun name =>
    requireHostnameValue host (some name) "allowed_hosts[]"
  let allowSubdomains ← booleanValue (rule.prop "allow_subdomains") "allow_subdomains"
  let paths ← arrayValue (rule.prop "path_prefixes") "path_prefixes"
  let pathPrefixes ← paths.mapM fun path => requirePathPrefixValue (some path) "path_prefixes[]"
  let queryPolicy ← requireLiteralValue (rule.prop "query_policy") "query_policy"
    ["none", "allow_known_payment_query"]
  let allowedQueryKeys ←
    match (rule.prop "allowed_query_keys").filter SignatureVerification.truthyValue with
    | none => pure none
    | some keys => do
        let items ← arrayValue (some keys) "allowed_query_keys"
        let names ← items.mapM fun key => requireStringValue (some key) "allowed_query_keys[]"
        pure (some names)
  return { destinationId, expectedFinalUrl, allowedHosts, allowSubdomains, pathPrefixes,
           queryPolicy, allowedQueryKeys }

/-- An array of strings. -/
def stringsValue (values : List String) : JsonValue := .arr (values.map .str)

/-- A rule as the body carries it. -/
def ruleBody (rule : DestinationPolicyRule) : JsonValue :=
  .obj
    ([("destination_id", .str rule.destinationId),
      ("expected_final_url", .str rule.expectedFinalUrl),
      ("allowed_hosts", stringsValue rule.allowedHosts),
      ("allow_subdomains", .bool rule.allowSubdomains),
      ("path_prefixes", stringsValue rule.pathPrefixes),
      ("query_policy", .str rule.queryPolicy)]
      ++ match rule.allowedQueryKeys with
        | none => []
        | some keys => [("allowed_query_keys", stringsValue keys)])

/-- `redirectPolicyFromUnknown`, as the body carries it; JSON writes infinity as null. -/
def redirectPolicyFromUnknown (value : JsonValue) : Except String JsonValue := do
  let resolvers ← arrayValue (value.prop "resolver_urls") "resolver_urls"
  let resolverUrls ← resolvers.mapM fun url =>
    requireHttpsUrlValue host (some url) "resolver_urls[]"
  let finals ←
    arrayValue (value.prop "expected_final_destinations") "expected_final_destinations"
  let expectedFinalDestinations ← finals.mapM fun url =>
    requireHttpsUrlValue host (some url) "expected_final_destinations[]"
  let hosts ← arrayValue (value.prop "allowed_redirect_hosts") "allowed_redirect_hosts"
  let allowedRedirectHosts ← hosts.mapM fun name =>
    requireHostnameValue host (some name) "allowed_redirect_hosts[]"
  let maxRedirectHops ←
    requireNonNegativeIntegerValue host (value.prop "max_redirect_hops") "max_redirect_hops"
  let nestedShortenersAllowed ←
    booleanValue (value.prop "nested_shorteners_allowed") "nested_shorteners_allowed"
  let scannerMustDisplayResolverAndFinalDestination ←
    booleanValue (value.prop "scanner_must_display_resolver_and_final_destination")
      "scanner_must_display_resolver_and_final_destination"
  return .obj
    [("resolver_urls", stringsValue resolverUrls),
     ("expected_final_destinations", stringsValue expectedFinalDestinations),
     ("allowed_redirect_hosts", stringsValue allowedRedirectHosts),
     ("max_redirect_hops", (maxRedirectHops.map .num).getD .null),
     ("nested_shorteners_allowed", .bool nestedShortenersAllowed),
     ("scanner_must_display_resolver_and_final_destination",
       .bool scannerMustDisplayResolverAndFinalDestination)]

/-- `date.toISOString()`. -/
def isoString (time : Rat) : Except String String :=
  match host.dateText time with
  | none => .error "Invalid time value"
  | some text => .ok text

/-- `validUntil`. -/
def validUntil (occurredAt : Rat) (runtimeSafetyPolicy : JsonValue) : Except String String := do
  let ttlSeconds ← positiveIntegerOrDefault host
    (runtimeSafetyPolicy.prop "publication_ttl_seconds") 86400 "publication_ttl_seconds"
  match ttlSeconds with
  | none => .error "Invalid time value"
  | some ttlSeconds => isoString host (occurredAt + ttlSeconds * 1000)

/-- The projection that `destinationPolicyProjectionFromRow` makes, its redirect
    policy as the body carries it. -/
structure DestinationPolicyOfRow where
  ns : IssuerNamespace
  destinationPolicyId : String
  approvedDestinations : List DestinationPolicyRule
  redirectPolicy : JsonValue
  allowedHosts : List String
  allowSubdomains : Bool
  cacheGeneratedAt : String
  cacheExpiresAt : String

variable (row : PostgresGovernancePublicationBundleRow) (occurredAt : Rat)

/-- The runtime-safety policy of the row. -/
def runtimeSafetyPolicy : JsonValue := .obj row.destinationPolicyRuntimeSafetyPolicy.fields

/-- `destinationPolicyProjectionFromRow`. -/
def destinationPolicyProjectionFromRow : Except String DestinationPolicyOfRow := do
  let approvedDestinations ←
    row.destinationPolicyApprovedDestinations.mapM (destinationRuleFromUnknown host)
  let cacheGeneratedAt ← isoString host occurredAt
  let redirectPolicy ←
    redirectPolicyFromUnknown host (.obj row.destinationPolicyRedirectPolicy.fields)
  let cacheExpiresAt ← validUntil host occurredAt (runtimeSafetyPolicy row)
  return {
      ns := namespaceFromRow row
      destinationPolicyId := row.destinationPolicyId
      approvedDestinations
      redirectPolicy
      allowedHosts := uniqueStrings
        (approvedDestinations.flatMap fun destination =>
          destination.allowedHosts.map (normalizeHost host.js))
      allowSubdomains := approvedDestinations.any fun destination =>
        destination.allowSubdomains
      cacheGeneratedAt
      cacheExpiresAt }

/-! ## The bodies -/

/-- `publicationMetadata`. -/
def publicationMetadata (signedBy : String) : Except String JsonValue := do
  let publishedAt ← isoString host occurredAt
  let validUntil ← validUntil host occurredAt (runtimeSafetyPolicy row)
  return .obj
    [("published_at", .str publishedAt), ("valid_until", .str validUntil),
     ("signed_by", .str signedBy), ("signature_status", .str "pending_publication_signature")]

/-- `trustKeyManifestEntry`. -/
def trustKeyManifestEntry (key : TrustKeyRecord) : JsonValue :=
  .obj
    [("key_id", .str key.keyId), ("signer_id", .str key.signerId),
     ("algorithm_id", .str key.algorithmId),
     ("public_key_material_ref", .str key.publicKeyMaterialRef),
     ("status", .str (keyStatusText key.status))]

/-- `rootManifestBodyFromRow`. -/
def rootManifestBodyFromRow (ids : GovernanceArtifactIds) : Except String JsonValue := do
  let publication ← publicationMetadata host row occurredAt row.rootProgramId
  return .obj
    [("artifact_type", .str "root_manifest"),
     ("schema_version", .str "0.1.0"),
     ("root_program_id", .str row.rootProgramId),
     ("name", .str row.rootName),
     ("program_scope", .str row.rootProgramScope),
     ("accepted_algorithm_ids", stringsValue row.rootAcceptedAlgorithmIds),
     ("trust_keys", .arr (row.rootTrustKeys.map trustKeyManifestEntry)),
     ("policy_constraints", .obj row.rootPolicyConstraints.fields),
     ("delegated_authorities", .arr
       [.obj
         [("delegated_authority_id", .str row.delegatedAuthorityId),
          ("name", .str row.delegatedAuthorityName),
          ("manifest_ref", .str ids.delegatedAuthorityArtifactId),
          ("status", .str "active")]]),
     ("publication", publication)]

/-- `delegatedAuthorityScopeFromRow`. -/
def delegatedAuthorityScopeFromRow (scope : List (String × JsonValue)) : List String :=
  match (JsonValue.obj scope).stringArrayField "allowed_operator_scope" with
  | some allowedOperatorScope => allowedOperatorScope
  | none =>
      (scope.filter fun entry => entry.2.asBool = some true).map Prod.fst

/-- `delegatedAuthorityManifestBodyFromRow`. -/
def delegatedAuthorityManifestBodyFromRow (ids : GovernanceArtifactIds) :
    Except String JsonValue := do
  let publication ← publicationMetadata host row occurredAt row.rootProgramId
  return .obj
    [("artifact_type", .str "delegated_authority_manifest"),
     ("schema_version", .str "0.1.0"),
     ("root_program_id", .str row.rootProgramId),
     ("delegated_authority_id", .str row.delegatedAuthorityId),
     ("operator_name", .str row.delegatedAuthorityName),
     ("operator_class", .str row.delegatedAuthorityType),
     ("scope", stringsValue (delegatedAuthorityScopeFromRow row.delegatedAuthorityScope.fields)),
     ("trust_keys", .arr (row.delegatedAuthorityTrustKeys.map trustKeyManifestEntry)),
     ("assurance_requirements", .obj row.delegatedAuthorityAssuranceRequirements.fields),
     ("enrolled_issuers", .arr
       [.obj
         [("issuer_id", .str row.issuerId),
          ("issuer_record_ref", .str ids.issuerRecordArtifactId),
          ("assurance_tier", .str row.issuerAssuranceTier),
          ("status", .str "active")]]),
     ("publication", publication)]

/-- `issuerRecordBodyFromRow`. -/
def issuerRecordBodyFromRow (ids : GovernanceArtifactIds) : Except String JsonValue := do
  let publication ← publicationMetadata host row occurredAt row.delegatedAuthorityId
  return .obj
    [("artifact_type", .str "issuer_record"),
     ("schema_version", .str "0.1.0"),
     ("issuer_namespace", .obj
       [("root_program_id", .str row.rootProgramId),
        ("delegated_authority_id", .str row.delegatedAuthorityId),
        ("issuer_id", .str row.issuerId)]),
     ("issuer_display_name", .str row.issuerDisplayName),
     ("issuer_class", .str row.issuerClass),
     ("assurance_tier", .str row.issuerAssuranceTier),
     ("assurance_evidence", .obj row.issuerAssuranceEvidence.fields),
     ("certificate_refs", stringsValue row.issuerCertificateRefs),
     ("destination_policies", .arr
       [.obj
         [("destination_policy_id", .str row.destinationPolicyId),
          ("policy_ref", .str ids.destinationPolicyArtifactId),
          ("usage_policy", .str row.destinationPolicyUsagePolicy.text),
          ("status", .str "active")]]),
     ("inspection_scope", .obj
       [("passive_public_checks", .bool true),
        ("runtime_reputation_checks", .str "delegated-provider"),
        ("authenticated_or_invasive_testing", .bool false)]),
     ("status", .obj
       [("issuer_status", .str (issuerStatusText row.issuerStatusEventStatus)),
        ("certificate_status", .str "active"),
        ("status_event_ref", .str row.issuerStatusEventRef)]),
     ("publication", publication)]

/-- `destinationPolicyBodyFromRow`. -/
def destinationPolicyBodyFromRow (policy : DestinationPolicyOfRow) : Except String JsonValue := do
  let publication ← publicationMetadata host row occurredAt policy.ns.delegatedAuthorityId
  return .obj
    [("artifact_type", .str "destination_policy"),
     ("schema_version", .str "0.1.0"),
     ("root_program_id", .str policy.ns.rootProgramId),
     ("delegated_authority_id", .str policy.ns.delegatedAuthorityId),
     ("issuer_id", .str policy.ns.issuerId),
     ("destination_policy_id", .str policy.destinationPolicyId),
     ("usage_policy", .str row.destinationPolicyUsagePolicy.text),
     ("approved_destinations", .arr (policy.approvedDestinations.map ruleBody)),
     ("redirect_policy", policy.redirectPolicy),
     ("runtime_safety_policy", runtimeSafetyPolicy row),
     ("publication", publication)]

/-! ## The plan -/

/-- `planGovernancePublicationFromPostgresRow`. -/
def planGovernancePublicationFromPostgresRow :
    Except String GovernancePublicationPlanArtifacts := do
  let ids := governanceArtifactIds host row
  let destinationPolicy ← destinationPolicyProjectionFromRow host row occurredAt
  let rootManifestBody ← rootManifestBodyFromRow host row occurredAt ids
  let delegatedAuthorityBody ← delegatedAuthorityManifestBodyFromRow host row occurredAt ids
  let issuerRecordBody ← issuerRecordBodyFromRow host row occurredAt ids
  let destinationPolicyBody ← destinationPolicyBodyFromRow host row occurredAt destinationPolicy
  return {
      rootManifest :=
        { artifactType := "root_manifest"
          artifactId := ids.rootManifestArtifactId
          version := 1
          rootProgramId := row.rootProgramId
          body := rootManifestBody
          occurredAt
          eventType := "root.manifest.published"
          reason := "source-of-truth root manifest publication" }
      delegatedAuthority :=
        { artifactType := "delegated_authority_manifest"
          artifactId := ids.delegatedAuthorityArtifactId
          version := 1
          rootProgramId := row.rootProgramId
          delegatedAuthorityId := some row.delegatedAuthorityId
          body := delegatedAuthorityBody
          occurredAt
          eventType := "delegated_authority.manifest.published"
          reason := "source-of-truth delegated authority publication" }
      issuerRecord :=
        { artifactType := "issuer_record"
          artifactId := ids.issuerRecordArtifactId
          version := 1
          rootProgramId := row.rootProgramId
          delegatedAuthorityId := some row.delegatedAuthorityId
          issuerId := some row.issuerId
          destinationPolicyId := some row.destinationPolicyId
          body := issuerRecordBody
          occurredAt
          eventType := "issuer.record.published"
          reason := "source-of-truth issuer record publication" }
      destinationPolicy :=
        { artifactType := "destination_policy"
          artifactId := ids.destinationPolicyArtifactId
          version := row.destinationPolicyVersion
          rootProgramId := destinationPolicy.ns.rootProgramId
          delegatedAuthorityId := some destinationPolicy.ns.delegatedAuthorityId
          issuerId := some destinationPolicy.ns.issuerId
          destinationPolicyId := some destinationPolicy.destinationPolicyId
          body := destinationPolicyBody
          occurredAt
          eventType := "destination.policy.published"
          reason := "source-of-truth destination policy publication" } }

end GovernancePublicationSource
