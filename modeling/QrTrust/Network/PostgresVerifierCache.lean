import QrTrust.Network.ArtifactPublication
import QrTrust.Network.PolicyDecoding
import Mathlib.Data.List.Sort

/-! # The verifier cache in Postgres

    A row of `qr_trust.verifier_cache_entries` holds an issuer record and a
    destination policy together, under one authority context, one generation
    date and one expiry.  Either half may be a placeholder.  A writer call is
    one statement on the rows; a reader loads all rows into an in-memory cache
    and asks that one. -/

namespace PostgresVerifierCache

open VerifierCache

/-! ## Rows -/

/-- The `authority_context` of a row. -/
structure AuthorityContext where
  rootManifestAuthorizesAuthority : Bool
  delegatedAuthorityAuthorizesIssuer : Bool
  deriving DecidableEq, Repr

/-- The `issuer` of a row; `placeholder` and `projection_kind` are always written
    together. -/
structure RowIssuer where
  placeholder : Bool
  displayName : String
  assuranceTier : String
  deriving DecidableEq, Repr

/-- The `destination_policy` of a row. -/
structure RowDestinationPolicy where
  approvedDestinations : List DestinationPolicyRule
  redirectPolicy : RedirectPolicyProjection
  deriving DecidableEq, Repr

/-- `scanner_trust_projection`. -/
structure ScannerTrustProjection where
  authorityContext : AuthorityContext
  issuer : RowIssuer
  destinationPolicy : RowDestinationPolicy
  deriving DecidableEq, Repr

/-- A row of one verifier, apart from its key; times are in milliseconds. -/
structure VerifierCacheRow where
  scannerTrustProjection : ScannerTrustProjection
  cacheGeneratedAt : Int
  cacheExpiresAt : Int
  createdAt : Int
  deriving DecidableEq, Repr

/-- The rows of one verifier under their primary key. -/
abbrev VerifierCacheTable := OrderedMap DestinationPolicyKey VerifierCacheRow

/-- Reading and writing dates: `Date.parse`, the cast `::timestamptz`, and
    `toISOString`. -/
structure DateHost where
  parse : String → Option Int
  timestamptz : String → Option Int
  toISOString : Int → String

/-- What a statement meets besides the rows of the cache: the published
    artifacts, the clock, and whether the constraints of the schema let it
    through. -/
structure Database where
  publishedArtifacts : ArtifactPublication.PublishedArtifacts
  /-- `->>`, which turns any value into text -/
  jsonText : JsonValue → Option String
  now : Int
  executes : CacheCall → Bool

/-! ## The statements -/

/-- `emptyDestinationPolicyProjection`. -/
def emptyDestinationPolicyProjection : RowDestinationPolicy where
  approvedDestinations := []
  redirectPolicy :=
    { resolverUrls := []
      expectedFinalDestinations := []
      allowedRedirectHosts := []
      maxRedirectHops := 0
      nestedShortenersAllowed := false
      scannerMustDisplayResolverAndFinalDestination := true }

/-- `fallbackIssuerProjection`. -/
def fallbackIssuerProjection (projection : DestinationPolicyProjection) : RowIssuer where
  placeholder := true
  displayName := projection.ns.issuerId
  assuranceTier := "source_of_truth_destination_policy"

/-- A manifest lists a member as active: an element of the array under `list` has
    the id under `field` and the status `active`. -/
def listsActive (db : Database) (manifest : JsonValue) (list field id : String) : Bool :=
  ((manifest.prop list).bind JsonValue.asArray |>.getD []).any fun element =>
    (element.prop field).bind db.jsonText = some id
      && (element.prop "status").bind db.jsonText = some "active"

/-- `durableAuthorityContextSql`: the context that the published manifests give a
    namespace. -/
def durableAuthorityContext (db : Database) (ns : IssuerNamespace) : AuthorityContext where
  rootManifestAuthorizesAuthority :=
    db.publishedArtifacts.values.any fun artifact =>
      artifact.rootProgramId = ns.rootProgramId && artifact.artifactType = "root_manifest"
        && listsActive db artifact.canonicalJson "delegated_authorities"
          "delegated_authority_id" ns.delegatedAuthorityId
  delegatedAuthorityAuthorizesIssuer :=
    db.publishedArtifacts.values.any fun artifact =>
      artifact.rootProgramId = ns.rootProgramId
        && artifact.delegatedAuthorityId = some ns.delegatedAuthorityId
        && artifact.artifactType = "delegated_authority_manifest"
        && listsActive db artifact.canonicalJson "enrolled_issuers" "issuer_id" ns.issuerId

/-- Insert a row, or merge it into the row under its key: the context is the new
    one, the half that is not written stays, and the dates are the latest
    generation and the earliest expiry. -/
def upsertRow (table : VerifierCacheTable) (key : DestinationPolicyKey)
    (excluded : VerifierCacheRow)
    (merged : ScannerTrustProjection → ScannerTrustProjection) : VerifierCacheTable :=
  match table.get? key with
  | none => table.set key excluded
  | some row =>
      table.set key
        { row with
          scannerTrustProjection := merged row.scannerTrustProjection
          cacheGeneratedAt := max row.cacheGeneratedAt excluded.cacheGeneratedAt
          cacheExpiresAt := min row.cacheExpiresAt excluded.cacheExpiresAt }

/-- `upsertVerifierCacheDestinationPolicyCommand`. -/
def upsertVerifierCacheDestinationPolicyCommand (dates : DateHost) (db : Database)
    (projection : DestinationPolicyProjection) (table : VerifierCacheTable) :
    Option VerifierCacheTable := do
  let cacheGeneratedAt ← dates.timestamptz projection.cacheGeneratedAt
  let cacheExpiresAt ← dates.timestamptz projection.cacheExpiresAt
  let written : ScannerTrustProjection :=
    { authorityContext := durableAuthorityContext db projection.ns
      issuer := fallbackIssuerProjection projection
      destinationPolicy := ⟨projection.approvedDestinations, projection.redirectPolicy⟩ }
  return upsertRow table ⟨projection.ns, projection.destinationPolicyId⟩
    ⟨written, cacheGeneratedAt, cacheExpiresAt, db.now⟩
    fun row => { written with issuer := row.issuer }

/-- `upsertVerifierCacheIssuerCommand`. -/
def upsertVerifierCacheIssuerCommand (dates : DateHost) (db : Database)
    (projection : IssuerProjection) (table : VerifierCacheTable) :
    Option VerifierCacheTable := do
  let cacheGeneratedAt ← dates.timestamptz projection.cacheGeneratedAt
  let cacheExpiresAt ← dates.timestamptz projection.cacheExpiresAt
  let written : ScannerTrustProjection :=
    { authorityContext := durableAuthorityContext db projection.ns
      issuer := ⟨false, projection.issuerDisplayName, projection.assuranceTier⟩
      destinationPolicy := emptyDestinationPolicyProjection }
  return upsertRow table ⟨projection.ns, projection.destinationPolicyId⟩
    ⟨written, cacheGeneratedAt, cacheExpiresAt, db.now⟩
    fun row => { written with destinationPolicy := row.destinationPolicy }

/-- Set part of the projection of the rows that a `where` clause picks. -/
def updateWhere (picks : DestinationPolicyKey → Bool)
    (change : DestinationPolicyKey → ScannerTrustProjection → ScannerTrustProjection)
    (table : VerifierCacheTable) : VerifierCacheTable :=
  table.update fun key row =>
    if picks key then
      { row with scannerTrustProjection := change key row.scannerTrustProjection }
    else row

/-- `upsertVerifierCacheRootAuthorityContextCommand`. -/
def upsertVerifierCacheRootAuthorityContextCommand (context : RootAuthorityContext) :
    VerifierCacheTable → VerifierCacheTable :=
  updateWhere (fun key => key.ns.rootProgramId = context.rootProgramId) fun key projection =>
    { projection with
      authorityContext :=
        { projection.authorityContext with
          rootManifestAuthorizesAuthority :=
            context.activeDelegatedAuthorityIds.contains key.ns.delegatedAuthorityId } }

/-- `upsertVerifierCacheDelegatedAuthorityIssuerContextCommand`. -/
def upsertVerifierCacheDelegatedAuthorityIssuerContextCommand
    (context : DelegatedAuthorityIssuerContext) : VerifierCacheTable → VerifierCacheTable :=
  updateWhere
    (fun key => key.ns.rootProgramId = context.rootProgramId
      && key.ns.delegatedAuthorityId = context.delegatedAuthorityId) fun key projection =>
    { projection with
      authorityContext :=
        { projection.authorityContext with
          delegatedAuthorityAuthorizesIssuer :=
            context.activeIssuerIds.contains key.ns.issuerId } }

/-- `updateVerifierCacheIssuerAssuranceTierCommand`: placeholders keep their
    tier. -/
def updateVerifierCacheIssuerAssuranceTierCommand (input : IssuerAssuranceTierUpdate) :
    VerifierCacheTable → VerifierCacheTable :=
  updateWhere (fun key => key.ns = input.ns) fun _ projection =>
    if projection.issuer.placeholder then projection
    else
      { projection with
        issuer := { projection.issuer with assuranceTier := input.assuranceTier } }

/-- `deleteVerifierCacheIssuerCommand`. -/
def deleteVerifierCacheIssuerCommand (ns : IssuerNamespace) (table : VerifierCacheTable) :
    VerifierCacheTable :=
  table.filter fun entry => entry.1.ns ≠ ns

/-- `deleteVerifierCacheDestinationPolicyCommand`. -/
def deleteVerifierCacheDestinationPolicyCommand (key : DestinationPolicyKey)
    (table : VerifierCacheTable) : VerifierCacheTable :=
  table.erase key

/-- `deleteVerifierCacheDelegatedAuthorityCommand`. -/
def deleteVerifierCacheDelegatedAuthorityCommand (key : DelegatedAuthorityKey)
    (table : VerifierCacheTable) : VerifierCacheTable :=
  table.filter fun entry => !delegatedAuthorityEquals entry.1.ns key

/-- `makePostgresVerifierCacheWriter`: the rows after the statement of a call,
    unless it fails.  The removal of an issuer's policies is the removal of the
    issuer. -/
def executeCall (dates : DateHost) (db : Database) (table : VerifierCacheTable)
    (call : CacheCall) : Option VerifierCacheTable :=
  if !db.executes call then none
  else match call with
    | .upsertIssuer projection =>
        upsertVerifierCacheIssuerCommand dates db projection table
    | .upsertDestinationPolicy projection =>
        upsertVerifierCacheDestinationPolicyCommand dates db projection table
    | .upsertRootAuthorityContext context =>
        some (upsertVerifierCacheRootAuthorityContextCommand context table)
    | .upsertDelegatedAuthorityIssuerContext context =>
        some (upsertVerifierCacheDelegatedAuthorityIssuerContextCommand context table)
    | .updateIssuerAssuranceTier input =>
        some (updateVerifierCacheIssuerAssuranceTierCommand input table)
    | .removeIssuer ns => some (deleteVerifierCacheIssuerCommand ns table)
    | .removeDestinationPolicy key =>
        some (deleteVerifierCacheDestinationPolicyCommand key table)
    | .removeDestinationPoliciesForIssuer ns =>
        some (deleteVerifierCacheIssuerCommand ns table)
    | .removeDelegatedAuthority key =>
        some (deleteVerifierCacheDelegatedAuthorityCommand key table)

/-! ## Decoding a row -/

section Decoding

open PolicyDecoding (normalizeHost isDnsName)

variable (js : JsRuntime)

/-- `requireStringField`. -/
def requireStringField (value field : String) : Except String String :=
  if value ≠ "" then .ok value
  else .error ("Expected " ++ field ++ " to be a non-empty string.")

/-- `requireHttpsUrlValue`. -/
def requireHttpsUrlValue (value field : String) : Except String String :=
  let rawValue := JsString.trim value
  if rawValue = "" then .error ("Expected " ++ field ++ " to be a non-empty string.")
  else match js.parseUrl rawValue with
    | none => .error ("Expected " ++ field ++ " to be a valid URL.")
    | some url =>
        if url.protocol ≠ "https:" then .error ("Expected " ++ field ++ " to use https.")
        else if url.username ≠ "" ∨ url.password ≠ "" then
          .error ("Expected " ++ field ++ " to omit credentials.")
        else .ok rawValue

/-- `requireHostnameValue`. -/
def requireHostnameValue (value field : String) : Except String String :=
  let hostname := normalizeHost js value
  if isDnsName hostname then .ok hostname
  else .error ("Expected " ++ field ++ " to be a DNS hostname.")

/-- `requirePathPrefixValue`. -/
def requirePathPrefixValue (value field : String) : Except String String :=
  let pathPrefix := JsString.trim value
  if JsString.startsWith pathPrefix "/" then .ok pathPrefix
  else .error ("Expected " ++ field ++ " to start with /.")

/-- `requireLiteralField`. -/
def requireLiteralField (value field : String) (allowed : List String) : Except String String :=
  if value ∈ allowed then .ok value
  else .error ("Expected " ++ field ++ " to be one of: " ++ ", ".intercalate allowed ++ ".")

/-- `requireNonNegativeIntegerField`. -/
def requireNonNegativeIntegerField (value : Rat) (field : String) : Except String Rat :=
  if value.den = 1 ∧ 0 ≤ value then .ok value
  else .error ("Expected " ++ field ++ " to be a non-negative integer.")

/-- The decoder of one rule in `decodeApprovedDestinations`. -/
def decodeApprovedDestination (record : DestinationPolicyRule) :
    Except String DestinationPolicyRule := do
  let destinationId ← requireStringField record.destinationId "destination_id"
  let expectedFinalUrl ← requireHttpsUrlValue js record.expectedFinalUrl "expected_final_url"
  let allowedHosts ← record.allowedHosts.mapM fun host =>
    requireHostnameValue js host "allowed_hosts[]"
  let pathPrefixes ← record.pathPrefixes.mapM fun path =>
    requirePathPrefixValue path "path_prefixes[]"
  let queryPolicy ← requireLiteralField record.queryPolicy "query_policy"
    ["none", "allow_known_payment_query"]
  return { record with destinationId, expectedFinalUrl, allowedHosts, pathPrefixes, queryPolicy }

/-- `decodeApprovedDestinations`. -/
def decodeApprovedDestinations (values : List DestinationPolicyRule) :
    Except String (List DestinationPolicyRule) :=
  values.mapM (decodeApprovedDestination js)

/-- `decodeRedirectPolicy`. -/
def decodeRedirectPolicy (record : RedirectPolicyProjection) :
    Except String RedirectPolicyProjection := do
  let resolverUrls ← record.resolverUrls.mapM fun url =>
    requireHttpsUrlValue js url "resolver_urls[]"
  let expectedFinalDestinations ← record.expectedFinalDestinations.mapM fun url =>
    requireHttpsUrlValue js url "expected_final_destinations[]"
  let allowedRedirectHosts ← record.allowedRedirectHosts.mapM fun host =>
    requireHostnameValue js host "allowed_redirect_hosts[]"
  let maxRedirectHops ←
    requireNonNegativeIntegerField record.maxRedirectHops "max_redirect_hops"
  return { record with
    resolverUrls, expectedFinalDestinations, allowedRedirectHosts, maxRedirectHops }

/-- `uniqueStrings`. -/
def uniqueStrings (values : List String) : List String :=
  values.foldl (fun acc value => if value ∈ acc then acc else acc ++ [value]) []

/-- `authorityContextAllowsResolution`. -/
def authorityContextAllowsResolution (projection : ScannerTrustProjection) : Bool :=
  projection.authorityContext.rootManifestAuthorizesAuthority
    && projection.authorityContext.delegatedAuthorityAuthorizesIssuer

/-- `DecodedVerifierCacheEntry`. -/
structure DecodedVerifierCacheEntry where
  issuer : IssuerProjection
  policy : DestinationPolicyProjection
  deriving DecidableEq, Repr

/-- `decodeVerifierCacheEntryRow`: a row without authority or without an issuer
    record is passed over, and a row that cannot be read is an error. -/
def decodeVerifierCacheEntryRow (dates : DateHost)
    (entry : DestinationPolicyKey × VerifierCacheRow) :
    Except String (Option DecodedVerifierCacheEntry) := do
  let (key, row) := entry
  let rootProgramId ← requireStringField key.ns.rootProgramId "root_program_id"
  let delegatedAuthorityId ←
    requireStringField key.ns.delegatedAuthorityId "delegated_authority_id"
  let issuerId ← requireStringField key.ns.issuerId "issuer_id"
  let projection := row.scannerTrustProjection
  if !authorityContextAllowsResolution projection then return none
  if projection.issuer.placeholder then return none
  let approvedDestinations ←
    decodeApprovedDestinations js projection.destinationPolicy.approvedDestinations
  let destinationPolicyId ←
    requireStringField key.destinationPolicyId "destination_policy_id"
  let allowedHosts := uniqueStrings
    (approvedDestinations.flatMap DestinationPolicyRule.allowedHosts)
  let issuerDisplayName ← requireStringField projection.issuer.displayName "display_name"
  let assuranceTier ← requireStringField projection.issuer.assuranceTier "assurance_tier"
  let redirectPolicy ← decodeRedirectPolicy js projection.destinationPolicy.redirectPolicy
  let ns : IssuerNamespace := ⟨rootProgramId, delegatedAuthorityId, issuerId⟩
  let cacheGeneratedAt := dates.toISOString row.cacheGeneratedAt
  let cacheExpiresAt := dates.toISOString row.cacheExpiresAt
  return some
    { issuer :=
        { ns, issuerDisplayName, assuranceTier, destinationPolicyId, allowedHosts,
          cacheGeneratedAt, cacheExpiresAt }
      policy :=
        { ns, destinationPolicyId, approvedDestinations, redirectPolicy, allowedHosts
          allowSubdomains := approvedDestinations.any DestinationPolicyRule.allowSubdomains
          cacheGeneratedAt, cacheExpiresAt } }

end Decoding

/-! ## Reading -/

/-- `order by cache_expires_at desc, created_at desc`. -/
def readOrder (a b : DestinationPolicyKey × VerifierCacheRow) : Prop :=
  b.2.cacheExpiresAt < a.2.cacheExpiresAt
    ∨ (b.2.cacheExpiresAt = a.2.cacheExpiresAt ∧ b.2.createdAt ≤ a.2.createdAt)

instance : DecidableRel readOrder := fun _ _ => inferInstanceAs (Decidable (_ ∨ _))

/-- `loadCache`: the rows in reading order, decoded into an in-memory cache. -/
def loadCache (js : JsRuntime) (dates : DateHost) (table : VerifierCacheTable) :
    Except String Cache := do
  let decoded ←
    (table.entries.insertionSort readOrder).mapM (decodeVerifierCacheEntryRow js dates)
  let entries := decoded.filterMap id
  return makeInMemoryVerifierCache (entries.map DecodedVerifierCacheEntry.issuer)
    (entries.map DecodedVerifierCacheEntry.policy)

/-- `loadCacheOrMiss`: rows that cannot be read leave no cache at all. -/
def loadCacheOrMiss (js : JsRuntime) (dates : DateHost) (table : VerifierCacheTable) : Cache :=
  match loadCache js dates table with
  | .ok cache => cache
  | .error _ => makeInMemoryVerifierCache [] []

/-- `resolveByHost` of the Postgres cache. -/
def resolveByHost (reader : Reader) (dates : DateHost) (table : VerifierCacheTable)
    (host : String) : Option IssuerProjection :=
  VerifierCache.resolveByHost reader (loadCacheOrMiss reader.js dates table) host

/-- `resolveByDestination` of the Postgres cache. -/
def resolveByDestination (reader : Reader) (dates : DateHost) (table : VerifierCacheTable)
    (destinationUrl : Url) (issuerHintHost : Option String) : Option DestinationResolution :=
  VerifierCache.resolveByDestination reader (loadCacheOrMiss reader.js dates table)
    destinationUrl issuerHintHost

/-! ## What a decision reads of a resolution -/

/-- `CacheFreshnessCheckStatus`. -/
inductive CacheFreshnessCheckStatus where
  | fresh
  | stale
  | expired
  | unavailable
  deriving DecidableEq, Repr

/-- `cacheFreshnessStatus`. -/
def cacheFreshnessStatus (dates : DateHost) (resolution : DestinationResolution)
    (observedAt : Int) : CacheFreshnessCheckStatus :=
  match dates.parse resolution.issuer.cacheExpiresAt,
      dates.parse resolution.issuer.cacheGeneratedAt with
  | some expiresAt, some generatedAt =>
      if generatedAt > observedAt then .stale
      else if expiresAt ≤ observedAt then .expired
      else .fresh
  | _, _ => .unavailable

/-- **VERIFICATION STATE**: who answers for which destination under which policy,
    bound or not and why, how fresh, and from when until when.  Dates are read as
    instants, since the two caches spell them differently. -/
structure VerificationState where
  ns : IssuerNamespace
  destinationPolicyId : String
  issuerDisplayName : String
  assuranceTier : String
  approvedDestinations : List DestinationPolicyRule
  redirectPolicy : RedirectPolicyProjection
  destination : DestinationPolicyRule
  bindingStatus : BindingStatus
  reasonCodes : List String
  resolverUrl : Option String
  finalUrl : Option String
  observedRedirectHops : Option Nat
  cacheGeneratedAt : Option Int
  cacheExpiresAt : Option Int
  freshness : CacheFreshnessCheckStatus
  deriving DecidableEq

/-- The verification state of a resolution at a time. -/
def verificationState (dates : DateHost) (observedAt : Int)
    (resolution : DestinationResolution) : VerificationState where
  ns := resolution.issuer.ns
  destinationPolicyId := resolution.issuer.destinationPolicyId
  issuerDisplayName := resolution.issuer.issuerDisplayName
  assuranceTier := resolution.issuer.assuranceTier
  approvedDestinations := resolution.policy.approvedDestinations
  redirectPolicy := resolution.policy.redirectPolicy
  destination := resolution.destination
  bindingStatus := resolution.bindingStatus
  reasonCodes := resolution.reasonCodes
  resolverUrl := resolution.resolverUrl
  finalUrl := resolution.finalUrl
  observedRedirectHops := resolution.observedRedirectHops
  cacheGeneratedAt := dates.parse resolution.issuer.cacheGeneratedAt
  cacheExpiresAt := dates.parse resolution.issuer.cacheExpiresAt
  freshness := cacheFreshnessStatus dates resolution observedAt

/-! ## The two caches side by side -/

/-- A call of the writer with the database it meets. -/
structure Issued where
  db : Database
  call : CacheCall

/-- The rows in Postgres and the cache in memory. -/
structure Caches where
  table : VerifierCacheTable
  cache : Cache

/-- Both caches without content. -/
def Caches.empty : Caches := ⟨.empty, .empty⟩

/-- One call on both caches; a statement that fails changes no row. -/
def Caches.apply (dates : DateHost) (s : Caches) (issued : Issued) : Caches where
  table := (executeCall dates issued.db s.table issued.call).getD s.table
  cache := applyCall s.cache issued.call

end PostgresVerifierCache
