import QrTrust.Network.Json

/-! # The in-memory verifier cache

    The cache keeps issuer projections and destination policies in two maps
    under one key, `verifierCachePolicyKey`, and beside them which delegated
    authorities are active under a root and which issuers under an authority.
    Writers change it by `CacheCall`s; readers ask `resolveByHost` and
    `resolveByDestination`. -/

namespace VerifierCache

/-! ## Projections -/

/-- `IssuerNamespace`. -/
structure IssuerNamespace where
  rootProgramId : String
  delegatedAuthorityId : String
  issuerId : String
  deriving DecidableEq, Repr

/-- `DestinationPolicyKey`. -/
structure DestinationPolicyKey where
  ns : IssuerNamespace
  destinationPolicyId : String
  deriving DecidableEq, Repr

/-- `RootAuthorityContext`. -/
structure RootAuthorityContext where
  rootProgramId : String
  activeDelegatedAuthorityIds : List String
  deriving DecidableEq, Repr

/-- `DelegatedAuthorityIssuerContext`. -/
structure DelegatedAuthorityIssuerContext where
  rootProgramId : String
  delegatedAuthorityId : String
  activeIssuerIds : List String
  deriving DecidableEq, Repr

/-- `DelegatedAuthorityKey`. -/
structure DelegatedAuthorityKey where
  rootProgramId : String
  delegatedAuthorityId : String
  deriving DecidableEq, Repr

/-- `IssuerAssuranceTierUpdate`. -/
structure IssuerAssuranceTierUpdate where
  ns : IssuerNamespace
  assuranceTier : String
  deriving DecidableEq, Repr

/-- `IssuerProjection`. -/
structure IssuerProjection where
  ns : IssuerNamespace
  issuerDisplayName : String
  assuranceTier : String
  destinationPolicyId : String
  allowedHosts : List String
  cacheGeneratedAt : String
  cacheExpiresAt : String
  deriving DecidableEq, Repr

/-- `DestinationPolicyRule`. -/
structure DestinationPolicyRule where
  destinationId : String
  expectedFinalUrl : String
  allowedHosts : List String
  allowSubdomains : Bool
  pathPrefixes : List String
  queryPolicy : String
  allowedQueryKeys : Option (List String)
  deriving DecidableEq, Repr

/-- `RedirectPolicyProjection`. -/
structure RedirectPolicyProjection where
  resolverUrls : List String
  expectedFinalDestinations : List String
  allowedRedirectHosts : List String
  maxRedirectHops : Rat
  nestedShortenersAllowed : Bool
  scannerMustDisplayResolverAndFinalDestination : Bool
  deriving DecidableEq, Repr

/-- `DestinationPolicyProjection`. -/
structure DestinationPolicyProjection where
  ns : IssuerNamespace
  destinationPolicyId : String
  approvedDestinations : List DestinationPolicyRule
  redirectPolicy : RedirectPolicyProjection
  allowedHosts : List String
  allowSubdomains : Bool
  cacheGeneratedAt : String
  cacheExpiresAt : String
  deriving DecidableEq, Repr

/-- `verifierCachePolicyKey`. -/
def verifierCachePolicyKey (ns : IssuerNamespace) (destinationPolicyId : String) : String :=
  JsString.joinUnitSeparator
    [ns.rootProgramId, ns.delegatedAuthorityId, ns.issuerId, destinationPolicyId]

/-- The key of an issuer projection. -/
def IssuerProjection.policyKey (p : IssuerProjection) : String :=
  verifierCachePolicyKey p.ns p.destinationPolicyId

/-- The key of a destination policy. -/
def DestinationPolicyProjection.policyKey (p : DestinationPolicyProjection) : String :=
  verifierCachePolicyKey p.ns p.destinationPolicyId

/-- `authorityIssuerKey`. -/
def authorityIssuerKey (ns : IssuerNamespace) : String :=
  JsString.joinUnitSeparator [ns.rootProgramId, ns.delegatedAuthorityId, ns.issuerId]

/-- The prefix of every `authorityIssuerKey` under an authority. -/
def authorityPrefix (rootProgramId delegatedAuthorityId : String) : String :=
  JsString.joinUnitSeparator [rootProgramId, delegatedAuthorityId, ""]

/-- `delegatedAuthorityEquals`. -/
def delegatedAuthorityEquals (ns : IssuerNamespace) (key : DelegatedAuthorityKey) : Bool :=
  ns.rootProgramId = key.rootProgramId && ns.delegatedAuthorityId = key.delegatedAuthorityId

/-! ## The cache and its writers -/

/-- The maps and sets of `makeInMemoryVerifierCache`. -/
structure Cache where
  issuersByPolicyKey : OrderedMap String IssuerProjection
  policiesByKey : OrderedMap String DestinationPolicyProjection
  activeDelegatedAuthoritiesByRoot : OrderedMap String (List String)
  activeIssuersByAuthority : List String

/-- The empty cache. -/
def Cache.empty : Cache := ⟨.empty, .empty, .empty, []⟩

/-- Add the members of a list to a set. -/
def addAll (set : List String) (members : List String) : List String :=
  members.foldl (fun acc m => acc.insert m) set

/-- `mergeRootAuthorityContextSync`. -/
def mergeRootAuthorityContext (cache : Cache) (context : RootAuthorityContext) : Cache :=
  { cache with
    activeDelegatedAuthoritiesByRoot :=
      cache.activeDelegatedAuthoritiesByRoot.set context.rootProgramId
        (addAll ((cache.activeDelegatedAuthoritiesByRoot.get? context.rootProgramId).getD [])
          context.activeDelegatedAuthorityIds) }

/-- `replaceRootAuthorityContextSync`. -/
def replaceRootAuthorityContext (cache : Cache) (context : RootAuthorityContext) : Cache :=
  { cache with
    activeDelegatedAuthoritiesByRoot :=
      cache.activeDelegatedAuthoritiesByRoot.set context.rootProgramId
        (addAll [] context.activeDelegatedAuthorityIds) }

/-- `mergeDelegatedAuthorityIssuerContextSync`. -/
def mergeDelegatedAuthorityIssuerContext (cache : Cache)
    (context : DelegatedAuthorityIssuerContext) : Cache :=
  { cache with
    activeIssuersByAuthority :=
      addAll cache.activeIssuersByAuthority
        (context.activeIssuerIds.map fun issuerId =>
          authorityIssuerKey
            ⟨context.rootProgramId, context.delegatedAuthorityId, issuerId⟩) }

/-- `replaceDelegatedAuthorityIssuerContextSync`. -/
def replaceDelegatedAuthorityIssuerContext (cache : Cache)
    (context : DelegatedAuthorityIssuerContext) : Cache :=
  mergeDelegatedAuthorityIssuerContext
    { cache with
      activeIssuersByAuthority :=
        cache.activeIssuersByAuthority.filter fun key =>
          !JsString.startsWith key
            (authorityPrefix context.rootProgramId context.delegatedAuthorityId) }
    context

/-- `putProjection`. -/
def putProjection (cache : Cache) (projection : IssuerProjection) : Cache :=
  { cache with
    issuersByPolicyKey := cache.issuersByPolicyKey.set projection.policyKey projection }

/-- `seedAuthorityContext`. -/
def seedAuthorityContext (cache : Cache) (ns : IssuerNamespace) : Cache :=
  mergeDelegatedAuthorityIssuerContext
    (mergeRootAuthorityContext cache ⟨ns.rootProgramId, [ns.delegatedAuthorityId]⟩)
    ⟨ns.rootProgramId, ns.delegatedAuthorityId, [ns.issuerId]⟩

/-- The cache `makeInMemoryVerifierCache` starts with. -/
def makeInMemoryVerifierCache (initial : List IssuerProjection)
    (initialDestinationPolicies : List DestinationPolicyProjection) : Cache :=
  let withIssuers := initial.foldl
    (fun cache projection => seedAuthorityContext (putProjection cache projection) projection.ns)
    .empty
  initialDestinationPolicies.foldl
    (fun cache policy =>
      seedAuthorityContext
        { cache with policiesByKey := cache.policiesByKey.set policy.policyKey policy }
        policy.ns)
    withIssuers

/-- A call of the cache writer. -/
inductive CacheCall where
  | upsertIssuer (projection : IssuerProjection)
  | upsertDestinationPolicy (projection : DestinationPolicyProjection)
  | upsertRootAuthorityContext (context : RootAuthorityContext)
  | upsertDelegatedAuthorityIssuerContext (context : DelegatedAuthorityIssuerContext)
  | updateIssuerAssuranceTier (update : IssuerAssuranceTierUpdate)
  | removeIssuer (ns : IssuerNamespace)
  | removeDestinationPolicy (key : DestinationPolicyKey)
  | removeDestinationPoliciesForIssuer (ns : IssuerNamespace)
  | removeDelegatedAuthority (key : DelegatedAuthorityKey)
  deriving DecidableEq, Repr

/-- `removeDelegatedAuthority`: the authority's issuers and policies, its place
    under the root, and the issuers active under it. -/
def removeDelegatedAuthority (cache : Cache) (key : DelegatedAuthorityKey) : Cache :=
  { issuersByPolicyKey :=
      cache.issuersByPolicyKey.filter fun e => !delegatedAuthorityEquals e.2.ns key
    policiesByKey := cache.policiesByKey.filter fun e => !delegatedAuthorityEquals e.2.ns key
    activeDelegatedAuthoritiesByRoot :=
      match cache.activeDelegatedAuthoritiesByRoot.get? key.rootProgramId with
      | none => cache.activeDelegatedAuthoritiesByRoot
      | some authorities =>
          cache.activeDelegatedAuthoritiesByRoot.set key.rootProgramId
            (authorities.filter (· ≠ key.delegatedAuthorityId))
    activeIssuersByAuthority :=
      cache.activeIssuersByAuthority.filter fun issuer =>
        !JsString.startsWith issuer (authorityPrefix key.rootProgramId key.delegatedAuthorityId) }

/-- The cache after a call. -/
def applyCall (cache : Cache) : CacheCall → Cache
  | .upsertIssuer projection => putProjection cache projection
  | .upsertDestinationPolicy projection =>
      { cache with
        policiesByKey := cache.policiesByKey.set projection.policyKey projection }
  | .upsertRootAuthorityContext context => replaceRootAuthorityContext cache context
  | .upsertDelegatedAuthorityIssuerContext context =>
      replaceDelegatedAuthorityIssuerContext cache context
  | .updateIssuerAssuranceTier update =>
      { cache with
        issuersByPolicyKey := cache.issuersByPolicyKey.mapValues fun issuer =>
          if issuer.ns = update.ns then { issuer with assuranceTier := update.assuranceTier }
          else issuer }
  | .removeIssuer ns =>
      { cache with
        issuersByPolicyKey := cache.issuersByPolicyKey.filter fun e => e.2.ns ≠ ns }
  | .removeDestinationPolicy key =>
      { cache with
        policiesByKey :=
          cache.policiesByKey.erase (verifierCachePolicyKey key.ns key.destinationPolicyId) }
  | .removeDestinationPoliciesForIssuer ns =>
      { cache with policiesByKey := cache.policiesByKey.filter fun e => e.2.ns ≠ ns }
  | .removeDelegatedAuthority key => removeDelegatedAuthority cache key

/-- The Boolean a call answers: did a removal or an update find anything?
    (An upsert answers no Boolean.) -/
def callFound (cache : Cache) : CacheCall → Bool
  | .updateIssuerAssuranceTier update =>
      cache.issuersByPolicyKey.values.any fun issuer => issuer.ns = update.ns
  | .removeIssuer ns => cache.issuersByPolicyKey.values.any fun issuer => issuer.ns = ns
  | .removeDestinationPolicy key =>
      cache.policiesByKey.contains (verifierCachePolicyKey key.ns key.destinationPolicyId)
  | .removeDestinationPoliciesForIssuer ns =>
      cache.policiesByKey.values.any fun policy => policy.ns = ns
  | .removeDelegatedAuthority key =>
      (cache.issuersByPolicyKey.values.any fun issuer => delegatedAuthorityEquals issuer.ns key)
        || (cache.policiesByKey.values.any fun policy => delegatedAuthorityEquals policy.ns key)
        || ((cache.activeDelegatedAuthoritiesByRoot.get? key.rootProgramId).getD []).contains
            key.delegatedAuthorityId
        || (cache.activeIssuersByAuthority.any fun issuer =>
            JsString.startsWith issuer
              (authorityPrefix key.rootProgramId key.delegatedAuthorityId))
  | _ => false

/-! ## Readers -/

/-- `hasAuthorityContext`. -/
def hasAuthorityContext (cache : Cache) (ns : IssuerNamespace) : Bool :=
  ((cache.activeDelegatedAuthoritiesByRoot.get? ns.rootProgramId).getD []).contains
      ns.delegatedAuthorityId
    && cache.activeIssuersByAuthority.contains (authorityIssuerKey ns)

/-- What a reader knows besides the cache: the host runtime and the roots it
    accepts. -/
structure Reader where
  js : JsRuntime
  acceptsRoot : String → Bool

variable (reader : Reader)

/-- `ruleAllowsHost`. -/
def ruleAllowsHost (destination : DestinationPolicyRule) (host : String) : Bool :=
  destination.allowedHosts.any fun allowedHost =>
    let normalizedAllowedHost := reader.js.toLowerCase allowedHost
    host = normalizedAllowedHost
      || (destination.allowSubdomains
        && JsString.endsWith host ("." ++ normalizedAllowedHost))

/-- `policyAllowsHost`. -/
def policyAllowsHost (policy : DestinationPolicyProjection) (host : String) : Bool :=
  policy.approvedDestinations.any fun destination => ruleAllowsHost reader destination host

/-- `policyAllowsLookupHost`. -/
def policyAllowsLookupHost (policy : DestinationPolicyProjection) (host : String) : Bool :=
  policyAllowsHost reader policy host
    || policy.redirectPolicy.resolverUrls.any fun resolverUrl =>
        (reader.js.parseUrl resolverUrl).any fun parsed =>
          reader.js.toLowerCase parsed.hostname = host

/-- `findPolicyMatch`: the first accepted policy that allows the host decides,
    also when its issuer record is missing. -/
def findPolicyMatch (cache : Cache)
    (allowsHost : DestinationPolicyProjection → String → Bool) (host : String) :
    List DestinationPolicyProjection → Option (IssuerProjection × DestinationPolicyProjection)
  | [] => none
  | policy :: rest =>
      if !reader.acceptsRoot policy.ns.rootProgramId then
        findPolicyMatch cache allowsHost host rest
      else if !hasAuthorityContext cache policy.ns then
        findPolicyMatch cache allowsHost host rest
      else if !allowsHost policy host then
        findPolicyMatch cache allowsHost host rest
      else
        (cache.issuersByPolicyKey.get? policy.policyKey).map fun issuer => (issuer, policy)

/-- `materializedAllowedHosts`. -/
def materializedAllowedHosts (policy : DestinationPolicyProjection) (host : String) :
    List String :=
  if policy.allowedHosts.any fun allowedHost => reader.js.toLowerCase allowedHost = host then
    policy.allowedHosts
  else policy.allowedHosts ++ [host]

/-- `minIsoDate` of two dates. -/
def minIsoDate (first second : String) : String :=
  if JsString.less second first then second else first

/-- `maxIsoDate` of two dates. -/
def maxIsoDate (first second : String) : String :=
  if JsString.less first second then second else first

/-- `materializeIssuer`. -/
def materializeIssuer (issuer : IssuerProjection) (policy : DestinationPolicyProjection)
    (host : String) : IssuerProjection :=
  { issuer with
    allowedHosts := materializedAllowedHosts reader policy host
    cacheGeneratedAt := maxIsoDate issuer.cacheGeneratedAt policy.cacheGeneratedAt
    cacheExpiresAt := minIsoDate issuer.cacheExpiresAt policy.cacheExpiresAt }

/-- `resolveByHost`. -/
def resolveByHost (cache : Cache) (host : String) : Option IssuerProjection :=
  let normalizedHost := reader.js.toLowerCase host
  (findPolicyMatch reader cache (policyAllowsHost reader) normalizedHost
      cache.policiesByKey.values).map
    fun found => materializeIssuer reader found.1 found.2 normalizedHost

/-- `binding_status`. -/
inductive BindingStatus where
  | bound
  | mismatch
  deriving DecidableEq, Repr

/-- `DestinationResolution`. -/
structure DestinationResolution where
  issuer : IssuerProjection
  policy : DestinationPolicyProjection
  destination : DestinationPolicyRule
  bindingStatus : BindingStatus
  reasonCodes : List String
  resolverUrl : Option String := none
  finalUrl : Option String := none
  observedRedirectHops : Option Nat := none
  deriving DecidableEq, Repr

/-- `DestinationResolutionExtras`. -/
structure DestinationResolutionExtras where
  resolverUrl : Option String := none
  finalUrl : Option String := none
  observedRedirectHops : Option Nat := none

/-- A resolution with its status and reasons; the issuer is materialized for
    the first allowed host of the destination. -/
def resolution (issuer : IssuerProjection) (policy : DestinationPolicyProjection)
    (destination : DestinationPolicyRule) (status : BindingStatus) (reasonCodes : List String)
    (extras : DestinationResolutionExtras) : DestinationResolution :=
  { issuer := materializeIssuer reader issuer policy (destination.allowedHosts.head?.getD "")
    policy := policy
    destination := destination
    bindingStatus := status
    reasonCodes := reasonCodes
    resolverUrl := extras.resolverUrl
    finalUrl := extras.finalUrl
    observedRedirectHops := extras.observedRedirectHops }

/-- `boundResolution`. -/
def boundResolution (issuer : IssuerProjection) (policy : DestinationPolicyProjection)
    (destination : DestinationPolicyRule) (extras : DestinationResolutionExtras) :
    DestinationResolution :=
  resolution reader issuer policy destination .bound ["destination_bound"] extras

/-- `mismatchResolution`. -/
def mismatchResolution (issuer : IssuerProjection) (policy : DestinationPolicyProjection)
    (destination : DestinationPolicyRule) (reasonCodes : List String)
    (extras : DestinationResolutionExtras) : DestinationResolution :=
  resolution reader issuer policy destination .mismatch reasonCodes extras

/-- `fallbackDestination`. -/
def fallbackDestination (policy : DestinationPolicyProjection) (host : String) :
    DestinationPolicyRule :=
  policy.approvedDestinations.head?.getD
    { destinationId := "dest:unknown"
      expectedFinalUrl := "https://" ++ host ++ "/"
      allowedHosts := [host]
      allowSubdomains := false
      pathPrefixes := []
      queryPolicy := "none"
      allowedQueryKeys := none }

/-- `matchedResolverUrl`. -/
def matchedResolverUrl (redirectPolicy : RedirectPolicyProjection) (destinationUrl : Url) :
    Option String :=
  redirectPolicy.resolverUrls.find? fun resolverUrl =>
    (reader.js.parseUrl resolverUrl).any fun parsed =>
      reader.js.toLowerCase parsed.hostname = reader.js.toLowerCase destinationUrl.hostname
        && parsed.pathname = destinationUrl.pathname

/-- `redirectFinalDestinationAllowed`. -/
def redirectFinalDestinationAllowed (policy : DestinationPolicyProjection) (finalUrl : Url) :
    Bool :=
  policy.redirectPolicy.expectedFinalDestinations.any fun expected =>
    (reader.js.parseUrl expected).map Url.href = some finalUrl.href

/-- The value of a list of decimal digits. -/
def decimalValue (digits : List Char) : Nat :=
  digits.foldl (fun acc c => 10 * acc + (c.toNat - 48)) 0

/-- `parseRedirectHopCount`: absent counts as zero, and a decimal number beyond
    the safe integers as unreadable. -/
def parseRedirectHopCount : Option String → Option Nat
  | none => some 0
  | some value =>
      let normalized := (JsString.trim value).toList
      if normalized ≠ [] ∧ normalized.all (fun c => 48 ≤ c.toNat ∧ c.toNat ≤ 57) then
        let hops := decimalValue normalized
        if hops ≤ 9007199254740991 then some hops else none
      else none

/-- The reasons against a redirect: its hops, its final destination, and a
    nested shortener. -/
def redirectMismatchReasons (policy : DestinationPolicyProjection) (destinationUrl : Url)
    (observedHops : Option Nat) (finalUrl : Option Url) : List String :=
  (match observedHops with
    | none => ["redirect_hop_count_invalid"]
    | some hops =>
        if (hops : Rat) > policy.redirectPolicy.maxRedirectHops then
          ["redirect_hop_limit_exceeded"] else [])
  ++ (match finalUrl with
    | none => ["redirect_final_destination_missing"]
    | some url =>
        if !redirectFinalDestinationAllowed reader policy url then
          ["redirect_final_destination_mismatch"] else [])
  ++ (if !policy.redirectPolicy.nestedShortenersAllowed
        && destinationUrl.searchParam "nested" = some "1" then
      ["nested_shortener_not_allowed"] else [])

/-- `resolveRedirectDestination`. -/
def resolveRedirectDestination (issuer : IssuerProjection)
    (policy : DestinationPolicyProjection) (destinationUrl : Url) (resolverUrl : String) :
    DestinationResolution :=
  let fallback := fallbackDestination policy destinationUrl.hostname
  let observedHops := parseRedirectHopCount (destinationUrl.searchParam "hops")
  let finalUrl := (JsString.truthy (destinationUrl.searchParam "final")).bind
    reader.js.parseUrl
  let reasonCodes := redirectMismatchReasons reader policy destinationUrl observedHops finalUrl
  let extras : DestinationResolutionExtras :=
    { resolverUrl := some resolverUrl
      finalUrl := finalUrl.map Url.href
      observedRedirectHops := observedHops }
  if reasonCodes = [] then boundResolution reader issuer policy fallback extras
  else mismatchResolution reader issuer policy fallback reasonCodes extras

/-- `directDestinationMismatchReasons`. -/
def directDestinationMismatchReasons (destination : DestinationPolicyRule)
    (destinationUrl : Url) : List String :=
  let queryKeys := destinationUrl.searchParams.map Prod.fst
  let allowedQueryKeys := destination.allowedQueryKeys.getD []
  (if destination.pathPrefixes ≠ []
      ∧ !destination.pathPrefixes.any (JsString.startsWith destinationUrl.pathname) then
    ["destination_path_not_approved"] else [])
  ++ (if destination.queryPolicy = "none" ∧ queryKeys ≠ [] then
    ["destination_query_not_approved"] else [])
  ++ (if allowedQueryKeys ≠ [] ∧ queryKeys.any (fun key => !allowedQueryKeys.contains key) then
    ["destination_query_not_approved"] else [])

/-- `resolveDestination`. -/
def resolveDestination (issuer : IssuerProjection) (policy : DestinationPolicyProjection)
    (destinationUrl : Url) (lookupHost : String) : DestinationResolution :=
  match JsString.truthy (matchedResolverUrl reader policy.redirectPolicy destinationUrl) with
  | some resolverUrl =>
      resolveRedirectDestination reader issuer policy destinationUrl resolverUrl
  | none =>
      match policy.approvedDestinations.find? fun destination =>
          ruleAllowsHost reader destination
            (reader.js.toLowerCase destinationUrl.hostname) with
      | none =>
          mismatchResolution reader issuer policy (fallbackDestination policy lookupHost)
            ["destination_host_not_approved"] {}
      | some matchedDestination =>
          let reasonCodes := directDestinationMismatchReasons matchedDestination destinationUrl
          if reasonCodes = [] then
            boundResolution reader issuer policy matchedDestination
              { finalUrl := some destinationUrl.href }
          else
            mismatchResolution reader issuer policy matchedDestination reasonCodes {}

/-- `resolveByDestination`. -/
def resolveByDestination (cache : Cache) (destinationUrl : Url)
    (issuerHintHost : Option String) : Option DestinationResolution :=
  let lookupHost := reader.js.toLowerCase (issuerHintHost.getD destinationUrl.hostname)
  (findPolicyMatch reader cache (policyAllowsLookupHost reader) lookupHost
      cache.policiesByKey.values).map
    fun found => resolveDestination reader found.1 found.2 destinationUrl lookupHost

end VerifierCache
