import QrTrust.Backend.DestinationCanonicalization

/-! # Destination-policy requests

    What `upsert_destination_policy` makes of a request before it asks the
    database: clean destinations, the host scopes that its statement checks, and
    the redirect and runtime-safety policies over their defaults. -/

namespace DestinationPolicies

open DestinationCanonicalization

/-- `DestinationPolicyApprovedDestination`. -/
structure ApprovedDestination where
  destinationId : String
  expectedFinalUrl : String
  allowedHosts : List String
  allowSubdomains : Bool
  pathPrefixes : List String
  queryPolicy : String
  deriving DecidableEq, Repr

/-- A host of a policy, with whether proofs of its parent domains count. -/
structure HostScope where
  host : String
  allowSubdomains : Bool
  deriving DecidableEq, Repr

/-- `value.replace(old, new)` on characters, past the characters to skip. -/
def replaceFrom (old new : List Char) : Nat → List Char → List Char
  | _, [] => []
  | skip + 1, _ :: rest => replaceFrom old new skip rest
  | 0, c :: rest =>
      if old.isPrefixOf (c :: rest) then new ++ replaceFrom old new (old.length - 1) rest
      else c :: replaceFrom old new 0 rest

/-- `value.replace(old, new)`. -/
def replace (value old new : String) : String :=
  String.ofList (replaceFrom old.toList new.toList 0 value.toList)

/-- A refused request. -/
def unprocessable (detail : String) : PyError := .httpException 422 detail

variable (py : PyRuntime)

/-! ## Destinations -/

/-- `_normalize_domain`. -/
def normalizeDomain (value : String) : Except PyError String :=
  match canonicalizeVerifiedDomain py value with
  | .error (.canonicalizationError reason) =>
      .error (unprocessable (replace reason "Verified domain" "domain"))
  | result => result

/-- `_parse_https_policy_url`; a URL with a hostname has a network location. -/
def parseHttpsPolicyUrl (value field : String) : Except PyError Unit :=
  match py.urlparse value with
  | .error _ => .error (unprocessable (field ++ " must be a valid URL"))
  | .ok parsed =>
      match parsed.port with
      | .error _ => .error (unprocessable (field ++ " must be a valid URL"))
      | .ok _ =>
          if parsed.scheme = "" ∨ parsed.hostname.getD "" = "" then
            .error (unprocessable (field ++ " must be an absolute URL"))
          else if parsed.scheme ≠ "https" then
            .error (unprocessable (field ++ " must use https"))
          else if parsed.username.getD "" ≠ "" ∨ parsed.password.getD "" ≠ "" then
            .error (unprocessable (field ++ " must not include credentials"))
          else .ok ()

/-- `_parse_expected_final_url`. -/
def parseExpectedFinalUrl (value : String) : Except PyError Unit :=
  parseHttpsPolicyUrl py value "expected_final_url"

/-- One step of `_normalize_path_prefixes`. -/
def normalizePathPrefix (value : String) : Except PyError String :=
  let cleaned := PyString.strip value
  if cleaned = "" ∨ !PyString.startswith cleaned "/" then
    .error (unprocessable "path_prefixes must start with /")
  else
    match canonicalizeRulePrefix cleaned with
    | .error (.canonicalizationError reason) =>
        .error (unprocessable ("path_prefixes contains an invalid prefix: " ++ reason))
    | result => result

/-- One step of `_normalize_approved_destinations`. -/
def normalizeApprovedDestination (destination : ApprovedDestination) :
    Except PyError ApprovedDestination := do
  parseExpectedFinalUrl py destination.expectedFinalUrl
  let allowedHosts ← destination.allowedHosts.mapM (normalizeDomain py)
  let pathPrefixes ← destination.pathPrefixes.mapM normalizePathPrefix
  return { destination with allowedHosts := allowedHosts, pathPrefixes := pathPrefixes }

/-- `_normalize_approved_destinations`. -/
def normalizeApprovedDestinations (destinations : List ApprovedDestination) :
    Except PyError (List ApprovedDestination) :=
  destinations.mapM (normalizeApprovedDestination py)

/-! ## Host scopes -/

/-- A host of a destination joins the scopes: subdomains count where any of the
    destinations that name the host allows them. -/
def addHostScope (scopes : OrderedMap String Bool) (allowSubdomains : Bool) (host : String) :
    Except PyError (OrderedMap String Bool) := do
  let normalizedHost ← normalizeDomain py host
  return scopes.set normalizedHost ((scopes.get? normalizedHost).getD false || allowSubdomains)

/-- The hosts of one destination join the scopes. -/
def addDestinationScopes (scopes : OrderedMap String Bool) (destination : ApprovedDestination) :
    Except PyError (OrderedMap String Bool) := do
  let parsed ← (py.urlparse destination.expectedFinalUrl).mapError PyError.valueError
  let scopes ←
    if parsed.hostname.getD "" ≠ "" then
      addHostScope py scopes destination.allowSubdomains (parsed.hostname.getD "")
    else .ok scopes
  destination.allowedHosts.foldlM
    (fun scopes host => addHostScope py scopes destination.allowSubdomains host) scopes

/-- `_destination_policy_host_scopes`. -/
def destinationPolicyHostScopes (destinations : List ApprovedDestination) :
    Except PyError (List HostScope) := do
  let scopes ← destinations.foldlM (addDestinationScopes py) .empty
  return (scopes.entries.map fun entry => ⟨entry.1, entry.2⟩).mergeSort
    fun a b => a.host ≤ b.host

/-! ## Redirect and runtime-safety policies -/

/-- `defaults | given`. -/
def mergeDicts (defaults given : List (String × PyJson)) : List (String × PyJson) :=
  (OrderedMap.ofList (defaults ++ given)).entries

/-- `_json_string_list`. -/
def jsonStringList (value : PyJson) (field : String) : Except PyError (List String) :=
  match value with
  | .list items =>
      let strings := items.filterMap PyJson.asStr
      if strings.length ≠ items.length ∨ strings.any fun item => PyString.strip item = "" then
        .error (unprocessable (field ++ " must contain only non-empty strings"))
      else .ok strings
  | _ => .error (unprocessable (field ++ " must be a list"))

/-- `_json_non_negative_integer`. -/
def jsonNonNegativeInteger (value : PyJson) (field : String) : Except PyError Int :=
  match value with
  | .int n =>
      if 0 ≤ n then .ok n
      else .error (unprocessable (field ++ " must be a non-negative integer"))
  | _ => .error (unprocessable (field ++ " must be a non-negative integer"))

/-- `_json_positive_integer`. -/
def jsonPositiveInteger (value : PyJson) (field : String) : Except PyError Int :=
  match value with
  | .int n =>
      if 0 < n then .ok n else .error (unprocessable (field ++ " must be a positive integer"))
  | _ => .error (unprocessable (field ++ " must be a positive integer"))

/-- `_json_boolean`. -/
def jsonBoolean (value : PyJson) (field : String) : Except PyError Bool :=
  match value with
  | .bool b => .ok b
  | _ => .error (unprocessable (field ++ " must be a boolean"))

/-- `_json_non_empty_string`. -/
def jsonNonEmptyString (value : PyJson) (field : String) : Except PyError String :=
  match value with
  | .str s =>
      if PyString.strip s ≠ "" then .ok (PyString.strip s)
      else .error (unprocessable (field ++ " must be a non-empty string"))
  | _ => .error (unprocessable (field ++ " must be a non-empty string"))

/-- `_json_string_choice`. -/
def jsonStringChoice (value : PyJson) (field : String) (choices : List String) :
    Except PyError String :=
  match value with
  | .str s =>
      if s ∈ choices then .ok s
      else .error (unprocessable (field ++ " must be one of: " ++ PyString.join ", " choices))
  | _ => .error (unprocessable (field ++ " must be one of: " ++ PyString.join ", " choices))

/-- `_normalize_policy_url_list`. -/
def normalizePolicyUrlList (value : PyJson) (field : String) : Except PyError (List String) := do
  let items ← jsonStringList value field
  items.mapM fun item => do
    let url := PyString.strip item
    parseHttpsPolicyUrl py url field
    return url

/-- A list of texts, as a JSON value. -/
def texts (values : List String) : PyJson := .list (values.map .str)

/-- `_default_redirect_policy`. -/
def defaultRedirectPolicy : List (String × PyJson) :=
  [("resolver_urls", .list []), ("expected_final_destinations", .list []),
    ("allowed_redirect_hosts", .list []), ("max_redirect_hops", .int 0),
    ("nested_shorteners_allowed", .bool false),
    ("scanner_must_display_resolver_and_final_destination", .bool true)]

/-- `_normalize_redirect_policy`. -/
def normalizeRedirectPolicy (policy : List (String × PyJson)) :
    Except PyError (List (String × PyJson)) := do
  let resolverUrls ← normalizePolicyUrlList py (PyJson.get policy "resolver_urls")
    "redirect_policy.resolver_urls"
  let expectedFinalDestinations ←
    normalizePolicyUrlList py (PyJson.get policy "expected_final_destinations")
      "redirect_policy.expected_final_destinations"
  let redirectHosts ← jsonStringList (PyJson.get policy "allowed_redirect_hosts")
    "redirect_policy.allowed_redirect_hosts"
  let allowedRedirectHosts ← redirectHosts.mapM (normalizeDomain py)
  let maxRedirectHops ← jsonNonNegativeInteger (PyJson.get policy "max_redirect_hops")
    "redirect_policy.max_redirect_hops"
  let nestedShortenersAllowed ← jsonBoolean (PyJson.get policy "nested_shorteners_allowed")
    "redirect_policy.nested_shorteners_allowed"
  let scannerMustDisplay ←
    jsonBoolean (PyJson.get policy "scanner_must_display_resolver_and_final_destination")
      "redirect_policy.scanner_must_display_resolver_and_final_destination"
  return [("resolver_urls", texts resolverUrls),
    ("expected_final_destinations", texts expectedFinalDestinations),
    ("allowed_redirect_hosts", texts allowedRedirectHosts),
    ("max_redirect_hops", .int maxRedirectHops),
    ("nested_shorteners_allowed", .bool nestedShortenersAllowed),
    ("scanner_must_display_resolver_and_final_destination", .bool scannerMustDisplay)]

/-- `RUNTIME_PROVIDER_BEHAVIOR_CHOICES`. -/
def runtimeProviderBehaviorChoices : List String := ["downgrade_to_caution", "block"]

/-- `_default_runtime_safety_policy`. -/
def defaultRuntimeSafetyPolicy : List (String × PyJson) :=
  [("provider", .str "deterministic-runtime-safety"), ("verdict_ttl_seconds", .int 300),
    ("stale_behavior", .str "downgrade_to_caution"),
    ("unavailable_behavior", .str "downgrade_to_caution")]

/-- `_normalize_runtime_safety_policy`. -/
def normalizeRuntimeSafetyPolicy (policy : List (String × PyJson)) :
    Except PyError (List (String × PyJson)) := do
  let provider ← jsonNonEmptyString (PyJson.get policy "provider") "runtime_safety_policy.provider"
  let verdictTtlSeconds ← jsonPositiveInteger (PyJson.get policy "verdict_ttl_seconds")
    "runtime_safety_policy.verdict_ttl_seconds"
  let staleBehavior ← jsonStringChoice (PyJson.get policy "stale_behavior")
    "runtime_safety_policy.stale_behavior" runtimeProviderBehaviorChoices
  let unavailableBehavior ← jsonStringChoice (PyJson.get policy "unavailable_behavior")
    "runtime_safety_policy.unavailable_behavior" runtimeProviderBehaviorChoices
  let normalized : List (String × PyJson) :=
    [("provider", .str provider), ("verdict_ttl_seconds", .int verdictTtlSeconds),
      ("stale_behavior", .str staleBehavior), ("unavailable_behavior", .str unavailableBehavior)]
  match PyJson.get policy "publication_ttl_seconds" with
  | .none => return normalized
  | value => do
      let publicationTtlSeconds ←
        jsonPositiveInteger value "runtime_safety_policy.publication_ttl_seconds"
      return normalized ++ [("publication_ttl_seconds", .int publicationTtlSeconds)]

/-! ## As JSON -/

/-- A destination, as the statement stores it. -/
def ApprovedDestination.toJson (destination : ApprovedDestination) : PyJson :=
  .dict
    [("destination_id", .str destination.destinationId),
      ("expected_final_url", .str destination.expectedFinalUrl),
      ("allowed_hosts", texts destination.allowedHosts),
      ("allow_subdomains", .bool destination.allowSubdomains),
      ("path_prefixes", texts destination.pathPrefixes),
      ("query_policy", .str destination.queryPolicy)]

/-- A host scope, as the statement reads it. -/
def HostScope.toJson (scope : HostScope) : PyJson :=
  .dict [("host", .str scope.host), ("allow_subdomains", .bool scope.allowSubdomains)]

end DestinationPolicies
