import QrTrust.Network.VerifierCache

/-! # Decoding a destination policy from a publication

    `destinationPolicyProjectionFromArtifactPublicationInput` turns a JSON body
    into the policy projection of the cache.  A scope field or a publication
    date that the body leaves out is filled from the publication input, which
    the sync service in turn fills from the event envelope.  Every failure is
    an error text that names the field. -/

namespace PolicyDecoding

open VerifierCache

/-- The fields of `ArtifactPublicationInput` that the projection reads. -/
structure ArtifactPublicationInput where
  rootProgramId : String
  delegatedAuthorityId : Option String
  issuerId : Option String
  destinationPolicyId : Option String
  body : JsonValue
  /-- the text `occurredAt` was made from -/
  occurredAt : String

/-! ## Field values -/

/-- `objectValue`. -/
def objectValue (value : Option JsonValue) (field : String) : Except String JsonValue :=
  match value with
  | some (.obj fields) => .ok (.obj fields)
  | _ => .error (field ++ " must be an object.")

/-- `optionalObjectValue`. -/
def optionalObjectValue (value : Option JsonValue) : Except String (Option JsonValue) :=
  match value with
  | none => .ok none
  | some .null => .ok none
  | some v => (objectValue (some v) "object").map some

/-- `stringValue`. -/
def stringValue (value : Option JsonValue) (field : String) : Except String String :=
  match value with
  | some (.str s) =>
      if s ≠ "" then .ok s else .error (field ++ " must be a non-empty string.")
  | _ => .error (field ++ " must be a non-empty string.")

/-- `booleanValue`. -/
def booleanValue (value : Option JsonValue) (field : String) : Except String Bool :=
  match value with
  | some (.bool b) => .ok b
  | _ => .error (field ++ " must be a boolean.")

/-- `arrayValue`. -/
def arrayValue (value : Option JsonValue) (field : String) : Except String (List JsonValue) :=
  match value with
  | some (.arr items) => .ok items
  | _ => .error (field ++ " must be an array.")

/-- `nonNegativeIntegerValue`. -/
def nonNegativeIntegerValue (value : Option JsonValue) (field : String) : Except String Rat :=
  match value with
  | some (.num n) =>
      if n.den = 1 ∧ 0 ≤ n then .ok n
      else .error (field ++ " must be a non-negative integer.")
  | _ => .error (field ++ " must be a non-negative integer.")

/-- `literalStringValue`. -/
def literalStringValue (value : Option JsonValue) (field : String) (allowed : List String) :
    Except String String :=
  match value with
  | some (.str s) =>
      if s ∈ allowed then .ok s
      else .error (field ++ " must be one of: " ++ ", ".intercalate allowed ++ ".")
  | _ => .error (field ++ " must be one of: " ++ ", ".intercalate allowed ++ ".")

/-- `pathPrefixValue`. -/
def pathPrefixValue (value : Option JsonValue) (field : String) : Except String String := do
  let pathPrefix := JsString.trim (← stringValue value field)
  if JsString.startsWith pathPrefix "/" then .ok pathPrefix
  else .error (field ++ " must start with /.")

variable (js : JsRuntime)

/-- `httpsUrlValue`. -/
def httpsUrlValue (value : Option JsonValue) (field : String) : Except String String := do
  let rawValue := JsString.trim (← stringValue value field)
  match js.parseUrl rawValue with
  | none => .error (field ++ " must be a valid URL.")
  | some url =>
      if url.protocol ≠ "https:" then .error (field ++ " must use https.")
      else if url.username ≠ "" ∨ url.password ≠ "" then
        .error (field ++ " must not include credentials.")
      else .ok rawValue

/-- `normalizeHost`. -/
def normalizeHost (value : String) : String :=
  js.toLowerCase (JsString.dropTrailingDot (JsString.trim value))

/-- A letter, digit or hyphen of a lower-case host label. -/
def isLabelChar (c : Char) : Bool :=
  ('a' ≤ c && c ≤ 'z') || ('0' ≤ c && c ≤ '9') || c = '-'

/-- A host label: 1 to 63 label characters, no hyphen at either end. -/
def isHostLabel (label : List Char) : Bool :=
  label ≠ [] && label.length ≤ 63 && label.head? ≠ some '-' && label.getLast? ≠ some '-'
    && label.all isLabelChar

/-- A DNS name: at most 253 characters in host labels.  (A text with `://` has a
    colon.) -/
def isDnsName (hostname : String) : Bool :=
  let chars := hostname.toList
  chars ≠ [] && chars.length ≤ 253 && !chars.contains '/' && !chars.contains ':'
    && !chars.any JsString.isSpace && (chars.splitOn '.').all isHostLabel

/-- `hostnameValue`. -/
def hostnameValue (value : Option JsonValue) (field : String) : Except String String := do
  let hostname := normalizeHost js (← stringValue value field)
  if isDnsName hostname then .ok hostname
  else .error (field ++ " must be a DNS hostname.")

/-- `optionalStringArrayProperty`. -/
def optionalStringArrayProperty (value : JsonValue) (property : String) :
    Except String (Option (List String)) :=
  match value.nonNull property with
  | none => .ok none
  | some candidate => do
      let items ← arrayValue (some candidate) property
      return some (← items.mapM fun item => stringValue (some item) (property ++ "[]"))

/-- `uniqueStrings`: non-empty values, each at its first place. -/
def uniqueStrings (values : List String) : List String :=
  (values.filter (· ≠ "")).foldl (fun acc v => if v ∈ acc then acc else acc ++ [v]) []

/-! ## The projection -/

/-- `destinationPolicyRuleFromUnknown`. -/
def destinationPolicyRuleFromUnknown (value : JsonValue) :
    Except String DestinationPolicyRule := do
  let rule ← objectValue (some value) "approved_destinations[]"
  let destinationId ← stringValue (rule.prop "destination_id") "destination_id"
  let expectedFinalUrl ←
    httpsUrlValue js (rule.prop "expected_final_url") "expected_final_url"
  let hosts ← arrayValue (rule.prop "allowed_hosts") "allowed_hosts"
  let allowedHosts ← hosts.mapM fun host => hostnameValue js (some host) "allowed_hosts[]"
  let allowSubdomains ← booleanValue (rule.prop "allow_subdomains") "allow_subdomains"
  let paths ← arrayValue (rule.prop "path_prefixes") "path_prefixes"
  let pathPrefixes ← paths.mapM fun path => pathPrefixValue (some path) "path_prefixes[]"
  let queryPolicy ← literalStringValue (rule.prop "query_policy") "query_policy"
    ["none", "allow_known_payment_query"]
  let allowedQueryKeys ← optionalStringArrayProperty rule "allowed_query_keys"
  return { destinationId, expectedFinalUrl, allowedHosts, allowSubdomains, pathPrefixes,
           queryPolicy, allowedQueryKeys }

/-- `redirectPolicyFromUnknown`. -/
def redirectPolicyFromUnknown (value : Option JsonValue) :
    Except String RedirectPolicyProjection := do
  let policy ← objectValue value "redirect_policy"
  let resolvers ← arrayValue (policy.prop "resolver_urls") "resolver_urls"
  let resolverUrls ← resolvers.mapM fun url => httpsUrlValue js (some url) "resolver_urls[]"
  let finals ←
    arrayValue (policy.prop "expected_final_destinations") "expected_final_destinations"
  let expectedFinalDestinations ←
    finals.mapM fun url => httpsUrlValue js (some url) "expected_final_destinations[]"
  let hosts ← arrayValue (policy.prop "allowed_redirect_hosts") "allowed_redirect_hosts"
  let allowedRedirectHosts ←
    hosts.mapM fun host => hostnameValue js (some host) "allowed_redirect_hosts[]"
  let maxRedirectHops ←
    nonNegativeIntegerValue (policy.prop "max_redirect_hops") "max_redirect_hops"
  let nestedShortenersAllowed ←
    booleanValue (policy.prop "nested_shorteners_allowed") "nested_shorteners_allowed"
  let scannerMustDisplayResolverAndFinalDestination ←
    booleanValue (policy.prop "scanner_must_display_resolver_and_final_destination")
      "scanner_must_display_resolver_and_final_destination"
  return { resolverUrls, expectedFinalDestinations, allowedRedirectHosts, maxRedirectHops,
           nestedShortenersAllowed, scannerMustDisplayResolverAndFinalDestination }

/-- A scope field: the body's where it has one, else the input's. -/
def scopeValue (body : JsonValue) (fallback : Option String) (field : String) :
    Except String String :=
  stringValue (body.nonNull field <|> fallback.map .str) field

/-- A publication date: the body's where it has one, else the time of the event. -/
def publicationDate (publication : Option JsonValue) (occurredAt field : String) :
    Except String String :=
  match publication.bind fun p => p.nonNull field with
  | some value => stringValue (some value) ("publication." ++ field)
  | none =>
      match js.toISOString occurredAt with
      | none => .error "Invalid time value"
      | some iso => stringValue (some (.str iso)) ("publication." ++ field)

/-- `destinationPolicyProjectionFromArtifactPublicationInput`. -/
def destinationPolicyProjectionFromArtifactPublicationInput
    (input : ArtifactPublicationInput) : Except String DestinationPolicyProjection := do
  let body ← objectValue (some input.body) "destination policy body"
  let destinations ←
    arrayValue (body.prop "approved_destinations") "approved_destinations"
  let approvedDestinations ← destinations.mapM (destinationPolicyRuleFromUnknown js)
  let redirectPolicy ← redirectPolicyFromUnknown js (body.prop "redirect_policy")
  let rootProgramId ← scopeValue body (some input.rootProgramId) "root_program_id"
  let delegatedAuthorityId ←
    scopeValue body input.delegatedAuthorityId "delegated_authority_id"
  let issuerId ← scopeValue body input.issuerId "issuer_id"
  let publication ← optionalObjectValue (body.prop "publication")
  let destinationPolicyId ←
    scopeValue body input.destinationPolicyId "destination_policy_id"
  let cacheGeneratedAt ← publicationDate js publication input.occurredAt "published_at"
  let cacheExpiresAt ← publicationDate js publication input.occurredAt "valid_until"
  return {
      ns := ⟨rootProgramId, delegatedAuthorityId, issuerId⟩
      destinationPolicyId := destinationPolicyId
      approvedDestinations := approvedDestinations
      redirectPolicy := redirectPolicy
      allowedHosts := uniqueStrings
        (approvedDestinations.flatMap fun destination =>
          destination.allowedHosts.map (normalizeHost js))
      allowSubdomains := approvedDestinations.any fun destination =>
        destination.allowSubdomains
      cacheGeneratedAt := cacheGeneratedAt
      cacheExpiresAt := cacheExpiresAt }

end PolicyDecoding
