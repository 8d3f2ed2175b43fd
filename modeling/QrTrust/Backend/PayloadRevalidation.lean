import QrTrust.Backend.DestinationCanonicalization

/-! # Payload revalidation

    The destination of a payload against the verified domains of its issuer and
    against the local policy document. -/

namespace PayloadRevalidation

open DestinationCanonicalization

/-- `NormalizedDestination`. -/
structure NormalizedDestination where
  rawPayload : String
  host : String
  scheme : Option String
  port : Option Nat
  path : String
  deriving DecidableEq, Repr

/-- `MatchDecision`. -/
structure MatchDecision where
  allowed : Bool
  matchedRule : Option String
  reason : String
  cause : Option String
  matchedDomain : Option String
  deriving DecidableEq, Repr

/-- A decision that refuses. -/
def MatchDecision.refused (reason : String) (cause : Option String) : MatchDecision :=
  ⟨false, none, reason, cause, none⟩

/-- The file `destination-policy.json`: the digest of its bytes, and what
    `json.loads` makes of its text. -/
structure PolicyFile where
  digest : String
  content : Except String PyJson

/-- `PolicyResolution`. -/
structure PolicyResolution where
  source : String
  name : String
  digest : String
  deriving DecidableEq, Repr

/-- `load_destination_policy_resolution`; without a file there is none. -/
def loadDestinationPolicyResolution (policyFile : Option PolicyFile) : Option PolicyResolution :=
  policyFile.map fun file => ⟨"fixture", "destination-policy.json", file.digest⟩

/-- `_PolicyLoad`. -/
inductive PolicyLoad where
  | absent
  | invalid (detail : String)
  | policy (fields : List (String × PyJson))

/-- `_load_destination_policy`. -/
def loadDestinationPolicy (policyFile : Option PolicyFile) : PolicyLoad :=
  match policyFile with
  | none => .absent
  | some file =>
      match file.content with
      | .error exc => .invalid ("Destination policy document is not valid JSON: " ++ exc)
      | .ok (.dict fields) => .policy fields
      | .ok _ => .invalid "Destination policy document must be a JSON object"

variable (py : PyRuntime)

/-- `_normalize_host`. -/
def normalizeHost (host : String) : Except PyError String := canonicalizeVerifiedDomain py host

/-- `normalized_verified_domains`. -/
def normalizedVerifiedDomains (verifiedDomains : OrderedMap String (Option Datetime)) :
    Except PyError (OrderedMap String (Option Datetime)) :=
  canonicalizeVerifiedDomainMap py verifiedDomains true

/-- The text that is not empty, of a hostname. -/
def truthyText (value : Option String) : Option String := value.filter (· ≠ "")

/-- `normalize_payload_destination`. -/
def normalizePayloadDestination (payload : String) : Except PyError NormalizedDestination := do
  let payload := PyString.strip payload
  if payload = "" then throw (.valueError "Payload is empty")
  let lowered := py.lower payload
  let url := if PyString.startswith lowered "http://" || PyString.startswith lowered "https://"
    then payload else "https://" ++ payload
  let parsed ← (py.urlparse url).mapError PyError.valueError
  let hostname ← match truthyText parsed.hostname with
    | none => .error (.valueError ("Could not extract a host from payload: " ++ payload))
    | some hostname => .ok hostname
  let port ← parsed.port.mapError fun exc => .valueError ("Invalid destination URL: " ++ exc)
  let host ← normalizeHost py hostname
  return { rawPayload := payload
           host := host
           scheme := if parsed.scheme = "" then none else some parsed.scheme
           port := port
           path := if parsed.path = "" then "/" else parsed.path }

/-- `_is_same_or_subdomain`. -/
def isSameOrSubdomain (candidate verified : String) : Bool :=
  candidate = verified || PyString.endswith candidate ("." ++ verified)

/-! ## The policy document -/

/-- `_url_without_query`. -/
def urlWithoutQuery (value : String) : Except PyError (Option String) := do
  let parsed ← (py.urlparse (PyString.strip value)).mapError PyError.valueError
  if parsed.scheme ≠ "http" ∧ parsed.scheme ≠ "https" then return none
  match truthyText parsed.hostname with
  | none => return none
  | some hostname =>
      let port ← parsed.port.mapError PyError.valueError
      let portText := match port with
        | none => ""
        | some number => if number = 0 then "" else ":" ++ toString number
      let path := if parsed.path = "" then "/" else parsed.path
      return some (parsed.scheme ++ "://" ++ py.lower hostname ++ portText ++ path)

/-- The loop of `_rule_allows_destination_host` over the allowed hosts. -/
def anyAllowedHost (host : String) (allowSubdomains : Bool) :
    List String → Except PyError Bool
  | [] => .ok false
  | allowedHost :: rest => do
      let normalized ← normalizeHost py allowedHost
      if host = normalized || (allowSubdomains && isSameOrSubdomain host normalized) then
        return true
      anyAllowedHost host allowSubdomains rest

/-- `value is True`. -/
def isTrue (value : PyJson) : Bool :=
  match value with
  | .bool b => b
  | _ => false

/-- `_rule_allows_destination_host`. -/
def ruleAllowsDestinationHost (rule : List (String × PyJson)) (host : String) :
    Except PyError Bool :=
  match (PyJson.get rule "expected_final_url").asStr.filter (PyString.strip · ≠ "") with
  | some expectedFinalUrl => do
      let parsed ← (py.urlparse (PyString.strip expectedFinalUrl)).mapError PyError.valueError
      match parsed.hostname with
      | none => return false
      | some expectedHost => return host = (← normalizeHost py expectedHost)
  | none =>
      anyAllowedHost py host (isTrue (PyJson.get rule "allow_subdomains"))
        (PyJson.get rule "allowed_hosts").stringList

/-- `any(path_matches_prefix(path, canonicalize_rule_prefix(prefix)) …)`. -/
def anyPrefixMatches (path : String) : List String → Except PyError Bool
  | [] => .ok false
  | rulePrefix :: rest => do
      if pathMatchesPrefix path (← canonicalizeRulePrefix rulePrefix) then return true
      anyPrefixMatches path rest

/-- `key.split("=", 1)[0]`. -/
def queryKeyName (key : String) : String := String.ofList (key.toList.takeWhile (· ≠ '='))

/-- The schemes a rule approves. -/
def allowedSchemes (rule : List (String × PyJson)) : List String :=
  match (PyJson.get rule "allowed_schemes").stringList with
  | [] => ["https"]
  | schemes => schemes

/-- The query keys of a destination against a rule. -/
def queryReason (destination : CanonicalDestination) (rule : List (String × PyJson)) :
    Option String :=
  let queryKeys := ((py.parseQsl destination.query).map Prod.fst).eraseDups
  let allowedQueryKeys := (PyJson.get rule "allowed_query_keys").stringList
  if (PyJson.get rule "query_policy").asStr = some "none" ∧ queryKeys ≠ [] then
    some "Destination query string is not approved for this issuer policy"
  else if allowedQueryKeys ≠ [] ∧ queryKeys.any fun key => queryKeyName key ∉ allowedQueryKeys then
    some ("Destination query string contains keys outside issuer-approved query keys: "
      ++ py.reprList (allowedQueryKeys.map .str))
  else none

/-- `_policy_rule_reason`. -/
def policyRuleReason (destination : CanonicalDestination) (rule : List (String × PyJson)) :
    Except PyError (Option String) := do
  let schemes := allowedSchemes rule
  if destination.scheme ∉ schemes then
    return some ("Destination scheme '" ++ destination.scheme
      ++ "' is not in issuer-approved schemes: " ++ py.reprList (schemes.map .str))
  let allowedPorts := (← (PyJson.get rule "allowed_ports").iterOrEmpty).filter PyJson.isInt
  match destination.port.filter fun port => !allowedPorts.any (·.eqInt port) with
  | some port =>
      return some ("Destination port " ++ toString port ++ " is not in issuer-approved ports: "
        ++ py.reprList allowedPorts)
  | none =>
      let pathPrefixes := (PyJson.get rule "path_prefixes").stringList
      let inside ← anyPrefixMatches destination.path pathPrefixes
      if pathPrefixes ≠ [] ∧ !inside then
        return some ("Destination path '" ++ destination.path
          ++ "' is outside issuer-approved path prefixes: "
          ++ py.reprList (pathPrefixes.map .str))
      return queryReason py destination rule

/-- `exc.reason`, where the exception is a `CanonicalizationError`. -/
def canonicalizationReason : PyError → Option String
  | .canonicalizationError reason => some reason
  | _ => none

/-- What a rule says: it is not about the host, or it approves, or it gives the
    reason it does not. -/
def ruleVerdict (canonical : CanonicalDestination) (matchHost : String)
    (rule : List (String × PyJson)) : Except PyError (Option (Option String)) := do
  if ← ruleAllowsDestinationHost py rule matchHost then
    return some (← policyRuleReason py canonical rule)
  return none

/-- The decision where every rule has been tried; `firstReason` is there if some
    rule was about the host. -/
def afterRules (firstReason : Option String) : Option MatchDecision :=
  firstReason.map fun reason =>
    .refused (if reason = "" then "Destination is outside issuer-approved destination policy"
      else reason) (some "destination-not-authorized")

/-- The loop of `_match_destination_policy` over the rules left. -/
def matchRules (canonical : CanonicalDestination) (matchHost : String) :
    List PyJson → Option String → Except PyError (Option MatchDecision)
  | [], firstReason => .ok (afterRules firstReason)
  | .dict rule :: rest, firstReason =>
      match ruleVerdict py canonical matchHost rule with
      | .error exc =>
          match canonicalizationReason exc with
          | none => .error exc
          | some reason =>
              .ok (some (.refused ("Destination policy is invalid: " ++ reason)
                (some "policy-invalid")))
      | .ok none => matchRules canonical matchHost rest firstReason
      | .ok (some none) =>
          .ok (some
            { allowed := true
              matchedRule := some matchHost
              reason := "Destination matches issuer-approved destination policy"
              cause := none
              matchedDomain := some matchHost })
      | .ok (some (some reason)) =>
          matchRules canonical matchHost rest (firstReason <|> some reason)
  | _ :: rest, firstReason => matchRules canonical matchHost rest firstReason

/-- Is the payload one of the resolvers the policy approves? -/
def approvedResolver (policy : List (String × PyJson)) (rawPayload : String) :
    Except PyError Bool :=
  match PyJson.get policy "redirect_policy" with
  | .dict redirectPolicy => do
      let resolverUrls ← (PyJson.get redirectPolicy "resolver_urls").stringList.mapM
        (urlWithoutQuery py)
      match ← urlWithoutQuery py rawPayload with
      | none => return false
      | some url => return resolverUrls.contains (some url)
  | _ => .ok false

/-- `_match_destination_policy`; `none` where the policy says nothing. -/
def matchDestinationPolicy (policyFile : Option PolicyFile)
    (destination : NormalizedDestination) : Except PyError (Option MatchDecision) :=
  match loadDestinationPolicy policyFile with
  | .invalid detail => .ok (some (.refused detail (some "policy-invalid")))
  | .absent => .ok none
  | .policy policy =>
      match canonicalizeDestination py destination.rawPayload with
      | .error exc =>
          match canonicalizationReason exc with
          | none => .error exc
          | some reason => .ok (some (.refused reason (some "normalization-failure")))
      | .ok canonical => do
          if ← approvedResolver py policy destination.rawPayload then
            return some
              { allowed := true
                matchedRule := some destination.host
                reason := "Approved resolver URL"
                cause := none
                matchedDomain := none }
          let matchHost ← normalizeHost py canonical.host
          let rules ← (PyJson.get policy "approved_destinations").iterOrEmpty
          matchRules py canonical matchHost rules none

/-! ## Verified domains -/

/-- `expiry is not None and expiry <= now`. -/
def proofExpired (now : Datetime) (expiry : Option Datetime) : Except PyError Bool :=
  match expiry with
  | none => .ok false
  | some expiry => expiry.le now

/-- The decision of the policy on a destination under the domain `matched`. -/
def policyOrMatch (policyFile : Option PolicyFile) (destination : NormalizedDestination)
    (matched reason : String) : Except PyError MatchDecision := do
  match ← matchDestinationPolicy py policyFile destination with
  | some policyDecision =>
      if policyDecision.allowed && policyDecision.matchedDomain.isNone then
        return { policyDecision with matchedDomain := some matched }
      return policyDecision
  | none =>
      return { allowed := true
               matchedRule := some matched
               reason := reason
               cause := none
               matchedDomain := some matched }

/-- The decision where the domain `matched` covers the destination. -/
def matchDomain (policyFile : Option PolicyFile) (destination : NormalizedDestination)
    (now : Datetime) (matched reason : String) (expiry : Option Datetime) :
    Except PyError MatchDecision := do
  if ← proofExpired now expiry then
    return .refused ("Domain proof for '" ++ matched ++ "' has expired")
      (some "destination-not-authorized")
  policyOrMatch py policyFile destination matched reason

/-- How a verified domain covers a host: the reason a match under it gives. -/
def coverReason (host rule : String) (allowSubdomains : Bool) : Option String :=
  if host = rule then some "Exact host match"
  else if allowSubdomains && isSameOrSubdomain host rule then
    some "Subdomain match under verified parent domain"
  else none

/-- The first of the verified domains that covers the host. -/
def coveringDomain (host : String) (allowSubdomains : Bool) :
    List (String × Option Datetime) → Option (String × String × Option Datetime)
  | [] => none
  | (rule, expiry) :: rest =>
      match coverReason host rule allowSubdomains with
      | some reason => some (rule, reason, expiry)
      | none => coveringDomain host allowSubdomains rest

/-- `match_payload_to_verified_domains`. -/
def matchPayloadToVerifiedDomains (policyFile : Option PolicyFile) (payload : String)
    (verifiedDomains : OrderedMap String (Option Datetime)) (allowSubdomains : Bool)
    (now : Datetime) : Except PyError MatchDecision :=
  match normalizePayloadDestination py payload with
  | .error exc =>
      match exc.asValueError with
      | none => .error exc
      | some text => .ok (.refused text none)
  | .ok destination =>
      match normalizedVerifiedDomains py verifiedDomains with
      | .error exc =>
          match canonicalizationReason exc with
          | none => .error exc
          | some reason =>
              .ok (.refused ("Verified-domain state is invalid: " ++ reason)
                (some "policy-invalid"))
      | .ok normalizedDomains =>
          if normalizedDomains.keys = [] then
            .ok (.refused "No currently verified domains are available for this issuer" none)
          else
            match coveringDomain destination.host allowSubdomains normalizedDomains.entries with
            | some (matched, reason, expiry) =>
                matchDomain py policyFile destination now matched reason expiry
            | none =>
                .ok (.refused ("Destination host '" ++ destination.host
                  ++ "' does not match current verified domains: "
                  ++ py.reprList (normalizedDomains.keys.map .str)) none)

end PayloadRevalidation
