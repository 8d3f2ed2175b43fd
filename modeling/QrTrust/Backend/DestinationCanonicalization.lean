import QrTrust.Backend.PyRuntime

/-! # Canonical destinations

    The canonical form of the hostnames of verified domains, of a destination
    URL, and of the path prefixes of a policy. -/

namespace DestinationCanonicalization

variable (py : PyRuntime)

/-- `_canonicalize_host`. -/
def canonicalizeHost (rawHost : String) : Except PyError String :=
  let lowered := py.lower (PyString.strip rawHost)
  let host := if PyString.endswith lowered "." then PyString.dropLast lowered else lowered
  if host = "" ∨ [] ∈ host.toList.splitOn '.' then
    .error (.canonicalizationError
      ("Destination host " ++ py.repr rawHost ++ " is not a valid DNS name"))
  else
    match py.encodeIdna host with
    | .ok encoded => .ok encoded
    | .error exc =>
        .error (.canonicalizationError
          ("Destination host " ++ py.repr rawHost ++ " cannot be IDNA-encoded: " ++ exc))

/-- A label of a DNS hostname; the host is ASCII here. -/
def isDnsLabel (label : List Char) : Bool :=
  label ≠ [] && label.length ≤ 63 && label.head? ≠ some '-' && label.getLast? ≠ some '-'
    && label.all fun character => character = '-' || character.isAlphanum

/-- `canonicalize_verified_domain`. -/
def canonicalizeVerifiedDomain (rawDomain : String) : Except PyError String := do
  let candidate := PyString.strip rawDomain
  if candidate = "" || PyString.contains candidate "://" || PyString.contains candidate "/"
      || PyString.contains candidate ":" || candidate.toList.any PyString.isspace then
    throw (.canonicalizationError "Verified domain must be a hostname, not a URL")
  let host ← canonicalizeHost py candidate
  if PyString.len host > 253 || !(host.toList.splitOn '.').all isDnsLabel then
    throw (.canonicalizationError "Verified domain is not a valid DNS hostname")
  return host

/-- The loop of `canonicalize_verified_domain_map`, over the entries left. -/
def canonicalizeEntries {ν : Type} (ignoreBlank : Bool) :
    List (String × ν) → OrderedMap String ν → OrderedMap String String →
      Except PyError (OrderedMap String ν)
  | [], normalized, _ => .ok normalized
  | (rawDomain, value) :: rest, normalized, rawKeys =>
      if ignoreBlank ∧ PyString.strip rawDomain = "" then
        canonicalizeEntries ignoreBlank rest normalized rawKeys
      else
        match canonicalizeVerifiedDomain py rawDomain with
        | .error exc => .error exc
        | .ok domain =>
            if normalized.contains domain then
              .error (.canonicalizationError
                ("Verified domain keys " ++ py.repr ((rawKeys.get? domain).getD "") ++ " and "
                  ++ py.repr rawDomain ++ " both normalize to " ++ py.repr domain))
            else
              canonicalizeEntries ignoreBlank rest (normalized.set domain value)
                (rawKeys.set domain rawDomain)

/-- `canonicalize_verified_domain_map`. -/
def canonicalizeVerifiedDomainMap {ν : Type} (verifiedDomains : OrderedMap String ν)
    (ignoreBlank : Bool) : Except PyError (OrderedMap String ν) :=
  canonicalizeEntries py ignoreBlank verifiedDomains.entries .empty .empty

/-! ## Destinations -/

/-- `CanonicalDestination`. -/
structure CanonicalDestination where
  scheme : String
  host : String
  port : Option Nat
  path : String
  query : String
  deriving DecidableEq, Repr

/-- `_DEFAULT_PORTS`. -/
def defaultPort (scheme : String) : Option Nat :=
  if scheme = "http" then some 80 else if scheme = "https" then some 443 else none

/-- `_UNRESERVED`. -/
def isUnreserved (c : Char) : Bool := c.isAlphanum || c ∈ ['-', '.', '_', '~']

/-- The value of a hexadecimal digit. -/
def hexValue (c : Char) : Option Nat :=
  if '0' ≤ c ∧ c ≤ '9' then some (c.toNat - 48)
  else if 'a' ≤ c ∧ c ≤ 'f' then some (c.toNat - 87)
  else if 'A' ≤ c ∧ c ≤ 'F' then some (c.toNat - 55)
  else none

/-- The upper-case hexadecimal digit of a number below 16. -/
def upperHexDigit (n : Nat) : Char := Char.ofNat (if n < 10 then 48 + n else 55 + n)

/-- The loop of `_normalize_percent_encoding`, over the characters left and the
    index of the first. -/
def normalizePercentEncodingFrom : Nat → List Char → Except PyError (List Char)
  | _, [] => .ok []
  | index, '%' :: rest =>
      let truncated := Except.error (.canonicalizationError
        ("Destination contains a truncated or invalid percent escape near index "
          ++ toString index))
      match rest with
      | high :: low :: tail =>
          match hexValue high, hexValue low with
          | some h, some l =>
              let value := 16 * h + l
              if value = 0 then
                .error (.canonicalizationError "Destination contains an encoded null byte")
              else
                let decoded := Char.ofNat value
                let piece := if isUnreserved decoded then [decoded]
                  else ['%', upperHexDigit h, upperHexDigit l]
                (normalizePercentEncodingFrom (index + 3) tail).map (piece ++ ·)
          | _, _ => truncated
      | _ => truncated
  | index, c :: rest => (normalizePercentEncodingFrom (index + 1) rest).map (c :: ·)

/-- `_normalize_percent_encoding`. -/
def normalizePercentEncoding (component : String) : Except PyError String :=
  (normalizePercentEncodingFrom 0 component.toList).map String.ofList

/-- One segment of `_remove_dot_segments`, onto those resolved so far. -/
def resolveSegment (resolved : List (List Char)) (segment : List Char) : List (List Char) :=
  if segment = ['.'] then resolved
  else if segment = ['.', '.'] then resolved.dropLast
  else resolved ++ [segment]

/-- `_remove_dot_segments`. -/
def removeDotSegments (path : String) : String :=
  let resolved := ((path.toList.splitOn '/').drop 1).foldl resolveSegment []
  String.ofList ('/' :: (resolved.intersperse ['/']).flatten)

/-- `_strip_trailing_slashes`: all of them, but for a lone slash. -/
def stripTrailingSlashes (path : String) : String :=
  match path.toList with
  | [] => ""
  | first :: rest => String.ofList (first :: (rest.reverse.dropWhile (· = '/')).reverse)

/-- `_SCHEME_RE`: the scheme before a colon, and what follows it. -/
def splitScheme (candidate : String) : Option (String × List Char) :=
  let scheme := candidate.toList.takeWhile fun c => c.isAlphanum || c ∈ ['+', '.', '-']
  match scheme.head?, candidate.toList.drop scheme.length with
  | some first, ':' :: suffix =>
      if first.isAlpha then some (String.ofList scheme, suffix) else none
  | _, _ => none

/-- `_PORT_AUTHORITY_RE`: one to five digits up to the path, query, fragment or
    end. -/
def isPortAuthority (suffix : List Char) : Bool :=
  let digits := suffix.takeWhile py.isDigit
  1 ≤ digits.length && digits.length ≤ 5
    && (match suffix.drop digits.length with
      | [] => true
      | next :: _ => next ∈ ['/', '?', '#'])

/-- The destination as a URL: with a scheme, `https` by default. -/
def schemedCandidate (candidate : String) : Except PyError String :=
  match splitScheme candidate with
  | none => .ok ("https://" ++ candidate)
  | some (scheme, suffix) =>
      let declared := py.lower scheme
      if declared = "http" ∨ declared = "https" then .ok candidate
      else if isPortAuthority py suffix then .ok ("https://" ++ candidate)
      else
        .error (.canonicalizationError
          ("Destination scheme " ++ py.repr declared ++ " is not supported"))

/-- `canonicalize_destination`. -/
def canonicalizeDestination (raw : String) : Except PyError CanonicalDestination := do
  let stripped := PyString.strip raw
  if stripped = "" then throw (.canonicalizationError "Destination payload is empty")
  if PyString.contains stripped "\\" then
    throw (.canonicalizationError "Destination contains a backslash")
  if stripped.toList.any fun c => c.toNat = 0 then
    throw (.canonicalizationError "Destination contains a null byte")
  let candidate ← schemedCandidate py stripped
  let parsed ← (py.urlsplit candidate).mapError PyError.valueError
  if parsed.username.isSome || parsed.password.isSome then
    throw (.canonicalizationError "Destination contains userinfo, which is not allowed")
  let hostname ← match parsed.hostname with
    | none => .error (.canonicalizationError "Destination has no host")
    | some hostname => .ok hostname
  let port ← parsed.port.mapError fun exc =>
    .canonicalizationError ("Destination port is invalid: " ++ exc)
  let scheme := py.lower parsed.scheme
  let host ← canonicalizeHost py hostname
  let path ← normalizePercentEncoding (if parsed.path = "" then "/" else parsed.path)
  let query ← normalizePercentEncoding parsed.query
  return { scheme := scheme
           host := host
           port := if port.isSome && port = defaultPort scheme then none else port
           path := stripTrailingSlashes (removeDotSegments path)
           query := query }

/-- `canonicalize_rule_prefix`. -/
def canonicalizeRulePrefix (rulePrefix : String) : Except PyError String := do
  let stripped := PyString.strip rulePrefix
  let candidate := if PyString.startswith stripped "/" then stripped else "/" ++ stripped
  let normalized ← normalizePercentEncoding candidate
  return stripTrailingSlashes (removeDotSegments normalized)

/-- `path_matches_prefix`. -/
def pathMatchesPrefix (path rulePrefix : String) : Bool :=
  rulePrefix = "/" || path = rulePrefix || PyString.startswith path (rulePrefix ++ "/")

end DestinationCanonicalization
