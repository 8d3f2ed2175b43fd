import QrTrust.Backend.NarrowedVerifier
import QrTrust.Backend.ProjectionFreshness

/-! # The verdict cache of the narrowed verifier

    A request to verify a presented code: parsed, looked up in the cache, decided
    by the narrowed verifier, and stored for as long as its verdict is to hold.
    Times are microseconds of one clock. -/

namespace VerdictCache

open SignedSchema TrustStore TrustProjection PayloadRevalidation NarrowedVerifier
  ProjectionFreshness

/-! ## Requests and responses -/

/-- `SignedClaimsInput`. -/
structure SignedClaimsInput where
  version : String
  certificateRef : String
  issuedAt : String
  expiresAt : Option String
  payload : String
  deriving DecidableEq, Repr

/-- `SignedEnvelopeInput`. -/
structure SignedEnvelopeInput where
  claims : SignedClaimsInput
  signature : String
  codeAlgorithmId : Option String
  deriving DecidableEq, Repr

/-- `CertificateRecordInput`. -/
structure CertificateRecordInput where
  certificateRef : String
  issuerName : String
  algorithmId : String
  publicKeyPem : Option String
  deriving DecidableEq, Repr

/-- `IssuerVerificationStateInput`. -/
structure IssuerVerificationStateInput where
  verifiedDomains : OrderedMap String (Option Datetime)
  allowSubdomains : Bool
  certificateActive : Bool
  certificateRevoked : Bool
  certificateRevocationReason : Option String
  issuerStatus : Option IssuerStatus
  issuerRecordIssuedAt : Option String
  issuerRecordExpiresAt : Option String
  keyState : Option KeyState
  keyNotBefore : Option String
  keyNotAfter : Option String
  keyRevocationReason : Option String

/-- `NarrowedVerifierRequest`. -/
structure NarrowedVerifierRequest where
  envelope : SignedEnvelopeInput
  certificate : CertificateRecordInput
  issuerState : IssuerVerificationStateInput

/-- `VerdictSource`. -/
inductive VerdictSource where
  | computed
  | cached
  deriving DecidableEq, Repr

/-- `NarrowedVerifierResponse`. -/
structure NarrowedVerifierResponse where
  allowed : Bool
  stage : String
  reason : String
  canonicalClaimsSha256 : Option String
  matchedRule : Option String
  cause : Option String
  verdictSource : VerdictSource
  deriving DecidableEq, Repr

/-- The verdict a response gives. -/
def NarrowedVerifierResponse.verdict (response : NarrowedVerifierResponse) : Verdict :=
  ⟨response.allowed, response.stage, response.cause⟩

/-- The response to a result. -/
def responseOf (result : NarrowedVerificationResult) : NarrowedVerifierResponse :=
  { allowed := result.allowed
    stage := result.stage
    reason := result.reason
    canonicalClaimsSha256 := result.canonicalClaimsSha256
    matchedRule := result.matchedRule
    cause := result.cause
    verdictSource := .computed }

/-! ## The cache -/

/-- An entry of `InMemoryVerdictCache`. -/
structure CacheEntry where
  expiresAt : Int
  payload : NarrowedVerifierResponse
  deriving DecidableEq, Repr

/-- `InMemoryVerdictCache`, its verdicts. -/
abbrev Entries := OrderedMap String CacheEntry

/-- `InMemoryVerdictCache.get`: an entry past its time is deleted. -/
def get (cache : Entries) (key : String) (now : Int) :
    Option NarrowedVerifierResponse × Entries :=
  match cache.get? key with
  | none => (none, cache)
  | some entry =>
      if entry.expiresAt ≤ now then (none, cache.erase key) else (some entry.payload, cache)

/-- `InMemoryVerdictCache.set`. -/
def set (cache : Entries) (key : String) (payload : NarrowedVerifierResponse)
    (ttlSeconds now : Int) : Entries :=
  if ttlSeconds ≤ 0 then cache else cache.set key ⟨now + ttlSeconds * 1000000, payload⟩

/-! ## The trust context of a request -/

variable (py : PyRuntime)

/-- `HTTPException(status_code=status, detail=str(exc))` for a `SignedSchemaError`. -/
def asHttp (status : Nat) : PyError → PyError
  | .signedSchemaError text => .httpException status text
  | exc => exc

/-- `_UNBOUNDED_PAST`. -/
def unboundedPast : Datetime := .utc 62135596800000000

/-- `_optional_trust_timestamp`. -/
def optionalTrustTimestamp (label : String) (value : Option String) :
    Except PyError (Option Datetime) :=
  match value with
  | none => .ok none
  | some text => ((parseClaimTimestamp py label text).map some).mapError (asHttp 422)

/-- `_bounded_trust_timestamp`. -/
def boundedTrustTimestamp (label : String) (value : Option String) (default : Datetime) :
    Except PyError Datetime :=
  (optionalTrustTimestamp py label value).map (·.getD default)

/-- `_legacy_issuer_status`. -/
def legacyIssuerStatus (state : IssuerVerificationStateInput) : IssuerStatus :=
  match state.issuerStatus with
  | some status => status
  | none =>
      if state.certificateRevoked then .revoked
      else if state.certificateActive then .active
      else .suspended

/-- A window that ends no later than it starts is refused. -/
def checkedWindow (start : Datetime) (stop : Option Datetime) (detail : String) :
    Except PyError Unit :=
  match stop with
  | none => .ok ()
  | some stop => do
      if ← stop.le start then throw (.httpException 422 detail)

/-- `value or other`, of texts. -/
def textOr (value other : Option String) : Option String :=
  match value.filter (· ≠ "") with
  | some text => some text
  | none => other

/-- `_trust_context_from_state`. -/
def trustContextFromState (config : BackendConfig) (certificate : CertificateAuthorityRecord)
    (state : IssuerVerificationStateInput) : Except PyError TrustContext := do
  let issuerIssuedAt ← boundedTrustTimestamp py "issuer_record_issued_at"
    state.issuerRecordIssuedAt unboundedPast
  let issuerExpiresAt ← optionalTrustTimestamp py "issuer_record_expires_at"
    state.issuerRecordExpiresAt
  checkedWindow issuerIssuedAt issuerExpiresAt
    "Field 'issuer_record_expires_at' must be after 'issuer_record_issued_at'"
  let keyNotBefore ← boundedTrustTimestamp py "key_not_before" state.keyNotBefore unboundedPast
  let keyNotAfter ← optionalTrustTimestamp py "key_not_after" state.keyNotAfter
  checkedWindow keyNotBefore keyNotAfter "Field 'key_not_after' must be after 'key_not_before'"
  return { issuer :=
             { issuerId := certificate.issuerName
               issuerName := certificate.issuerName
               rootId := "root:request-supplied"
               status := legacyIssuerStatus state
               issuedAt := issuerIssuedAt
               expiresAt := issuerExpiresAt
               verifiedDomains := state.verifiedDomains
               allowSubdomains := state.allowSubdomains
               source := .ephemeral }
           key :=
             { keyRef := certificate.certificateRef
               issuerId := certificate.issuerName
               algorithmId := certificate.algorithmId
               publicKeyPem := certificate.publicKeyPem
               state := state.keyState.getD .active
               notBefore := keyNotBefore
               notAfter := keyNotAfter
               revokedAt := none
               revocationReason :=
                 textOr state.keyRevocationReason state.certificateRevocationReason
               source := .ephemeral }
           skewSeconds := config.verifierClockSkewSeconds }

/-- `claims.model_dump()`. -/
def claimsModelDump (claims : SignedClaimsInput) : OrderedMap String PyJson :=
  .ofList
    [ ("version", .str claims.version),
      ("certificate_ref", .str claims.certificateRef),
      ("issued_at", .str claims.issuedAt),
      ("expires_at", (claims.expiresAt.map PyJson.str).getD .none),
      ("payload", .str claims.payload) ]

/-- What a request presents. -/
structure PresentedCode where
  envelope : SignedQRCodeEnvelope
  certificate : CertificateAuthorityRecord
  trust : TrustContext

/-- The presented code of a request, or the HTTP error. -/
def presentedCode (config : BackendConfig) (request : NarrowedVerifierRequest) :
    Except PyError PresentedCode := do
  let claims ← (parseClaimsMapping py (claimsModelDump request.envelope.claims)).mapError
    (asHttp 400)
  let certificate : CertificateAuthorityRecord :=
    { certificateRef := request.certificate.certificateRef
      issuerName := request.certificate.issuerName
      algorithmId := request.certificate.algorithmId
      publicKeyPem := request.certificate.publicKeyPem }
  let trust ← trustContextFromState py config certificate request.issuerState
  return { envelope :=
             { claims := claims
               signature := request.envelope.signature
               codeAlgorithmId := request.envelope.codeAlgorithmId }
           certificate := certificate
           trust := trust }

/-! ## The lifetime of a verdict -/

/-- `int((boundary - now).total_seconds())`. -/
def secondsUntil (now : Int) (boundary : Datetime) : Int :=
  (boundary.withUtc.instant - now).tdiv 1000000

/-- `value.replace("Z", "+00:00")`. -/
def replaceZulu (value : String) : String :=
  String.ofList (value.toList.flatMap fun c => if c = 'Z' then "+00:00".toList else [c])

/-- The TTL that the expiry of the claims leaves. -/
def clampToExpiry (now ttl : Int) (expiresAt : Option String) : Int :=
  match expiresAt with
  | none => ttl
  | some text =>
      match py.fromisoformat (replaceZulu text) with
      | none => 0
      | some expiry => if secondsUntil now expiry ≤ 0 then 0 else min ttl (secondsUntil now expiry)

/-- The TTL that a consulted boundary leaves; one that is past, or closer than a
    second, leaves all of it. -/
def clampToBoundary (now ttl : Int) (boundary : Option Datetime) : Int :=
  match boundary with
  | none => ttl
  | some boundary =>
      if 0 < secondsUntil now boundary then min ttl (secondsUntil now boundary) else ttl

/-- `_verdict_cache_ttl_seconds`. -/
def verdictCacheTtlSeconds (config : BackendConfig) (now : Int) (expiresAt : Option String)
    (consultedBoundaries : List (Option Datetime)) : Int :=
  if config.verifierVerdictCacheTtlSeconds ≤ 0 then 0
  else
    let ttl := clampToExpiry py now config.verifierVerdictCacheTtlSeconds expiresAt
    if ttl ≤ 0 then 0 else consultedBoundaries.foldl (clampToBoundary now) ttl

/-! ## The endpoint -/

/-- What the endpoint reads besides the request: the settings, the policy file,
    and the token of the trust projection. -/
structure Surroundings where
  config : BackendConfig
  policyFile : Option PolicyFile
  token : Option TrustStateToken

/-- A request as it reaches the endpoint: the clock, what `ensure_fresh` returned,
    and whether the budgets of the envelope and of the issuer allow it. -/
structure Presentation where
  request : NarrowedVerifierRequest
  now : Int
  projectionState : Freshness
  envelopeBudget : Bool
  issuerBudget : Bool

/-- `envelope_fingerprint`. -/
def envelopeFingerprint (envelopeId : String) : String :=
  String.ofList ((py.lower (PyString.strip envelopeId)).toList.take 16)

/-- The fingerprint of a presented code. -/
def fingerprint (code : PresentedCode) : String :=
  envelopeFingerprint py (computeEnvelopeId py code.envelope.claims code.envelope.signature)

/-- What the request hash is taken of; `dumpJson` is `model_dump_json`. -/
def keyMaterial (dumpJson : NarrowedVerifierRequest → String) (env : Surroundings)
    (request : NarrowedVerifierRequest) : String :=
  let tokenPart := match env.token with
    | none => "ephemeral"
    | some token => token.epoch ++ ":" ++ toString token.version
  let policyPart := match loadDestinationPolicyResolution env.policyFile with
    | none => "no-policy"
    | some resolution => resolution.source ++ ":" ++ resolution.name ++ ":" ++ resolution.digest
  dumpJson request ++ ("\n" ++ tokenPart ++ "\n" ++ policyPart)

/-- The request hash: the first half of the digest. -/
def requestHash (material : String) : String :=
  String.ofList ((py.sha256 material).toList.take 32)

/-- `_verdict_cache_key`. -/
def verdictCacheKey (dumpJson : NarrowedVerifierRequest → String) (env : Surroundings)
    (request : NarrowedVerifierRequest) (fingerprint : String) : String :=
  fingerprint ++ ":" ++ requestHash py (keyMaterial dumpJson env request)

/-- The boundaries the write-time TTL is clamped to. -/
def consultedBoundaries (state : IssuerVerificationStateInput)
    (result : NarrowedVerificationResult) : Except PyError (List (Option Datetime)) := do
  let recordExpiry ← optionalTrustTimestamp py "issuer_record_expires_at"
    state.issuerRecordExpiresAt
  match result.matchedDomain with
  | none => return [recordExpiry]
  | some domain =>
      let normalized ← normalizedVerifiedDomains py state.verifiedDomains
      return [recordExpiry, (normalized.get? domain).join]

/-- What a request did with the cache: there to be spoken of. -/
inductive CacheUse where
  | unused
  | served (key : String)
  | stored (key : String)
  deriving DecidableEq, Repr

/-- The answer to a request, the cache after it, and what it did with it. -/
structure Handled where
  answer : Except PyError NarrowedVerifierResponse
  cache : Entries
  cacheUse : CacheUse

/-- The response where the trust projection is unavailable. -/
def unavailableResponse : NarrowedVerifierResponse :=
  { allowed := false
    stage := "key_status"
    reason := "trust state unavailable: the verifier cannot confirm issuer and key status"
    canonicalClaimsSha256 := none
    matchedRule := none
    cause := some "trust-state-unavailable"
    verdictSource := .computed }

/-- `_enforce_scan_flood_budget`. -/
def enforceScanFloodBudget (allowed : Bool) (detail : String) : Except PyError Unit :=
  if allowed then .ok () else .error (.httpException 429 detail)

/-- The result for a presented code under both budgets. -/
def budgetedResult (env : Surroundings) (p : Presentation) (code : PresentedCode) :
    Except PyError NarrowedVerificationResult := do
  enforceScanFloodBudget p.envelopeBudget "Rate limit exceeded for this QR code"
  let result ← verifyPresentedCode py env.config env.policyFile code.envelope code.certificate
    code.trust (.utc p.now)
  if result.stage ≠ "signed_schema" then
    enforceScanFloodBudget p.issuerBudget "Rate limit exceeded for this issuer"
  return result

/-- The TTL to store a result under. -/
def writeTtl (env : Surroundings) (p : Presentation) (code : PresentedCode)
    (result : NarrowedVerificationResult) : Except PyError Int :=
  (consultedBoundaries py p.request.issuerState result).map fun boundaries =>
    verdictCacheTtlSeconds py env.config p.now code.envelope.claims.expiresAt boundaries

/-- A verdict that the cache did not have; without a key it is not to be stored. -/
def computeVerdict (env : Surroundings) (cache : Entries) (p : Presentation)
    (code : PresentedCode) (cacheKey : Option String) : Handled :=
  match budgetedResult py env p code with
  | .error exc => ⟨.error exc, cache, .unused⟩
  | .ok result =>
      match cacheKey.filter fun _ => result.stage ≠ "signed_schema" with
      | none => ⟨.ok (responseOf result), cache, .unused⟩
      | some key =>
          match writeTtl py env p code result with
          | .error exc => ⟨.error exc, cache, .unused⟩
          | .ok ttl =>
              ⟨.ok (responseOf result), set cache key (responseOf result) ttl p.now,
                if 0 < ttl then .stored key else .unused⟩

/-- `_run_narrowed_verifier`. -/
def runNarrowedVerifier (dumpJson : NarrowedVerifierRequest → String) (env : Surroundings)
    (cache : Entries) (p : Presentation) : Handled :=
  if p.projectionState = .unavailable then ⟨.ok unavailableResponse, cache, .unused⟩
  else
    match presentedCode py env.config p.request with
    | .error exc => ⟨.error exc, cache, .unused⟩
    | .ok code =>
        if 0 < verdictCacheTtlSeconds py env.config p.now code.envelope.claims.expiresAt [] then
          let key := verdictCacheKey py dumpJson env p.request (fingerprint py code)
          match get cache key p.now with
          | (some response, cache) =>
              ⟨.ok { response with verdictSource := .cached }, cache, .served key⟩
          | (none, cache) => computeVerdict py env cache p code (some key)
        else computeVerdict py env cache p code none

/-- What the pipeline returns for a request at a time, with no cache. -/
def uncached (env : Surroundings) (request : NarrowedVerifierRequest) (now : Int) :
    Except PyError NarrowedVerificationResult := do
  let code ← presentedCode py env.config request
  verifyPresentedCode py env.config env.policyFile code.envelope code.certificate code.trust
    (.utc now)

end VerdictCache
