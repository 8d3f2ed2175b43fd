import QrTrust.Backend.VerdictCache
import QrTrust.Lib.SlidingWindow

/-! # Scan flood budgets

    `_run_narrowed_verifier` with its rate limiter: each presented code spends
    the budget of its envelope before its signature is looked at, and the budget
    of its issuer after.  Times of the limiter are microseconds of its own
    clock. -/

namespace ScanFloodBudget

open SignedSchema TrustStore TrustProjection PayloadRevalidation NarrowedVerifier
  ProjectionFreshness VerdictCache SlidingWindow

/-- The limits of `config`: requests in a window, of seconds. -/
structure Limits where
  envelopeMaxRequests : Int
  issuerMaxRequests : Int
  windowSeconds : Int

/-- The window in microseconds. -/
def Limits.window (limits : Limits) : Int := limits.windowSeconds * 1000000

/-- `InMemoryRequestRateLimiter` and `InMemoryVerdictCache`. -/
structure ScanState where
  records : Records String
  cache : Entries

/-- A request as it reaches the endpoint: what `ensure_fresh` returned, the wall
    clock, and the limiter's clock at either budget. -/
structure Scan where
  request : NarrowedVerifierRequest
  projectionState : Freshness
  now : Int
  envelopeClock : Int
  issuerClock : Int

variable (py : PyRuntime)

/-- `_issuer_budget_key`. -/
def issuerBudgetKey (certificateRef : String) : String :=
  String.ofList ((py.sha256 certificateRef).toList.take 16)

/-- `_scan_flood_budget_key`. -/
def scanFloodBudgetKey (bucket subject : String) : String := bucket ++ ":" ++ subject

/-- The key of the envelope's budget. -/
def envelopeKey (code : PresentedCode) : String :=
  scanFloodBudgetKey "envelope" (fingerprint py code)

/-- The key of the issuer's budget. -/
def issuerKey (code : PresentedCode) : String :=
  scanFloodBudgetKey "issuer" (issuerBudgetKey py code.certificate.certificateRef)

/-- `check` against the budget of the envelope. -/
def checkEnvelope (limits : Limits) (records : Records String) (s : Scan)
    (code : PresentedCode) : Bool × Records String :=
  check records (envelopeKey py code) limits.envelopeMaxRequests limits.window s.envelopeClock

/-- `check` against the budget of the issuer. -/
def checkIssuer (limits : Limits) (records : Records String) (s : Scan) (code : PresentedCode) :
    Bool × Records String :=
  check records (issuerKey py code) limits.issuerMaxRequests limits.window s.issuerClock

/-- The answer to a request and the state after it. -/
structure Scanned where
  answer : Except PyError NarrowedVerifierResponse
  state : ScanState

/-- The end of the request, both budgets spent: the verdict is stored for as long
    as it holds. -/
def storeVerdict (env : Surroundings) (state : ScanState) (s : Scan) (code : PresentedCode)
    (cacheKey : Option String) (result : NarrowedVerificationResult) : Scanned :=
  match cacheKey with
  | none => ⟨.ok (responseOf result), state⟩
  | some key =>
      match (consultedBoundaries py s.request.issuerState result).map fun boundaries =>
          verdictCacheTtlSeconds py env.config s.now code.envelope.claims.expiresAt boundaries with
      | .error exc => ⟨.error exc, state⟩
      | .ok ttl =>
          ⟨.ok (responseOf result),
            { state with cache := set state.cache key (responseOf result) ttl s.now }⟩

/-- What follows the lookup in the cache: the budget of the envelope, the verdict,
    the budget of the issuer. -/
def decideWithinBudgets (env : Surroundings) (limits : Limits) (state : ScanState) (s : Scan)
    (code : PresentedCode) (cacheKey : Option String) : Scanned :=
  let (allowed, records) := checkEnvelope py limits state.records s code
  let state := { state with records := records }
  if !allowed then ⟨.error (.httpException 429 "Rate limit exceeded for this QR code"), state⟩
  else
    match verifyPresentedCode py env.config env.policyFile code.envelope code.certificate code.trust
        (.utc s.now) with
    | .error exc => ⟨.error exc, state⟩
    | .ok result =>
        if result.stage = "signed_schema" then ⟨.ok (responseOf result), state⟩
        else
          let (allowed, records) := checkIssuer py limits state.records s code
          let state := { state with records := records }
          if !allowed then ⟨.error (.httpException 429 "Rate limit exceeded for this issuer"), state⟩
          else storeVerdict py env state s code cacheKey result

/-- `_run_narrowed_verifier`. -/
def scan (dumpJson : NarrowedVerifierRequest → String) (env : Surroundings) (limits : Limits)
    (state : ScanState) (s : Scan) : Scanned :=
  if s.projectionState = .unavailable then ⟨.ok unavailableResponse, state⟩
  else
    match presentedCode py env.config s.request with
    | .error exc => ⟨.error exc, state⟩
    | .ok code =>
        if 0 < verdictCacheTtlSeconds py env.config s.now code.envelope.claims.expiresAt [] then
          let key := verdictCacheKey py dumpJson env s.request (fingerprint py code)
          match get state.cache key s.now with
          | (some response, cache) =>
              ⟨.ok { response with verdictSource := .cached }, { state with cache := cache }⟩
          | (none, cache) =>
              decideWithinBudgets py env limits { state with cache := cache } s code (some key)
        else decideWithinBudgets py env limits state s code none

/-- The state after a list of requests. -/
def scans (dumpJson : NarrowedVerifierRequest → String) (env : Surroundings) (limits : Limits) :
    ScanState → List Scan → ScanState
  | state, [] => state
  | state, s :: rest => scans dumpJson env limits (scan py dumpJson env limits state s).state rest

end ScanFloodBudget
