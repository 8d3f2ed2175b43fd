import QrTrust.Lib.Separated
import QrTrust.Backend.HostCanonicalizationProofs
import QrTrust.Backend.ScannerPipelineProofs
import QrTrust.Backend.VerdictCacheProofs
import QrTrust.Backend.VerdictLifetimeProofs

/-! # What stands behind the decision of a scan

    A positive decision is vouched for by every step of the scan (`positive_iff_vouched`),
    and in a run of scans over one verdict cache the verdict behind it was computed
    (`positive_computed`).  Where the trust state is out, or the payload does not decode,
    the decision is determined. -/

namespace ScannerPipeline

open TrustResiduals SignedSchema TrustStore ScannerRecord QrArtifact RedirectPolicy
open DecisionList Fallible
open ScannerUx (OperationalState ScannerDecisionDestination)
open VerdictCache (Entries CacheEntry Handled NarrowedVerifierRequest NarrowedVerifierResponse
  PresentedCode Presentation Surroundings presentedCode verdictCacheKey keyMaterial requestHash
  responseOf runNarrowedVerifier)
open NarrowedVerifier (NarrowedVerificationResult verifyPresentedCode)

variable {Image Quad ρ Defect : Type} {host : ScannerHost Image Quad ρ}
  {trust : ScanTrust Defect} {request : ScanRequest}

/-! ## What is asked of the verifier -/

variable (host) in
/-- What the narrowed verifier is asked about a code. -/
def queryOf (code : ScannedCode ρ) : Except PyError NarrowedVerifierRequest := do
  let scanned ← scannedVerifierRequest
    ⟨code.qrPayload, code.record.certificate, code.record.issuerState⟩
  translatedRequest host scanned

variable (host) in
/-- What a scan surrounds the narrowed verifier with. -/
def surroundings (trust : ScanTrust Defect) : Surroundings :=
  ⟨host.config, host.policyFile, trust.token⟩

/-- A query, as a scan presents it. -/
def presentation (trust : ScanTrust Defect) (query : NarrowedVerifierRequest) : Presentation :=
  ⟨query, trust.now, trust.projectionState, trust.envelopeBudget, trust.issuerBudget⟩

theorem verifyScanned_eq (trust : ScanTrust Defect) (code : ScannedCode ρ) :
    verifyScanned host trust code = match queryOf host code with
      | .error exc => ⟨.error exc, trust.cache, .unused⟩
      | .ok query => runNarrowedVerifier host.ux.py host.dumpJson (surroundings host trust)
          trust.cache (presentation trust query) := by
  rw [verifyScanned, queryOf]
  cases scannedVerifierRequest ⟨code.qrPayload, code.record.certificate,
      code.record.issuerState⟩ with
  | error exc => rfl
  | ok scanned =>
      show runScannedVerifier host trust scanned = match translatedRequest host scanned with
        | .error exc => _
        | .ok query => _
      rw [runScannedVerifier]
      cases translatedRequest host scanned with
      | error exc => rfl
      | ok query => rfl

theorem answered_of_asked {decision : ScannerDecision} {cache : Entries}
    (h : runScannerDecision host trust request = (.ok decision, cache))
    {code : ScannedCode ρ} (hasked : Asked host trust request code) :
    ∃ result, (verifyScanned host trust code).answer = .ok result
      ∧ scannerDecisionFromResult host code.envelope result code.record request.requestId
          code.artifact = .ok decision := by
  rw [runScannerDecision, beforeVerifier_of_asked hasked] at h
  exact bind_eq_ok_iff.mp (congrArg Prod.fst h)

/-- What a scan comes to that asks the verifier. -/
theorem run_of_asked {code : ScannedCode ρ} {query : NarrowedVerifierRequest}
    (hasked : Asked host trust request code) (hquery : queryOf host code = .ok query) :
    runScannerDecision host trust request
      = ((runNarrowedVerifier host.ux.py host.dumpJson (surroundings host trust) trust.cache
            (presentation trust query)).answer.bind (fun result =>
          scannerDecisionFromResult host code.envelope result code.record request.requestId
            code.artifact),
        (runNarrowedVerifier host.ux.py host.dumpJson (surroundings host trust) trust.cache
          (presentation trust query)).cache) := by
  rw [runScannerDecision, beforeVerifier_of_asked hasked]
  show ((verifyScanned host trust code).answer.bind _, (verifyScanned host trust code).cache) = _
  rw [verifyScanned_eq, hquery]

/-- The decision of a scan whose query is answered. -/
theorem run_of_served {code : ScannedCode ρ} {query : NarrowedVerifierRequest}
    {result : NarrowedVerifierResponse} {decision : ScannerDecision}
    (hasked : Asked host trust request code) (hquery : queryOf host code = .ok query)
    (hanswer : (runNarrowedVerifier host.ux.py host.dumpJson (surroundings host trust) trust.cache
      (presentation trust query)).answer = .ok result)
    (hdecision : scannerDecisionFromResult host code.envelope result code.record request.requestId
      code.artifact = .ok decision) :
    ∃ cache, runScannerDecision host trust request = (.ok decision, cache) := by
  refine ⟨_, (run_of_asked hasked hquery).trans (Prod.ext ?_ rfl)⟩
  show Except.bind _ _ = _
  rw [hanswer]
  exact hdecision

/-! ## A signed code -/

/-- The payload of a signed code. -/
def scanPayload : String :=
  "\x7b\"claims\":\x7b\"version\":\"2\",\"certificate_ref\":\"cert:acme\","
    ++ "\"issued_at\":\"2026-01-01T00:00:00Z\",\"expires_at\":null,"
    ++ "\"payload\":\"https://acme.example/pay\"\x7d,\"signature\":\"c2ln\"\x7d"

/-- A scan of it. -/
def sampleScan : ScanRequest := ⟨scanPayload, none, none, none⟩

/-- The code, with its record. -/
def sampleCode : ScannedCode Unit where
  qrPayload := scanPayload
  envelope :=
    ⟨⟨"2", "cert:acme", "2026-01-01T00:00:00Z", none, "https://acme.example/pay"⟩, "c2ln", none⟩
  record :=
    { certificate := ⟨"cert:acme", "Acme", "rsa-pss-sha256-v1", some "pem"⟩
      issuerState :=
        { verifiedDomains := .ofList [("acme.example", none)]
          allowSubdomains := false
          certificateActive := true
          certificateRevoked := false
          certificateRevocationReason := none
          issuerStatus := some .active
          issuerRecordIssuedAt := some "2026-01-01T00:00:00+00:00"
          issuerRecordExpiresAt := none
          keyState := some .active
          keyNotBefore := some "2026-01-01T00:00:00+00:00"
          keyNotAfter := none
          keyRevocationReason := none }
      governance := none }
  artifact := none

/-- What the verifier is asked about the code. -/
def sampleQuery : NarrowedVerifierRequest where
  envelope :=
    ⟨⟨"2", "cert:acme", "2026-01-01T00:00:00Z", none, "https://acme.example/pay"⟩, "c2ln", none⟩
  certificate := sampleCode.record.certificate
  issuerState := sampleCode.record.issuerState

theorem strip_scanPayload : PyString.strip scanPayload = scanPayload := by decide +kernel

theorem decode_scanPayload : decodeEnvelope sampleHost scanPayload = .ok sampleCode.envelope := by
  decide +kernel

theorem asked_sample (seconds : Int) (projectionState : ProjectionFreshness.Freshness) :
    Asked sampleHost (sampleTrust seconds projectionState) sampleScan sampleCode where
  profile := rfl
  image := rfl
  samePayload := fun artifact hartifact => nomatch hartifact
  qrPayload := strip_scanPayload.symm
  envelope := by
    show decodeEnvelope sampleHost (PyString.strip scanPayload) = _
    rw [strip_scanPayload]
    exact decode_scanPayload
  record := rfl
  fresh := fun governance hgovernance => nomatch hgovernance

theorem queryOf_sample : queryOf sampleHost sampleCode = .ok sampleQuery := by
  have hlength : 1 ≤ PyString.len scanPayload ∧ PyString.len scanPayload ≤ 8192 := by
    decide +kernel
  have hscanned : scannedVerifierRequest ⟨scanPayload, sampleCode.record.certificate,
      sampleCode.record.issuerState⟩
      = .ok ⟨scanPayload, sampleCode.record.certificate, sampleCode.record.issuerState⟩ := by
    rw [scannedVerifierRequest, boundedField, if_pos hlength]
    rfl
  have hinput : signedEnvelopeInput sampleCode.envelope = .ok sampleQuery.envelope := by
    decide +kernel
  have htranslated : translatedRequest sampleHost ⟨scanPayload, sampleCode.record.certificate,
      sampleCode.record.issuerState⟩ = .ok sampleQuery :=
    bind_eq_ok_iff.mpr ⟨sampleCode.envelope, mapError_eq_ok_iff.mpr decode_scanPayload,
      bind_eq_ok_iff.mpr ⟨sampleQuery.envelope, hinput, rfl⟩⟩
  exact bind_eq_ok_iff.mpr ⟨_, hscanned, htranslated⟩

/-- The verdict on it. -/
def sampleVerdict (source : VerdictCache.VerdictSource) : NarrowedVerifierResponse where
  allowed := true
  stage := "accepted"
  reason := NarrowedVerifier.acceptedReason
  canonicalClaimsSha256 := some (String.ofList (List.replicate 64 '0'))
  matchedRule := some "acme.example"
  cause := none
  verdictSource := source

theorem decided_sample (source : VerdictCache.VerdictSource) :
    ∃ decision, scannerDecisionFromResult sampleHost sampleCode.envelope (sampleVerdict source)
        sampleCode.record none sampleCode.artifact = .ok decision
      ∧ decision.decisionState = .verifiedIssuer := by
  have hstate : ((scannerDecisionFromResult sampleHost sampleCode.envelope (sampleVerdict source)
      sampleCode.record none sampleCode.artifact).toOption.map
        (fun decision => decision.decisionState)) = some .verifiedIssuer := by
    cases source <;> decide +kernel
  obtain ⟨decision, hdecision, hverified⟩ := Option.map_eq_some_iff.mp hstate
  exact ⟨decision, toOption_eq_some_iff.mp hdecision, hverified⟩

theorem computed_sample :
    (runNarrowedVerifier sampleHost.ux.py sampleHost.dumpJson
      (surroundings sampleHost (sampleTrust 5 .fresh)) .empty
      (presentation (sampleTrust 5 .fresh) sampleQuery)).answer
        = .ok (sampleVerdict .computed) := by
  decide +kernel

/-! ## Positive decisions -/

variable (host trust request) in
/-- What vouches for a code: everything before the verifier, the verifier itself, and
    nothing to say about redirects and runtime safety. -/
structure VouchedFor (code : ScannedCode ρ) (result : NarrowedVerifierResponse) : Prop where
  asked : Asked host trust request code
  answered : (verifyScanned host trust code).answer = .ok result
  allowed : result.allowed = true
  inForce : result.cause ≠ some "trust-state-unavailable"
  noRedirect : ∃ reason, evaluateUnobservedRedirectPolicy host.ux.py host.policyFile
    code.envelope.claims.payload = .ok (notApplicable code.envelope.claims.payload reason)
  clean : ∃ verdict, evaluateRuntimeSafety host.ux.py code.envelope.claims.payload = .ok verdict
    ∧ verdict.state = "clean"

theorem Decided.not_verified {fields : DecisionFields} (h : Decided host trust request fields) :
    fields.decisionState ≠ .verifiedIssuer := by
  cases h with
  | profile hstate hurl hdestination =>
      show (if _ then OperationalState.profileRevoked else .profileStale) ≠ _
      split
      · exact fun h => nomatch h
      · exact fun h => nomatch h
  | mismatch himage hpayload => exact fun h => nomatch h
  | unverified hdecode hreason hurl hdestination => exact fun h => nomatch h
  | unknownIssuer hdecode hrecord hurl hdestination => exact fun h => nomatch h
  | governance hdecode hgovernance hstate hfresh hurl hdestination =>
      show (if _ then OperationalState.blocked else .staleTrustState) ≠ _
      split
      · exact fun h => nomatch h
      · exact fun h => nomatch h

theorem inspected_of_asked {code : ScannedCode ρ} (h : Asked host trust request code) :
    ∀ image ∈ code.artifact, Inspected image := by
  intro image himage
  have hartifact := h.image
  rw [Option.mem_def.mp himage] at hartifact
  exact inspected_of_request hartifact

/-- What vouches for the code of a positive decision. -/
theorem exists_vouched {decision : ScannerDecision} {cache : Entries}
    (h : runScannerDecision host trust request = (.ok decision, cache))
    (hpositive : decision.decisionState = .verifiedIssuer) :
    ∃ code result, VouchedFor host trust request code result := by
  rcases run_cases h with hdecided | ⟨code, result, hasked, hanswered, hdecision⟩
  · exact absurd hpositive hdecided.not_verified
  · obtain ⟨redirect, runtime, vector, destination, hresulted, hfields⟩ :=
      (scannerDecisionFromResult_iff host).mp hdecision
    have hfinal : (finalDraft result redirect runtime code.artifact vector).decisionState
        = .verifiedIssuer := by
      rw [← hpositive, hfields]
      rfl
    rcases hresulted.outcome (inspected_of_asked hasked) with hshut | ⟨verdict, hthrough⟩
    · rcases hshut.state with hstate | hstate
      · cases hfinal.symm.trans hstate
      · cases hfinal.symm.trans hstate
    · obtain ⟨reason, rfl⟩ := hthrough.noRedirect
      have hredirect := hresulted.redirected
      rw [redirectVerdictOf, if_pos hthrough.allowed] at hredirect
      obtain ⟨redirect, hevaluated, hsome⟩ := map_eq_ok_iff.mp hredirect
      obtain rfl := Option.some.inj hsome
      refine ⟨code, result, hasked, hanswered, hthrough.allowed, hthrough.inForce,
        ⟨reason, hevaluated⟩, verdict, hthrough.looked, ?_⟩
      rcases evaluateRuntimeSafety_outcome hthrough.looked with ⟨hclean, -, -⟩ | ⟨-, hrisky, -⟩
        | ⟨-, hblocked, -⟩
      · exact hclean
      · cases (hfinal.symm.trans hthrough.decisionState).trans hrisky
      · cases (hfinal.symm.trans hthrough.decisionState).trans hblocked

/-- The decision on a code that is vouched for. -/
theorem VouchedFor.positive {code : ScannedCode ρ} {result : NarrowedVerifierResponse}
    {decision : ScannerDecision} {cache : Entries}
    (hvouched : VouchedFor host trust request code result)
    (h : runScannerDecision host trust request = (.ok decision, cache)) :
    decision.decisionState = .verifiedIssuer := by
  obtain ⟨result', hanswered, hdecision⟩ := answered_of_asked h hvouched.asked
  obtain rfl := Except.ok.inj (hvouched.answered.symm.trans hanswered)
  obtain ⟨redirect, runtime, vector, destination, hresulted, hfields⟩ :=
    (scannerDecisionFromResult_iff host).mp hdecision
  obtain ⟨reason, hreason⟩ := hvouched.noRedirect
  have hredirect := hresulted.redirected
  rw [redirectVerdictOf, if_pos hvouched.allowed, hreason] at hredirect
  obtain rfl := Except.ok.inj hredirect
  obtain ⟨verdict, hthrough⟩ := hresulted.letThrough hvouched.allowed hvouched.inForce
    (inspected_of_asked hvouched.asked)
  obtain ⟨clean, hclean, hstate⟩ := hvouched.clean
  obtain rfl := Except.ok.inj (hclean.symm.trans hthrough.looked)
  rw [hfields]
  show (finalDraft _ _ _ _ _).decisionState = _
  rw [hthrough.decisionState]
  rcases evaluateRuntimeSafety_outcome hclean with ⟨-, hverified, -⟩ | ⟨hcaution, -, -⟩
    | ⟨hblock, -, -⟩
  · exact hverified
  · rw [hstate] at hcaution
    exact absurd hcaution (by decide)
  · rw [hstate] at hblock
    exact absurd hblock (by decide)

/-- **VOUCHED**: a decision is positive exactly where a code has passed everything before
    the verifier, the verifier allowed it with its trust state in force, it is no
    redirect, and runtime safety is clean. -/
theorem positive_iff_vouched {decision : ScannerDecision} {cache : Entries}
    (h : runScannerDecision host trust request = (.ok decision, cache)) :
    decision.decisionState = .verifiedIssuer ↔
      ∃ code result, VouchedFor host trust request code result :=
  ⟨exists_vouched h, fun hsome => by
    obtain ⟨code, result, hvouched⟩ := hsome
    exact hvouched.positive h⟩

theorem positive_iff_vouched_signed :
    ∃ code result, VouchedFor sampleHost (sampleTrust 5 .fresh) sampleScan code result := by
  obtain ⟨decision, hdecision, hpositive⟩ := decided_sample .computed
  obtain ⟨cache, hrun⟩ :=
    run_of_served (asked_sample 5 .fresh) queryOf_sample computed_sample hdecision
  exact (positive_iff_vouched hrun).mp hpositive

/-! ## Runs of scans -/

/-- A scan: what it finds, apart from the verdict cache, and what it is asked. -/
structure Scan (Defect : Type) where
  trust : ScanTrust Defect
  request : ScanRequest

/-- What a scan finds, with the verdict cache as it is then. -/
def Scan.over (scan : Scan Defect) (cache : Entries) : ScanTrust Defect :=
  { scan.trust with cache := cache }

variable (host) in
/-- The verdict cache after a run of scans. -/
def runScans (scans : List (Scan Defect)) : Entries :=
  scans.foldl (fun cache scan => (runScannerDecision host (scan.over cache) scan.request).2) .empty

variable (host) in
/-- Does a scan ask this of the narrowed verifier? -/
def Asking (scan : Scan Defect) (query : NarrowedVerifierRequest) : Prop :=
  ∃ code, Asked host scan.trust scan.request code ∧ queryOf host code = .ok query

variable (host) in
/-- A verdict of the narrowed verifier that a scan had computed. -/
structure Computed (scan : Scan Defect) (query : NarrowedVerifierRequest) (code : PresentedCode)
    (result : NarrowedVerificationResult) : Prop where
  asking : Asking host scan query
  presented : presentedCode host.ux.py host.config query = .ok code
  decided : verifyPresentedCode host.ux.py host.config host.policyFile code.envelope
    code.certificate code.trust (.utc scan.trust.now) = .ok result

variable (host) in
/-- The key under which a scan files the verdict on a query. -/
def keyOf (scan : Scan Defect) (query : NarrowedVerifierRequest) (code : PresentedCode) : String :=
  verdictCacheKey host.ux.py host.dumpJson (surroundings host scan.trust) query
    (VerdictCache.fingerprint host.ux.py code)

variable (host) in
/-- Every verdict in the cache was computed by a scan of the run, and is kept for no
    longer than the settings say. -/
def Backed (past : List (Scan Defect)) (cache : Entries) : Prop :=
  ∀ key entry, cache.get? key = some entry → ∃ scan ∈ past, ∃ query code result,
    Computed host scan query code result ∧ entry.payload = responseOf result
      ∧ key = keyOf host scan query code
      ∧ entry.expiresAt ≤ scan.trust.now + host.config.verifierVerdictCacheTtlSeconds * 1000000

theorem asked_over_iff {scan : Scan Defect} {cache : Entries} {code : ScannedCode ρ} :
    Asked host (scan.over cache) scan.request code ↔ Asked host scan.trust scan.request code :=
  ⟨fun h => ⟨h.profile, h.image, h.samePayload, h.qrPayload, h.envelope, h.record, h.fresh⟩,
    fun h => ⟨h.profile, h.image, h.samePayload, h.qrPayload, h.envelope, h.record, h.fresh⟩⟩

/-- The cache after a scan is the cache before it, or that of the verifier's answer to
    what the scan asks. -/
theorem run_cache_cases (scan : Scan Defect) (cache : Entries) :
    (runScannerDecision host (scan.over cache) scan.request).2 = cache
      ∨ ∃ query, Asking host scan query
        ∧ (runScannerDecision host (scan.over cache) scan.request).2
          = (runNarrowedVerifier host.ux.py host.dumpJson (surroundings host scan.trust) cache
              (presentation scan.trust query)).cache := by
  rw [runScannerDecision]
  cases hbefore : beforeVerifier host (scan.over cache) scan.request with
  | error exc => exact .inl rfl
  | ok answer =>
      rcases beforeVerifier_cases hbefore with ⟨decision, rfl, -⟩ | ⟨code, rfl, hasked⟩
      · exact .inl rfl
      · show (verifyScanned host (scan.over cache) code).cache = cache ∨ _
        rw [verifyScanned_eq]
        cases hquery : queryOf host code with
        | error exc => exact .inl rfl
        | ok query =>
            refine .inr ⟨query, ⟨code, asked_over_iff.mp hasked, hquery⟩, ?_⟩
            show (verifyScanned host (scan.over cache) code).cache = _
            rw [verifyScanned_eq, hquery]
            rfl

theorem writeTtl_le {scan : Scan Defect} {query : NarrowedVerifierRequest} {code : PresentedCode}
    {result : NarrowedVerificationResult} {ttl : Int}
    (h : VerdictCache.writeTtl host.ux.py (surroundings host scan.trust)
      (presentation scan.trust query) code result = .ok ttl) (hpositive : 0 < ttl) :
    ttl ≤ host.config.verifierVerdictCacheTtlSeconds := by
  obtain ⟨boundaries, -, rfl⟩ := map_eq_ok_iff.mp h
  by_cases huncacheable : VerdictLifetime.Uncacheable host.ux.py host.config scan.trust.now
      code.envelope.claims.expiresAt
  · have hzero := VerdictLifetime.ttl_of_uncacheable host.ux.py boundaries huncacheable
    exact absurd (hzero ▸ hpositive) (lt_irrefl 0)
  · obtain ⟨-, hleft⟩ := (VerdictLifetime.clampToExpiry_pos_iff host.ux.py).mpr huncacheable
    exact ((VerdictLifetime.le_ttl_iff host.ux.py boundaries huncacheable _).mp (le_refl _)).1.trans
      (VerdictLifetime.clampToExpiry_pos host.ux.py hleft).2.1

/-- **STEP**: a scan keeps the cache backed by the run. -/
theorem Backed.step {past : List (Scan Defect)} {cache : Entries} (h : Backed host past cache)
    (scan : Scan Defect) :
    Backed host (past ++ [scan]) (runScannerDecision host (scan.over cache) scan.request).2 := by
  intro key entry hentry
  have hold : cache.get? key = some entry → ∃ scan' ∈ past ++ [scan], ∃ query code result,
      Computed host scan' query code result ∧ entry.payload = responseOf result
        ∧ key = keyOf host scan' query code
        ∧ entry.expiresAt
          ≤ scan'.trust.now + host.config.verifierVerdictCacheTtlSeconds * 1000000 := by
    intro hentry
    obtain ⟨scan', hmem, hbacked⟩ := h key entry hentry
    exact ⟨scan', List.mem_append_left _ hmem, hbacked⟩
  rcases @run_cache_cases _ _ _ _ host scan cache with hsame | ⟨query, hasking, hcache⟩
  · rw [hsame] at hentry
    exact hold hentry
  · rw [hcache] at hentry
    rcases VerdictCache.get?_of_runNarrowedVerifier host.ux.py hentry with hentry | hstored
    · exact hold hentry
    · obtain ⟨code, result, ttl, hstoring⟩ := VerdictCache.exists_storing host.ux.py hstored
      obtain rfl := Option.some.inj (hstoring.entry.symm.trans hentry)
      have hle := writeTtl_le hstoring.lifetime hstoring.positive
      refine ⟨scan, List.mem_append_right _ (List.mem_singleton_self _), query, code, result,
        ⟨hasking, hstoring.presented, hstoring.decided⟩, rfl, hstoring.keyed, ?_⟩
      show scan.trust.now + ttl * 1000000 ≤ _
      omega

/-- **RUN**: the cache of a run of scans is backed by the run. -/
theorem backed_runScans (scans : List (Scan Defect)) :
    Backed host scans (runScans host scans) := by
  induction scans using List.reverseRecOn with
  | nil =>
      intro key entry hentry
      cases hentry
  | append_singleton past scan ih =>
      rw [runScans, List.foldl_append]
      exact ih.step scan

/-- What the verifier computes is a result of the narrowed verifier. -/
theorem computeVerdict_ok {env : Surroundings} {cache : Entries} {p : Presentation}
    {code : PresentedCode} {cacheKey : Option String} {response : NarrowedVerifierResponse}
    (h : (VerdictCache.computeVerdict host.ux.py env cache p code cacheKey).answer
      = .ok response) :
    ∃ result, verifyPresentedCode host.ux.py env.config env.policyFile code.envelope
        code.certificate code.trust (.utc p.now) = .ok result ∧ response = responseOf result := by
  rw [VerdictCache.computeVerdict] at h
  cases hbudgeted : VerdictCache.budgetedResult host.ux.py env p code with
  | error exc =>
      rw [hbudgeted] at h
      cases h
  | ok result =>
      rw [hbudgeted] at h
      refine ⟨result, VerdictCache.decided_of_budgetedResult host.ux.py hbudgeted, ?_⟩
      simp only [] at h
      split at h
      · exact (Except.ok.inj h).symm
      · split at h
        · cases h
        · exact (Except.ok.inj h).symm

/-- **TWO SOURCES**: an allowed answer of the verifier was served from the cache, or has
    just been computed. -/
theorem allowed_sources {env : Surroundings} {cache : Entries} {p : Presentation}
    {response : NarrowedVerifierResponse}
    (h : (runNarrowedVerifier host.ux.py host.dumpJson env cache p).answer = .ok response)
    (hallowed : response.allowed = true) :
    (∃ key code entry, VerdictCache.Serving host.ux.py host.dumpJson env cache p key code entry
        ∧ entry.payload.allowed = true)
      ∨ ∃ code result, presentedCode host.ux.py env.config p.request = .ok code
        ∧ verifyPresentedCode host.ux.py env.config env.policyFile code.envelope code.certificate
            code.trust (.utc p.now) = .ok result
        ∧ result.allowed = true := by
  by_cases hserved : ∃ key,
      (runNarrowedVerifier host.ux.py host.dumpJson env cache p).cacheUse = .served key
  · obtain ⟨key, huse⟩ := hserved
    obtain ⟨code, entry, hserving⟩ := VerdictCache.exists_serving host.ux.py huse
    refine .inl ⟨key, code, entry, hserving, ?_⟩
    obtain rfl := Except.ok.inj (h.symm.trans hserving.answer)
    exact hallowed
  · right
    rw [runNarrowedVerifier] at h hserved
    by_cases hstate : p.projectionState = .unavailable
    · rw [if_pos hstate] at h
      obtain rfl := Except.ok.inj h
      exact absurd hallowed Bool.false_ne_true
    · rw [if_neg hstate] at h hserved
      cases hcode : presentedCode host.ux.py env.config p.request with
      | error exc =>
          rw [hcode] at h
          cases h
      | ok code =>
          rw [hcode] at h hserved
          simp only [] at h hserved
          have hcomputed : ∃ cache cacheKey, (VerdictCache.computeVerdict host.ux.py env cache p
              code cacheKey).answer = .ok response := by
            split at h
            · rename_i httl
              rw [if_pos httl] at hserved
              cases hget : VerdictCache.get cache (verdictCacheKey host.ux.py host.dumpJson env
                  p.request (VerdictCache.fingerprint host.ux.py code)) p.now with
              | mk found cache' =>
                  rw [hget] at h hserved
                  cases found with
                  | some response' => exact absurd ⟨_, rfl⟩ hserved
                  | none => exact ⟨_, _, h⟩
            · exact ⟨_, _, h⟩
          obtain ⟨cache', cacheKey, hcomputed⟩ := hcomputed
          obtain ⟨result, hresult, rfl⟩ := computeVerdict_ok hcomputed
          exact ⟨code, result, rfl, hresult, hallowed⟩

/-! ## Equal keys -/

/-- The text that a trust state token adds to the material of a key. -/
def tokenText (token : Option TrustProjection.TrustStateToken) : String :=
  match token with
  | none => "ephemeral"
  | some token => token.epoch ++ ":" ++ toString token.version

/-- No digit is a colon. -/
theorem colon_not_mem_toString (n : Nat) : ':' ∉ (toString n).toList := by
  intro hmem
  rw [show toString n = Nat.repr n from rfl, Nat.repr_eq_ofList_toDigits, String.toList_ofList]
    at hmem
  exact absurd (Nat.isDigit_of_mem_toDigits (by decide) (by decide) hmem) (by decide)

/-- A token can be read off its text. -/
theorem tokenText_injective {token token' : Option TrustProjection.TrustStateToken}
    (h : tokenText token = tokenText token') : token = token' := by
  have hcolon : ∀ state : TrustProjection.TrustStateToken,
      tokenText none ≠ tokenText (some state) := by
    intro state heq
    have hmem : ':' ∈ (tokenText (some state)).toList := by simp [tokenText]
    rw [← heq] at hmem
    exact absurd hmem (by decide)
  cases token with
  | none =>
      cases token' with
      | none => rfl
      | some state => exact absurd h (hcolon state)
  | some state =>
      cases token' with
      | none => exact absurd h.symm (hcolon state)
      | some state' =>
          obtain ⟨epoch, version⟩ := state
          obtain ⟨epoch', version'⟩ := state'
          have hlist := congrArg String.toList h
          simp only [tokenText, String.toList_append, List.append_assoc] at hlist
          obtain ⟨hepoch, hversion⟩ := Separated.last_separator (x := ':')
            (colon_not_mem_toString version) (colon_not_mem_toString version') hlist
          rw [String.toList_inj.mp hepoch,
            Nat.repr_injective (String.toList_inj.mp hversion)]

/-- The text that the policy file adds to it. -/
def policyText (policyFile : Option PayloadRevalidation.PolicyFile) : String :=
  match PayloadRevalidation.loadDestinationPolicyResolution policyFile with
  | none => "no-policy"
  | some resolution => resolution.source ++ ":" ++ resolution.name ++ ":" ++ resolution.digest

theorem keyMaterial_eq (trust : ScanTrust Defect) (query : NarrowedVerifierRequest) :
    keyMaterial host.dumpJson (surroundings host trust) query
      = host.dumpJson query
        ++ ("\n" ++ tokenText trust.token ++ "\n" ++ policyText host.policyFile) := by
  rw [keyMaterial, policyText]
  show host.dumpJson query ++ _ = _
  cases htoken : trust.token <;>
    cases hpolicy : PayloadRevalidation.loadDestinationPolicyResolution host.policyFile <;>
      simp only [surroundings, htoken, hpolicy, tokenText]

/-- **MATERIAL**: what a key is made of says which query it is about and which trust
    state it was asked under. -/
theorem of_keyMaterial {trust trust' : ScanTrust Defect} {query query' : NarrowedVerifierRequest}
    (hline : ∀ query, '\n' ∉ (host.dumpJson query).toList)
    (h : keyMaterial host.dumpJson (surroundings host trust) query
      = keyMaterial host.dumpJson (surroundings host trust') query') :
    host.dumpJson query = host.dumpJson query' ∧ trust.token = trust'.token := by
  rw [keyMaterial_eq, keyMaterial_eq] at h
  have hlist := congrArg String.toList h
  simp only [String.toList_append, List.append_assoc] at hlist
  obtain ⟨hdump, hrest⟩ := Separated.first_separator (x := '\n') (hline query) (hline query') hlist
  exact ⟨String.toList_inj.mp hdump,
    tokenText_injective (String.toList_inj.mp (List.append_cancel_right hrest))⟩

/-- Keys that are equal hash the same material, where the two materials do not collide. -/
theorem material_of_key {trust trust' : ScanTrust Defect} {query query' : NarrowedVerifierRequest}
    {fingerprint fingerprint' : String}
    (hdigest : ∀ text, (host.ux.py.sha256 text).toList.length = 64)
    (h : verdictCacheKey host.ux.py host.dumpJson (surroundings host trust) query fingerprint
      = verdictCacheKey host.ux.py host.dumpJson (surroundings host trust') query' fingerprint') :
    requestHash host.ux.py (keyMaterial host.dumpJson (surroundings host trust) query)
      = requestHash host.ux.py (keyMaterial host.dumpJson (surroundings host trust') query') := by
  have hlength : ∀ text, (requestHash host.ux.py text).toList.length = 32 := by
    intro text
    rw [requestHash, String.toList_ofList, List.length_take, hdigest]
    rfl
  have hlist := congrArg String.toList h
  simp only [verdictCacheKey, String.toList_append] at hlist
  exact String.toList_inj.mp (List.append_inj_right' hlist (by rw [hlength, hlength]))

/-! ## Positive decisions in a run -/

variable (host) in
/-- Do the texts and the hashes of what two scans ask tell the questions apart? -/
structure ToldApart (earlier scan : Scan Defect) : Prop where
  dump : ∀ query query', Asking host earlier query → Asking host scan query' →
    host.dumpJson query = host.dumpJson query' → query = query'
  hash : ∀ query query', Asking host earlier query → Asking host scan query' →
    requestHash host.ux.py (keyMaterial host.dumpJson (surroundings host earlier.trust) query)
      = requestHash host.ux.py (keyMaterial host.dumpJson (surroundings host scan.trust) query') →
    keyMaterial host.dumpJson (surroundings host earlier.trust) query
      = keyMaterial host.dumpJson (surroundings host scan.trust) query'

/-- An allowed answer that a scan of a run gets was computed for its query: for this scan,
    or for an earlier one that is not further back than the verdicts are kept. -/
theorem computed_of_vouched {past : List (Scan Defect)} {scan : Scan Defect}
    {asked : ScannedCode ρ} {response : NarrowedVerifierResponse}
    (hdigest : ∀ text, (host.ux.py.sha256 text).toList.length = 64)
    (hline : ∀ query, '\n' ∉ (host.dumpJson query).toList)
    (happart : ∀ earlier ∈ past, ToldApart host earlier scan)
    (hvouched : VouchedFor host (scan.over (runScans host past)) scan.request asked response) :
    ∃ earlier query code result, Asked host scan.trust scan.request asked
      ∧ queryOf host asked = .ok query ∧ Computed host earlier query code result
      ∧ result.allowed = true ∧ earlier.trust.token = scan.trust.token
      ∧ (earlier = scan ∨ (earlier ∈ past ∧ scan.trust.now
          < earlier.trust.now + host.config.verifierVerdictCacheTtlSeconds * 1000000)) := by
  have hanswered := hvouched.answered
  rw [verifyScanned_eq] at hanswered
  cases hquery : queryOf host asked with
  | error exc =>
      rw [hquery] at hanswered
      cases hanswered
  | ok query =>
      rw [hquery] at hanswered
      have hasked : Asked host scan.trust scan.request asked := asked_over_iff.mp hvouched.asked
      have hasking : Asking host scan query := ⟨asked, hasked, hquery⟩
      rcases allowed_sources hanswered hvouched.allowed with
        ⟨key, presented, entry, hserving, hallowed⟩ | ⟨presented, result, hcode, hresult, hallowed⟩
      · obtain ⟨earlier, hmem, query', code', result, hcomputed, hpayload, hkey, hexpires⟩ :=
          backed_runScans past key entry hserving.found
        have hmaterial := (happart earlier hmem).hash query' query hcomputed.asking hasking
          (material_of_key hdigest (hkey.symm.trans hserving.keyed))
        obtain ⟨hdump, htoken⟩ := of_keyMaterial hline hmaterial
        obtain rfl := (happart earlier hmem).dump query' query hcomputed.asking hasking hdump
        refine ⟨earlier, query', code', result, hasked, rfl, hcomputed, ?_, htoken,
          .inr ⟨hmem, lt_of_lt_of_le hserving.live hexpires⟩⟩
        rw [hpayload] at hallowed
        exact hallowed
      · exact ⟨scan, query, presented, result, hasked, rfl, ⟨hasking, hcode, hresult⟩, hallowed,
          rfl, .inl rfl⟩

/-- **POSITIVE SCANS**: in every run of scans over one verdict cache, whatever each of
    them finds, a positive decision goes back to a verdict that allowed this very code:
    the same envelope, certificate and issuer state, under the same token of the trust
    state.  The narrowed verifier computed it for this scan, or for an earlier one of the
    run that is not further back than the verdicts are kept. -/
theorem positive_computed {past : List (Scan Defect)} {scan : Scan Defect}
    {decision : ScannerDecision} {cache : Entries}
    (hdigest : ∀ text, (host.ux.py.sha256 text).toList.length = 64)
    (hline : ∀ query, '\n' ∉ (host.dumpJson query).toList)
    (happart : ∀ earlier ∈ past, ToldApart host earlier scan)
    (h : runScannerDecision host (scan.over (runScans host past)) scan.request
      = (.ok decision, cache))
    (hpositive : decision.decisionState = .verifiedIssuer) :
    ∃ earlier query code result, Asking host scan query ∧ Computed host earlier query code result
      ∧ result.allowed = true ∧ earlier.trust.token = scan.trust.token
      ∧ (earlier = scan ∨ (earlier ∈ past ∧ scan.trust.now
          < earlier.trust.now + host.config.verifierVerdictCacheTtlSeconds * 1000000)) := by
  obtain ⟨asked, response, hvouched⟩ := exists_vouched h hpositive
  obtain ⟨earlier, query, code, result, hasked, hquery, hcomputed, hrest⟩ :=
    computed_of_vouched hdigest hline happart hvouched
  exact ⟨earlier, query, code, result, ⟨asked, hasked, hquery⟩, hcomputed, hrest⟩

/-! ## A code scanned twice -/

/-- The code, scanned five seconds into the year. -/
def firstScan : Scan Unit := ⟨sampleTrust 5 .fresh, sampleScan⟩

/-- The code, scanned again after twenty seconds. -/
def secondScan : Scan Unit := ⟨sampleTrust 25 .fresh, sampleScan⟩

/-- The cache after the first scan. -/
def firstCache : Entries :=
  (runNarrowedVerifier sampleHost.ux.py sampleHost.dumpJson
    (surroundings sampleHost (sampleTrust 5 .fresh)) .empty
    (presentation (sampleTrust 5 .fresh) sampleQuery)).cache

theorem runScans_sample : runScans sampleHost [firstScan] = firstCache :=
  congrArg Prod.snd (run_of_asked (asked_over_iff.mpr (asked_sample 5 .fresh)) queryOf_sample)

theorem served_sample :
    (runNarrowedVerifier sampleHost.ux.py sampleHost.dumpJson
      (surroundings sampleHost (secondScan.over firstCache)) (secondScan.over firstCache).cache
      (presentation (secondScan.over firstCache) sampleQuery)).answer
        = .ok (sampleVerdict .cached) := by
  decide +kernel

/-- A scan asks one thing of the verifier. -/
theorem asking_unique {scan : Scan Defect} {query query' : NarrowedVerifierRequest}
    (h : Asking host scan query) (h' : Asking host scan query') : query = query' := by
  obtain ⟨code, hasked, hquery⟩ := h
  obtain ⟨code', hasked', hquery'⟩ := h'
  have hsame := (beforeVerifier_of_asked hasked).symm.trans (beforeVerifier_of_asked hasked')
  obtain rfl := BeforeVerifier.asks.inj (Except.ok.inj hsame)
  exact Except.ok.inj (hquery.symm.trans hquery')

theorem toldApart_sample : ToldApart sampleHost firstScan secondScan := by
  have hfirst : Asking sampleHost firstScan sampleQuery :=
    ⟨sampleCode, asked_sample 5 .fresh, queryOf_sample⟩
  have hsecond : Asking sampleHost secondScan sampleQuery :=
    ⟨sampleCode, asked_sample 25 .fresh, queryOf_sample⟩
  constructor
  · intro query query' hquery hquery' _
    rw [asking_unique hquery hfirst, asking_unique hquery' hsecond]
  · intro query query' hquery hquery' _
    rw [asking_unique hquery hfirst, asking_unique hquery' hsecond]
    rfl

/-- The second scan is served the verdict of the first, and its decision is positive. -/
theorem positive_second_scan :
    ∃ decision cache, runScannerDecision sampleHost
        (secondScan.over (runScans sampleHost [firstScan])) secondScan.request
          = (.ok decision, cache) ∧ decision.decisionState = .verifiedIssuer := by
  rw [runScans_sample]
  obtain ⟨decision, hdecision, hpositive⟩ := decided_sample .cached
  have hasked : Asked sampleHost (secondScan.over firstCache) secondScan.request sampleCode :=
    asked_over_iff.mpr (asked_sample 25 .fresh)
  obtain ⟨cache, hrun⟩ := run_of_served hasked queryOf_sample served_sample hdecision
  exact ⟨decision, cache, hrun, hpositive⟩

theorem positive_computed_second_scan :
    ∃ earlier query code result, Asking sampleHost secondScan query
      ∧ Computed sampleHost earlier query code result ∧ result.allowed = true
      ∧ earlier.trust.token = some ⟨"epoch", 7⟩
      ∧ (earlier = secondScan ∨ (earlier ∈ [firstScan] ∧ secondScan.trust.now
          < earlier.trust.now + sampleHost.config.verifierVerdictCacheTtlSeconds * 1000000)) := by
  obtain ⟨decision, cache, hrun, hpositive⟩ := positive_second_scan
  refine positive_computed (fun text => by simp [sampleHost, VerdictCache.sampleRuntime])
    (fun query => by simp [sampleHost]) (fun earlier hmem => ?_) hrun hpositive
  obtain rfl := List.mem_singleton.mp hmem
  exact toldApart_sample

/-! ## Outages -/

/-- In an outage the verifier has one answer. -/
theorem answer_of_outage {code : ScannedCode ρ} {result : NarrowedVerifierResponse}
    (hout : trust.projectionState = .unavailable)
    (h : (verifyScanned host trust code).answer = .ok result) :
    result = VerdictCache.unavailableResponse
      ∧ (verifyScanned host trust code).cache = trust.cache := by
  rw [verifyScanned_eq] at h ⊢
  cases hquery : queryOf host code with
  | error exc =>
      rw [hquery] at h
      cases h
  | ok query =>
      rw [hquery] at h
      have hrun : runNarrowedVerifier host.ux.py host.dumpJson (surroundings host trust) trust.cache
          (presentation trust query)
          = ⟨.ok VerdictCache.unavailableResponse, trust.cache, .unused⟩ := by
        rw [runNarrowedVerifier]
        exact if_pos hout
      simp only [hrun] at h ⊢
      exact ⟨(Except.ok.inj h).symm, trivial⟩

/-- **OUTAGE**: while the trust state cannot be had, a code that is asked about is
    unknown, is not opened, and leaves the verdict cache alone; the model's decision next
    to it is all the same the one on a revoked issuer. -/
theorem outage_settles {code : ScannedCode ρ} {decision : ScannerDecision} {cache : Entries}
    (hout : trust.projectionState = .unavailable) (hasked : Asked host trust request code)
    (h : runScannerDecision host trust request = (.ok decision, cache)) :
    decision.decisionState = .unknown ∧ decision.openAllowed = false
      ∧ decision.issuer.status = "unknown" ∧ cache = trust.cache
      ∧ decision.modelDecision.primaryState = .blocked
      ∧ decision.modelDecision.reasonCodes = ["issuer-revoked"] := by
  obtain ⟨result, hanswered, hdecision⟩ := answered_of_asked h hasked
  obtain ⟨rfl, hcache⟩ := answer_of_outage hout hanswered
  rw [runScannerDecision, beforeVerifier_of_asked hasked] at h
  have hafter : cache = trust.cache := (congrArg Prod.snd h).symm.trans hcache
  obtain ⟨redirect, runtime, vector, destination, hresulted, hfields⟩ :=
    (scannerDecisionFromResult_iff host).mp hdecision
  have hissuer : (tiers vector) .issuerChain = "revoked-issuer" := by
    obtain ⟨failed, hfailed, hvector⟩ := bind_eq_ok_iff.mp hresulted.weighed
    obtain rfl := Except.ok.inj hfailed
    obtain ⟨redirectFlow, -, hvector⟩ := bind_eq_ok_iff.mp hvector
    obtain ⟨runtimeSafety, -, hvector⟩ := bind_eq_ok_iff.mp hvector
    obtain ⟨artifactIntegrity, -, hvector⟩ := bind_eq_ok_iff.mp hvector
    obtain rfl := Except.ok.inj hvector
    rfl
  have hmodel : modelOf vector
      = { primaryState := .blocked, reasonCodes := ["issuer-revoked"] } := by
    have hclaim : invalidManagedClaim (tiers vector) runtimeDecisionProfile = none := by
      rw [invalidManagedClaim, hissuer]
      rfl
    have hrevoked : revokedIssuer (tiers vector)
        = some { primaryState := .blocked, reasonCodes := ["issuer-revoked"] } := by
      rw [revokedIssuer, hissuer]
      rfl
    rw [modelOf, decideArms, blockArms, hclaim, hrevoked]
    rfl
  rw [hfields]
  refine ⟨rfl, rfl, rfl, hafter, ?_, ?_⟩
  · show (modelOf vector).primaryState = .blocked
    rw [hmodel]
  · show (modelOf vector).reasonCodes = ["issuer-revoked"]
    rw [hmodel]

theorem outage_settles_signed :
    ∃ decision cache, runScannerDecision sampleHost (sampleTrust 5 .unavailable) sampleScan
        = (.ok decision, cache) ∧ decision.decisionState = .unknown
      ∧ decision.modelDecision.reasonCodes = ["issuer-revoked"] := by
  have hdecided : (scannerDecisionFromResult sampleHost sampleCode.envelope
      VerdictCache.unavailableResponse sampleCode.record none sampleCode.artifact).isOk
        = true := by
    decide +kernel
  obtain ⟨decision, hdecision⟩ := exists_ok_of_isOk hdecided
  have hanswer : (runNarrowedVerifier sampleHost.ux.py sampleHost.dumpJson
      (surroundings sampleHost (sampleTrust 5 .unavailable)) (sampleTrust 5 .unavailable).cache
      (presentation (sampleTrust 5 .unavailable) sampleQuery)).answer
        = .ok VerdictCache.unavailableResponse := by
    rw [runNarrowedVerifier]
    exact congrArg Handled.answer (if_pos rfl)
  obtain ⟨cache, hrun⟩ :=
    run_of_served (asked_sample 5 .unavailable) queryOf_sample hanswer hdecision
  have houtage := outage_settles rfl (asked_sample 5 .unavailable) hrun
  exact ⟨decision, cache, hrun, houtage.1, houtage.2.2.2.2.2⟩

/-! ## Payloads that do not decode -/

/-- The bounds of a response to a payload without an envelope, apart from those that its
    own texts keep. -/
structure UnverifiedBounds (hasUrlDestination : Bool) (reason : String)
    (destination : ScannerDecisionDestination) (requestId : Option String) : Prop where
  host : ∀ name ∈ destination.host, PyString.len name ≤ 256
  reason : hasUrlDestination = false → 1 ≤ PyString.len reason ∧ PyString.len reason ≤ 512
  requestId : ∀ value ∈ requestId, PyString.len value ≤ 128

theorem holds_some {field value : String} {least most : Nat}
    (h : least ≤ PyString.len value ∧ PyString.len value ≤ most) :
    BoundedText.Holds ⟨field, least, most, some value⟩ := by
  intro text htext
  obtain rfl := Option.some.inj htext
  exact h

theorem holds_none {field : String} {least most : Nat} :
    BoundedText.Holds ⟨field, least, most, none⟩ :=
  fun text htext => absurd htext (Option.not_mem_none text)

theorem holds_zero {field : String} {most : Nat} {value : Option String}
    (h : ∀ text ∈ value, PyString.len text ≤ most) : BoundedText.Holds ⟨field, 0, most, value⟩ :=
  fun text htext => ⟨Nat.zero_le _, h text htext⟩

theorem unverified_ownTexts_iff {hasUrlDestination : Bool} {reason display : String}
    {name : Option String} {wire : ResidualVector × Decision} {requestId : Option String}
    (hdisplay : 1 ≤ PyString.len display ∧ PyString.len display ≤ 2048) :
    (∀ text ∈ (unverifiedFields hasUrlDestination reason
        ⟨display, name, "unverified", none, none, none⟩ wire requestId).ownTexts, text.Holds)
      ↔ UnverifiedBounds hasUrlDestination reason
        ⟨display, name, "unverified", none, none, none⟩ requestId := by
  rw [DecisionFields.ownTexts]
  simp only [List.forall_mem_cons]
  constructor
  · rintro ⟨-, -, -, -, -, -, hhost, -, -, -, -, -, hreason, hid, -⟩
    refine ⟨fun text htext => (hhost text htext).2, fun hurl => ?_,
      fun text htext => (hid text htext).2⟩
    subst hurl
    exact hreason reason rfl
  · intro h
    have hstatus : BoundedText.Holds ⟨"status", 1, 64, some "none"⟩ :=
      holds_some (by simp [PyString.len])
    have hbinding : BoundedText.Holds ⟨"binding", 1, 64, some "unverified"⟩ :=
      holds_some (by simp [PyString.len])
    have hstage : BoundedText.Holds ⟨"verifier_stage", 1, 64, some "qr_decode"⟩ :=
      holds_some (by simp [PyString.len])
    cases hasUrlDestination with
    | true =>
        have hprimary : BoundedText.Holds ⟨"primary_message", 1, 512,
            some ("No recognized trust signal is available for this QR. Review the destination "
              ++ "before continuing.")⟩ := holds_some (by simp [PyString.len])
        have hreason : BoundedText.Holds ⟨"verifier_reason", 1, 512,
            some "Plain URL QR without a signed QR Trust envelope"⟩ :=
          holds_some (by simp [PyString.len])
        exact ⟨holds_none, hprimary, holds_none, holds_none, hstatus, holds_some hdisplay,
          holds_zero h.host, hbinding, holds_none, holds_none, holds_none, hstage, hreason,
          holds_zero h.requestId, fun text htext => absurd htext List.not_mem_nil⟩
    | false =>
        have hprimary : BoundedText.Holds ⟨"primary_message", 1, 512,
            some "This QR does not contain a scanner-verifiable URL or signed trust envelope."⟩ :=
          holds_some (by simp [PyString.len])
        exact ⟨holds_none, hprimary, holds_none, holds_none, hstatus, holds_some hdisplay,
          holds_zero h.host, hbinding, holds_none, holds_none, holds_none, hstage,
          holds_some (h.reason rfl), holds_zero h.requestId,
          fun text htext => absurd htext List.not_mem_nil⟩

/-- A signal or an action of constants keeps its bounds. -/
theorem signal_holds {layer state : String} {message : Option String}
    (hlayer : 1 ≤ PyString.len layer ∧ PyString.len layer ≤ 64)
    (hstate : 1 ≤ PyString.len state ∧ PyString.len state ≤ 64)
    (hmessage : ∀ text ∈ message, PyString.len text ≤ 512) :
    ∀ text ∈ (⟨layer, state, message⟩ : DecisionSignal).texts, text.Holds := by
  rw [DecisionSignal.texts]
  simp only [List.forall_mem_cons]
  exact ⟨holds_some hlayer, holds_some hstate, holds_zero hmessage,
    fun text htext => absurd htext List.not_mem_nil⟩

theorem action_holds {id label style : String}
    (hid : 1 ≤ PyString.len id ∧ PyString.len id ≤ 64)
    (hlabel : 1 ≤ PyString.len label ∧ PyString.len label ≤ 128)
    (hstyle : 1 ≤ PyString.len style ∧ PyString.len style ≤ 64) :
    ∀ text ∈ (⟨id, label, style⟩ : ScannerDecisionAction).texts, text.Holds := by
  rw [ScannerDecisionAction.texts]
  simp only [List.forall_mem_cons]
  exact ⟨holds_some hid, holds_some hlabel, holds_some hstyle,
    fun text htext => absurd htext List.not_mem_nil⟩

theorem scannerActions_hold (decisionState : OperationalState) (openAllowed : Bool) :
    ∀ text ∈ (scannerActions decisionState openAllowed).flatMap ScannerDecisionAction.texts,
      text.Holds := by
  have hall : ∀ action ∈ scannerActions decisionState openAllowed,
      ∀ text ∈ action.texts, text.Holds := by
    intro action haction
    have hmem : action ∈ [(⟨"dismiss", "Do not open", "danger"⟩ : ScannerDecisionAction),
        ⟨"open_destination", "Open verified destination", "primary"⟩,
        ⟨"continue_caution", "Continue with caution", "warning"⟩,
        ⟨"copy_destination", "Copy destination", "secondary"⟩,
        ⟨"copy_payload", "Copy payload", "secondary"⟩] := by
      revert haction
      cases decisionState <;> cases openAllowed <;> simp [scannerActions] <;> grind
    simp only [List.mem_cons, List.not_mem_nil, or_false] at hmem
    rcases hmem with rfl | rfl | rfl | rfl | rfl <;>
      exact action_holds (by simp [PyString.len]) (by simp [PyString.len]) (by simp [PyString.len])
  intro text htext
  obtain ⟨action, haction, htext⟩ := List.mem_flatMap.mp htext
  exact hall action haction text htext

theorem unverified_signals_hold (hasUrlDestination : Bool) {reason : String}
    {destination : ScannerDecisionDestination} {wire : ResidualVector × Decision}
    {requestId : Option String} :
    ∀ signal ∈ (unverifiedFields hasUrlDestination reason destination wire requestId).signals,
      ∀ text ∈ signal.texts, text.Holds := by
  cases hasUrlDestination with
  | true =>
      show ∀ signal ∈ [_, _, _, _], _
      simp only [List.forall_mem_cons]
      exact ⟨
        signal_holds (by simp [PyString.len]) (by simp [PyString.len]) (by simp [PyString.len]),
        signal_holds (by simp [PyString.len]) (by simp [PyString.len]) (by simp [PyString.len]),
        signal_holds (by simp [PyString.len]) (by simp [PyString.len]) (by simp [PyString.len]),
        signal_holds (by simp [PyString.len]) (by simp [PyString.len]) (by simp [PyString.len]),
        fun signal hsignal => absurd hsignal List.not_mem_nil⟩
  | false =>
      show ∀ signal ∈ [_, _, _, _], _
      simp only [List.forall_mem_cons]
      exact ⟨
        signal_holds (by simp [PyString.len]) (by simp [PyString.len]) (by simp [PyString.len]),
        signal_holds (by simp [PyString.len]) (by simp [PyString.len]) (by simp [PyString.len]),
        signal_holds (by simp [PyString.len]) (by simp [PyString.len]) (by simp [PyString.len]),
        signal_holds (by simp [PyString.len]) (by simp [PyString.len]) (by simp [PyString.len]),
        fun signal hsignal => absurd hsignal List.not_mem_nil⟩

theorem unverified_withinBounds_iff {hasUrlDestination : Bool} {reason display : String}
    {name : Option String} {wire : ResidualVector × Decision} {requestId : Option String}
    (hdisplay : 1 ≤ PyString.len display ∧ PyString.len display ≤ 2048) :
    (unverifiedFields hasUrlDestination reason
        ⟨display, name, "unverified", none, none, none⟩ wire requestId).WithinBounds
      ↔ UnverifiedBounds hasUrlDestination reason
        ⟨display, name, "unverified", none, none, none⟩ requestId := by
  rw [← @unverified_ownTexts_iff _ _ _ _ wire _ hdisplay, DecisionFields.WithinBounds,
    DecisionFields.texts]
  simp only [List.forall_mem_append]
  constructor
  · exact fun h => h.1.1.1.1
  · intro h
    refine ⟨⟨⟨⟨h, fun text htext => absurd htext List.not_mem_nil⟩, fun text htext => ?_⟩,
      scannerActions_hold .unverified hasUrlDestination⟩,
      fun governance hgovernance => absurd hgovernance (Option.not_mem_none governance)⟩
    obtain ⟨signal, hsignal, htext⟩ := List.mem_flatMap.mp htext
    exact unverified_signals_hold hasUrlDestination signal hsignal text htext

theorem len_cutUrl_readableOr (value : String) :
    1 ≤ PyString.len (cutUrl (readableOr value))
      ∧ PyString.len (cutUrl (readableOr value)) ≤ 2048 := by
  have hne : readableOr value ≠ "" := by
    rw [readableOr]
    split
    · decide
    · rename_i h
      exact h
  have hpos : 0 < (readableOr value).toList.length := by
    rw [List.length_pos_iff]
    intro hnil
    exact hne (String.toList_inj.mp hnil)
  rw [PyString.len, cutUrl, String.toList_ofList, List.length_take]
  omega

/-- A payload without an envelope is answered where its URL can be read and the bounds of
    the response are kept. -/
theorem unverified_ok_iff {payload reason cause : String} {requestId : Option String}
    {codes : List String} :
    (∃ decision, unverifiedScannerDecision host payload reason requestId cause codes
        = .ok decision) ↔
      ∃ isUrl name, looksLikeUrl host.ux.py (PyString.strip payload) = .ok isUrl
        ∧ urlHost host.ux.py (readableOr (PyString.strip payload)) = .ok name
        ∧ UnverifiedBounds isUrl reason
          ⟨cutUrl (readableOr (PyString.strip payload)), name, "unverified", none, none, none⟩
          requestId := by
  have hdisplay := len_cutUrl_readableOr (PyString.strip payload)
  constructor
  · rintro ⟨decision, h⟩
    obtain ⟨isUrl, hurl, h⟩ := bind_eq_ok_iff.mp h
    obtain ⟨gated, hgated, h⟩ := bind_eq_ok_iff.mp h
    obtain ⟨destination, hdestination, h⟩ := bind_eq_ok_iff.mp h
    obtain ⟨name, hname, hdestination⟩ := bind_eq_ok_iff.mp hdestination
    obtain rfl := Except.ok.inj hdestination
    have hbounds := decision.withinBounds
    rw [validated_eq_ok_iff.mp h] at hbounds
    exact ⟨isUrl, name, hurl, hname, (unverified_withinBounds_iff hdisplay).mp hbounds⟩
  · rintro ⟨isUrl, name, hurl, hname, hbounds⟩
    have hwithin := (@unverified_withinBounds_iff _ _ _ _
      (wireOf (unverifiedResidualVector ⟨"no-issuer", some cause⟩) codes) _ hdisplay).mpr hbounds
    exact ⟨⟨_, hwithin⟩, bind_eq_ok_iff.mpr ⟨isUrl, hurl, bind_eq_ok_iff.mpr ⟨_, gate_eq _ _ _,
      bind_eq_ok_iff.mpr ⟨_, bind_eq_ok_iff.mpr ⟨name, hname, rfl⟩,
        validated_eq_ok_iff.mpr rfl⟩⟩⟩⟩

/-- Without an image only the payload is read. -/
theorem readImage_of_none (himage : request.imageBase64 = none) :
    readImage host trust request = readPayload host trust request none := by
  have hartifact : (scannerArtifactAnalysisForRequest host request).mapError asBadRequest
      = .ok none := by
    rw [scannerArtifactAnalysisForRequest, himage]
    rfl
  simp only [readImage, hartifact, bind, Except.bind, Option.filter_none]

/-- A code that is no envelope. -/
def helloScan : ScanRequest := ⟨"hello", none, none, none⟩

end ScannerPipeline
