import QrTrust.Backend.VerdictTimeline

/-! # What the verdict cache serves

    A verdict stored for one request and served for a later one, against what
    the pipeline says of the later one. -/

namespace VerdictCache

open SignedSchema TrustStore PayloadRevalidation NarrowedVerifier VerdictTimeline Timed

variable (py : PyRuntime) {dumpJson : NarrowedVerifierRequest → String} {env : Surroundings}

/-! ## The two ways a request meets the cache -/

/-- What is known of a request that was served the entry under a key. -/
structure Serving (dumpJson : NarrowedVerifierRequest → String) (env : Surroundings)
    (cache : Entries) (p : Presentation) (key : String) (code : PresentedCode)
    (entry : CacheEntry) : Prop where
  presented : presentedCode py env.config p.request = .ok code
  keyed : key = verdictCacheKey py dumpJson env p.request (fingerprint py code)
  found : cache.get? key = some entry
  live : p.now < entry.expiresAt
  answer : (runNarrowedVerifier py dumpJson env cache p).answer
    = .ok { entry.payload with verdictSource := .cached }

/-- What is known of a request whose verdict was stored under a key. -/
structure Storing (dumpJson : NarrowedVerifierRequest → String) (env : Surroundings)
    (cache : Entries) (p : Presentation) (key : String) (code : PresentedCode)
    (result : NarrowedVerificationResult) (ttl : Int) : Prop where
  presented : presentedCode py env.config p.request = .ok code
  keyed : key = verdictCacheKey py dumpJson env p.request (fingerprint py code)
  decided : verifyPresentedCode py env.config env.policyFile code.envelope code.certificate
    code.trust (.utc p.now) = .ok result
  lifetime : writeTtl py env p code result = .ok ttl
  positive : 0 < ttl
  entry : (runNarrowedVerifier py dumpJson env cache p).cache.get? key
    = some ⟨p.now + ttl * 1000000, responseOf result⟩

theorem get_some {cache cache' : Entries} {key : String} {now : Int}
    {response : NarrowedVerifierResponse} (h : get cache key now = (some response, cache')) :
    ∃ entry, cache.get? key = some entry ∧ now < entry.expiresAt ∧ entry.payload = response := by
  rw [get] at h
  cases hentry : cache.get? key with
  | none => rw [hentry] at h; cases h
  | some entry =>
      rw [hentry] at h
      dsimp only at h
      split at h
      · cases h
      · rename_i hlive
        obtain ⟨hpayload, -⟩ := Prod.mk.inj h
        exact ⟨entry, rfl, not_le.mp hlive, Option.some.inj hpayload⟩

/-- A computed verdict is not a served one. -/
theorem computeVerdict_cacheUse_ne (cache : Entries) (p : Presentation) (code : PresentedCode)
    (cacheKey : Option String) (key : String) :
    (computeVerdict py env cache p code cacheKey).cacheUse ≠ .served key := by
  rw [computeVerdict]
  cases budgetedResult py env p code with
  | error exc => exact CacheUse.noConfusion
  | ok result =>
      dsimp only
      cases cacheKey.filter fun _ => result.stage ≠ "signed_schema" with
      | none => exact CacheUse.noConfusion
      | some stored =>
          dsimp only
          cases writeTtl py env p code result with
          | error exc => exact CacheUse.noConfusion
          | ok ttl =>
              dsimp only
              split
              · exact CacheUse.noConfusion
              · exact CacheUse.noConfusion

/-- The verdict within the budgets is the verdict of the pipeline. -/
theorem decided_of_budgetedResult {p : Presentation} {code : PresentedCode}
    {result : NarrowedVerificationResult} (h : budgetedResult py env p code = .ok result) :
    verifyPresentedCode py env.config env.policyFile code.envelope code.certificate code.trust
      (.utc p.now) = .ok result := by
  obtain ⟨-, -, h⟩ := Fallible.bind_eq_ok_iff.mp h
  obtain ⟨decided, hdecided, h⟩ := Fallible.bind_eq_ok_iff.mp h
  by_cases hstage : decided.stage ≠ "signed_schema"
  · rw [if_pos hstage] at h
    obtain ⟨allowed, -, h⟩ := Fallible.bind_eq_ok_iff.mp h
    obtain rfl := Except.ok.inj h
    exact hdecided
  · rw [if_neg hstage] at h
    obtain rfl := Except.ok.inj h
    exact hdecided

/-- What is known where a computed verdict is stored. -/
theorem computeVerdict_stored {cache : Entries} {p : Presentation} {code : PresentedCode}
    {cacheKey : Option String} {key : String}
    (h : (computeVerdict py env cache p code cacheKey).cacheUse = .stored key) :
    cacheKey = some key ∧ ∃ result ttl, verifyPresentedCode py env.config env.policyFile
        code.envelope code.certificate code.trust (.utc p.now) = .ok result
      ∧ writeTtl py env p code result = .ok ttl ∧ 0 < ttl
      ∧ (computeVerdict py env cache p code cacheKey).cache.get? key
        = some ⟨p.now + ttl * 1000000, responseOf result⟩ := by
  rw [computeVerdict] at h ⊢
  cases hbudgeted : budgetedResult py env p code with
  | error exc => rw [hbudgeted] at h; cases h
  | ok result =>
      rw [hbudgeted] at h
      dsimp only at h ⊢
      cases hkey : cacheKey.filter fun _ => result.stage ≠ "signed_schema" with
      | none => rw [hkey] at h; cases h
      | some stored =>
          rw [hkey] at h
          dsimp only at h ⊢
          cases httl : writeTtl py env p code result with
          | error exc => rw [httl] at h; cases h
          | ok ttl =>
              rw [httl] at h
              dsimp only at h ⊢
              split at h
              · rename_i hpositive
                obtain rfl := CacheUse.stored.inj h
                refine ⟨(Option.filter_eq_some_iff.mp hkey).1, result, ttl,
                  decided_of_budgetedResult py hbudgeted, httl, hpositive, ?_⟩
                rw [set, if_neg (not_le.mpr hpositive)]
                exact OrderedMap.get?_set_self _ _ _
              · cases h

theorem computeVerdict_none (cache : Entries) (p : Presentation) (code : PresentedCode) :
    (computeVerdict py env cache p code none).cacheUse = .unused := by
  rw [computeVerdict]
  cases budgetedResult py env p code <;> rfl

/-- A request that used the cache is one with a presented code and a lifetime. -/
theorem runNarrowedVerifier_used (cache : Entries) (p : Presentation)
    (h : (runNarrowedVerifier py dumpJson env cache p).cacheUse ≠ .unused) :
    ∃ code key, presentedCode py env.config p.request = .ok code
      ∧ key = verdictCacheKey py dumpJson env p.request (fingerprint py code)
      ∧ runNarrowedVerifier py dumpJson env cache p
        = match get cache key p.now with
          | (some response, cache) =>
              ⟨.ok { response with verdictSource := .cached }, cache, .served key⟩
          | (none, cache) => computeVerdict py env cache p code (some key) := by
  rw [runNarrowedVerifier] at h ⊢
  by_cases hstate : p.projectionState = .unavailable
  · rw [if_pos hstate] at h
    exact absurd rfl h
  · rw [if_neg hstate] at h ⊢
    cases hcode : presentedCode py env.config p.request with
    | error exc =>
        rw [hcode] at h
        exact absurd rfl h
    | ok code =>
        rw [hcode] at h
        dsimp only at h ⊢
        split at h
        · rename_i httl
          rw [if_pos httl]
          exact ⟨code, _, rfl, rfl, rfl⟩
        · exact absurd (computeVerdict_none py cache p code) h

/-- **SERVING**: a request served from the cache found a live entry under its key. -/
theorem exists_serving {cache : Entries} {p : Presentation} {key : String}
    (h : (runNarrowedVerifier py dumpJson env cache p).cacheUse = .served key) :
    ∃ code entry, Serving py dumpJson env cache p key code entry := by
  obtain ⟨code, key', hcode, hkey, hrun⟩ :=
    runNarrowedVerifier_used py cache p (by rw [h]; exact CacheUse.noConfusion)
  cases hget : get cache key' p.now with
  | mk found cache' =>
      rw [hget] at hrun
      cases found with
      | none =>
          rw [hrun] at h
          exact absurd h (computeVerdict_cacheUse_ne py cache' p code _ key)
      | some response =>
          obtain ⟨entry, hfound, hlive, rfl⟩ := get_some hget
          obtain rfl : key' = key := by
            rw [hrun] at h
            exact CacheUse.served.inj h
          exact ⟨code, entry, hcode, hkey, hfound, hlive, by rw [hrun]⟩

/-- **STORING**: a request whose verdict was stored had it decided by the pipeline,
    and the entry holds it for its lifetime. -/
theorem exists_storing {cache : Entries} {p : Presentation} {key : String}
    (h : (runNarrowedVerifier py dumpJson env cache p).cacheUse = .stored key) :
    ∃ code result ttl, Storing py dumpJson env cache p key code result ttl := by
  obtain ⟨code, key', hcode, hkey, hrun⟩ :=
    runNarrowedVerifier_used py cache p (by rw [h]; exact CacheUse.noConfusion)
  cases hget : get cache key' p.now with
  | mk found cache' =>
      rw [hget] at hrun
      cases found with
      | some response =>
          rw [hrun] at h
          cases h
      | none =>
          rw [hrun] at h
          obtain ⟨hsame, result, ttl, hresult, httl, hpositive, hentry⟩ :=
            computeVerdict_stored py h
          obtain rfl := Option.some.inj hsame
          exact ⟨code, result, ttl, hcode, hkey, hresult, httl, hpositive, by rw [hrun]; exact hentry⟩

/-! ## Equal keys -/

/-- Keys that are equal hash the same material, where a digest has 64 digits and
    the two materials do not collide. -/
theorem keyMaterial_of_key {request request' : NarrowedVerifierRequest}
    {fingerprint fingerprint' : String}
    (hdigest : ∀ text, (py.sha256 text).toList.length = 64)
    (hhash : requestHash py (keyMaterial dumpJson env request)
        = requestHash py (keyMaterial dumpJson env request')
      → keyMaterial dumpJson env request = keyMaterial dumpJson env request')
    (h : verdictCacheKey py dumpJson env request fingerprint
      = verdictCacheKey py dumpJson env request' fingerprint') :
    keyMaterial dumpJson env request = keyMaterial dumpJson env request' := by
  have hlength : ∀ text, (requestHash py text).toList.length = 32 := by
    intro text
    rw [requestHash, String.toList_ofList, List.length_take, hdigest]
    rfl
  have hlist := congrArg String.toList h
  simp only [verdictCacheKey, String.toList_append] at hlist
  have hequal := List.append_inj_right' hlist (by rw [hlength, hlength])
  exact hhash (String.toList_inj.mp hequal)

/-- Materials that are equal are of requests with the same JSON. -/
theorem dumpJson_of_keyMaterial {request request' : NarrowedVerifierRequest}
    (h : keyMaterial dumpJson env request = keyMaterial dumpJson env request') :
    dumpJson request = dumpJson request' := by
  exact String.append_left_inj _ |>.mp h

/-- A request stored under the key of another request is that request. -/
theorem request_of_key {cache : Entries} {p p' : Presentation} {key : String}
    {code' : PresentedCode} (hdigest : ∀ text, (py.sha256 text).toList.length = 64)
    (hdump : dumpJson p.request = dumpJson p'.request → p.request = p'.request)
    (hhash : requestHash py (keyMaterial dumpJson env p.request)
        = requestHash py (keyMaterial dumpJson env p'.request)
      → keyMaterial dumpJson env p.request = keyMaterial dumpJson env p'.request)
    (hstored : (runNarrowedVerifier py dumpJson env cache p).cacheUse = .stored key)
    (hkey : key = verdictCacheKey py dumpJson env p'.request (fingerprint py code')) :
    p.request = p'.request := by
  obtain ⟨code, result, ttl, hstoring⟩ := exists_storing py hstored
  have hmaterial := keyMaterial_of_key py hdigest hhash (hstoring.keyed.symm.trans hkey)
  exact hdump (dumpJson_of_keyMaterial hmaterial)

/-! ## Serving a stored verdict -/

/-- **SERVING A STORED VERDICT**: what is served is what the pipeline would return
    exactly when no boundary the stored verdict was read from has been reached
    since. -/
theorem served_iff_settled {cache cache' : Entries} {p p' : Presentation} {key : String}
    {response : NarrowedVerifierResponse}
    (hdigest : ∀ text, (py.sha256 text).toList.length = 64)
    (hdump : dumpJson p.request = dumpJson p'.request → p.request = p'.request)
    (hhash : requestHash py (keyMaterial dumpJson env p.request)
        = requestHash py (keyMaterial dumpJson env p'.request)
      → keyMaterial dumpJson env p.request = keyMaterial dumpJson env p'.request)
    (hstored : (runNarrowedVerifier py dumpJson env cache p).cacheUse = .stored key)
    (hserved : (runNarrowedVerifier py dumpJson env cache' p').cacheUse = .served key)
    (hkept : cache'.get? key = (runNarrowedVerifier py dumpJson env cache p).cache.get? key)
    (hclock : p.now ≤ p'.now)
    (hanswer : (runNarrowedVerifier py dumpJson env cache' p').answer = .ok response) :
    (uncached py env p'.request p'.now).map NarrowedVerificationResult.verdict
        = .ok response.verdict
      ↔ (requestTimeline py env p'.request).Settled p.now p'.now := by
  obtain ⟨code, result, ttl, hstoring⟩ := exists_storing py hstored
  obtain ⟨code', entry, hserving⟩ := exists_serving py hserved
  have hrequest : p.request = p'.request :=
    request_of_key py hdigest hdump hhash hstored hserving.keyed
  -- the entry served is the entry stored
  have hentry : entry = ⟨p.now + ttl * 1000000, responseOf result⟩ :=
    Option.some.inj (hserving.found.symm.trans (hkept.trans hstoring.entry))
  have hverdict : response.verdict = result.verdict := by
    obtain rfl := Except.ok.inj (hanswer.symm.trans hserving.answer)
    rw [hentry]
    rfl
  have hstart : (requestTimeline py env p'.request).value p.now = .ok response.verdict := by
    rw [hverdict, ← hrequest, ← uncached_verdict, uncached, hstoring.presented]
    show Except.map _ (verifyPresentedCode _ _ _ _ _ _ _) = _
    rw [hstoring.decided]
    rfl
  rw [uncached_verdict, ← hstart]
  exact value_eq_iff_settled (distinct_requestTimeline py env p'.request) hclock

/-! ## A code scanned twice -/

/-- A runtime that knows two timestamps and one URL. -/
def sampleRuntime : PyRuntime where
  lower := fun text => text
  repr := fun text => text
  reprList := fun _ => ""
  encodeIdna := .ok
  urlsplit := fun _ => .error ""
  urlparse := fun url =>
    if url = "https://acme.example/pay" then
      .ok ⟨"https", none, none, some "acme.example", .ok none, "/pay", ""⟩
    else .error ""
  isDigit := fun _ => false
  parseQsl := fun _ => []
  fromisoformat := fun text =>
    if text = "2026-01-01T00:00:00+00:00" then some (.utc 63902822400000000)
    else if text = "2026-01-01T00:00:10+00:00" then some (.utc 63902822410000000)
    else none
  loadsPemPublicKey := fun _ => true
  verifiesRsaPss := fun _ _ _ => true
  sha256 := fun _ => String.ofList (List.replicate 64 '0')

/-- A request for a code of an issuer whose record is in force from the given time. -/
def sampleRequest (issuerRecordIssuedAt : Option String) : NarrowedVerifierRequest where
  envelope :=
    { claims :=
        { version := "2"
          certificateRef := "cert:acme"
          issuedAt := "2026-01-01T00:00:00Z"
          expiresAt := none
          payload := "https://acme.example/pay" }
      signature := "signature"
      codeAlgorithmId := none }
  certificate := ⟨"cert:acme", "Acme", "rsa-pss-sha256-v1", some "pem"⟩
  issuerState :=
    { verifiedDomains := .ofList [("acme.example", none)]
      allowSubdomains := false
      certificateActive := true
      certificateRevoked := false
      certificateRevocationReason := none
      issuerStatus := none
      issuerRecordIssuedAt := issuerRecordIssuedAt
      issuerRecordExpiresAt := none
      keyState := none
      keyNotBefore := none
      keyNotAfter := none
      keyRevocationReason := none }

/-- The settings of a deployment, without a policy file. -/
def sampleSurroundings : Surroundings := ⟨⟨"", 300, 30⟩, none, none⟩

/-- The request, a number of seconds into the year 2026. -/
def samplePresentation (issuerRecordIssuedAt : Option String) (seconds : Int) : Presentation :=
  ⟨sampleRequest issuerRecordIssuedAt, 63902822400000000 + seconds * 1000000, .fresh, true, true⟩

/-- The key of every request of the sample. -/
def sampleKey : String := "0000000000000000:00000000000000000000000000000000"

/-- What the endpoint does with a request of the sample. -/
def sampleRun (cache : Entries) (p : Presentation) : Handled :=
  runNarrowedVerifier sampleRuntime (fun _ => "") sampleSurroundings cache p

/-- What is done with a code that is scanned at five seconds and at twenty-five. -/
structure ScannedTwice (request : Option String) where
  first : Handled
  second : Handled
  isFirst : first = sampleRun .empty (samplePresentation request 5)
  isSecond : second = sampleRun first.cache (samplePresentation request 25)
  stored : first.cacheUse = .stored sampleKey
  served : second.cacheUse = .served sampleKey

/-- A code of an issuer whose record is in force. -/
def scannedInForce : {scans : ScannedTwice none // scans.second.answer.toOption = some
    { allowed := true
      stage := "accepted"
      reason := acceptedReason
      canonicalClaimsSha256 := some (String.ofList (List.replicate 64 '0'))
      matchedRule := some "acme.example"
      cause := none
      verdictSource := .cached }} :=
  ⟨⟨_, _, rfl, rfl, by decide +kernel, by decide +kernel⟩, by decide +kernel⟩

/-- Without a boundary in between, the second scan is served the verdict of the
    first, and it is the verdict of the pipeline. -/
theorem served_iff_settled_sample :
    (uncached sampleRuntime sampleSurroundings (sampleRequest none)
        (samplePresentation none 25).now).map NarrowedVerificationResult.verdict
      = .ok ⟨true, "accepted", none⟩ := by
  obtain ⟨⟨_, _, rfl, rfl, hstored, hserved⟩, hanswer⟩ := scannedInForce
  have hsettled : (requestTimeline sampleRuntime sampleSurroundings (sampleRequest none)).Settled
      (samplePresentation none 5).now (samplePresentation none 25).now := by decide +kernel
  exact (@served_iff_settled sampleRuntime (fun _ => "") sampleSurroundings .empty
    (sampleRun .empty (samplePresentation none 5)).cache (samplePresentation none 5)
    (samplePresentation none 25) sampleKey _ (fun _ => by simp [sampleRuntime]) (fun _ => rfl)
    (fun _ => rfl) hstored hserved rfl (by decide)
    (Fallible.toOption_eq_some_iff.mp hanswer)).mpr hsettled

/-- A code of an issuer whose record comes into force between the two scans. -/
def scannedBeforeInForce : {scans : ScannedTwice (some "2026-01-01T00:00:10Z") //
    scans.second.answer.toOption.map NarrowedVerifierResponse.verdict
        = some ⟨false, "issuer_status", some "record-not-yet-valid"⟩
      ∧ (uncached sampleRuntime sampleSurroundings (sampleRequest (some "2026-01-01T00:00:10Z"))
          (samplePresentation (some "2026-01-01T00:00:10Z") 25).now).toOption.map
            NarrowedVerificationResult.verdict
        = some ⟨true, "accepted", none⟩} :=
  ⟨⟨_, _, rfl, rfl, by decide +kernel, by decide +kernel⟩, by decide +kernel, by decide +kernel⟩

/-- **A RECORD COMES INTO FORCE**: the issuer record is in force ten seconds into
    the year.  Scanned at five the code is refused, and the refusal is served at
    twenty-five, where the pipeline accepts. -/
theorem served_after_record_in_force :
    let request := some "2026-01-01T00:00:10Z"
    let first := sampleRun .empty (samplePresentation request 5)
    let second := sampleRun first.cache (samplePresentation request 25)
    first.cacheUse = .stored sampleKey
      ∧ second.cacheUse = .served sampleKey
      ∧ second.answer.toOption.map NarrowedVerifierResponse.verdict
        = some ⟨false, "issuer_status", some "record-not-yet-valid"⟩
      ∧ (uncached sampleRuntime sampleSurroundings (sampleRequest request)
          (samplePresentation request 25).now).toOption.map NarrowedVerificationResult.verdict
        = some ⟨true, "accepted", none⟩ := by
  obtain ⟨⟨_, _, rfl, rfl, hstored, hserved⟩, hverdict, huncached⟩ := scannedBeforeInForce
  exact ⟨hstored, hserved, hverdict, huncached⟩

/-! ## Where an entry comes from -/

theorem get?_of_get {cache cache' : Entries} {key key' : String} {now : Int}
    {found : Option NarrowedVerifierResponse} {entry : CacheEntry}
    (h : get cache key' now = (found, cache')) (hentry : cache'.get? key = some entry) :
    cache.get? key = some entry := by
  rw [get] at h
  split at h
  · obtain ⟨-, rfl⟩ := Prod.mk.inj h
    exact hentry
  · split at h
    · obtain ⟨-, rfl⟩ := Prod.mk.inj h
      rw [OrderedMap.get?_eq_some_iff] at hentry ⊢
      exact ((OrderedMap.mem_erase _ _ _ _).mp hentry).1
    · obtain ⟨-, rfl⟩ := Prod.mk.inj h
      exact hentry

theorem get?_of_set {cache : Entries} {key key' : String} {payload : NarrowedVerifierResponse}
    {ttl now : Int} {entry : CacheEntry}
    (h : (set cache key' payload ttl now).get? key = some entry) :
    cache.get? key = some entry ∨ (key' = key ∧ 0 < ttl) := by
  rw [set] at h
  by_cases httl : ttl ≤ 0
  · rw [if_pos httl] at h
    exact .inl h
  · rw [if_neg httl] at h
    by_cases hkey : key' = key
    · exact .inr ⟨hkey, not_le.mp httl⟩
    · rw [OrderedMap.get?_set_ne _ _ (Ne.symm hkey)] at h
      exact .inl h

theorem get?_of_computeVerdict {cache : Entries} {p : Presentation} {code : PresentedCode}
    {cacheKey : Option String} {key : String} {entry : CacheEntry}
    (h : (computeVerdict py env cache p code cacheKey).cache.get? key = some entry) :
    cache.get? key = some entry
      ∨ (computeVerdict py env cache p code cacheKey).cacheUse = .stored key := by
  rw [computeVerdict] at h ⊢
  cases hbudgeted : budgetedResult py env p code with
  | error exc => rw [hbudgeted] at h; exact .inl h
  | ok result =>
      rw [hbudgeted] at h
      dsimp only at h ⊢
      cases hkey : cacheKey.filter fun _ => result.stage ≠ "signed_schema" with
      | none => rw [hkey] at h; exact .inl h
      | some stored =>
          rw [hkey] at h
          dsimp only at h ⊢
          cases httl : writeTtl py env p code result with
          | error exc => rw [httl] at h; exact .inl h
          | ok ttl =>
              rw [httl] at h
              rcases get?_of_set h with hold | ⟨rfl, hpositive⟩
              · exact .inl hold
              · exact .inr (if_pos hpositive)

/-- **STEP**: an entry of the cache after a request was there before, or is the one
    the request stored. -/
theorem get?_of_runNarrowedVerifier {cache : Entries} {p : Presentation} {key : String}
    {entry : CacheEntry}
    (h : (runNarrowedVerifier py dumpJson env cache p).cache.get? key = some entry) :
    cache.get? key = some entry
      ∨ (runNarrowedVerifier py dumpJson env cache p).cacheUse = .stored key := by
  rw [runNarrowedVerifier] at h ⊢
  by_cases hstate : p.projectionState = .unavailable
  · rw [if_pos hstate] at h
    exact .inl h
  · rw [if_neg hstate] at h ⊢
    cases hcode : presentedCode py env.config p.request with
    | error exc => rw [hcode] at h; exact .inl h
    | ok code =>
        rw [hcode] at h
        dsimp only at h ⊢
        split at h
        · rename_i httl
          rw [if_pos httl]
          cases hget : get cache (verdictCacheKey py dumpJson env p.request
              (fingerprint py code)) p.now with
          | mk found cache' =>
              rw [hget] at h
              cases found with
              | some response => exact .inl (get?_of_get hget h)
              | none =>
                  rcases get?_of_computeVerdict py h with hold | hstored
                  · exact .inl (get?_of_get hget hold)
                  · exact .inr hstored
        · rename_i httl
          rw [if_neg httl]
          exact get?_of_computeVerdict py h

end VerdictCache
