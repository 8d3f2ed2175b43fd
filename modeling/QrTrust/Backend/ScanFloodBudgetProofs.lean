import QrTrust.Backend.ClaimsTextProofs
import QrTrust.Backend.ScanFloodBudget
import QrTrust.Backend.VerdictCacheProofs

/-! # Who spends a budget

    Requests that share the key of a budget present the same claims and the same
    signature, but not the same algorithm hint, nor the same certificate: a
    request with another hint is refused at the signed-schema stage and has spent
    the budget of the envelope it copies (`envelopeBudget_kept`). -/

namespace ScanFloodBudget

open SignedSchema TrustStore TrustProjection PayloadRevalidation NarrowedVerifier
  ProjectionFreshness VerdictCache SlidingWindow Fallible

variable {py : PyRuntime} {dumpJson : NarrowedVerifierRequest → String} {env : Surroundings}
  {limits : Limits}

/-! ## Stages -/

/-- The rules of the trust store name stages of their own. -/
theorem stage_of_blocking {key : KeyEntry} {issuer : IssuerRecord} {result : TrustRuleResult}
    (h : evaluateBlockingStates key issuer = some result) : result.stage ≠ "signed_schema" := by
  rw [evaluateBlockingStates] at h
  cases hstatus : issuer.status with
  | active =>
      rw [hstatus] at h
      cases hstate : key.state with
      | active => rw [hstate] at h; cases h
      | retired => rw [hstate] at h; cases h
      | revoked =>
          rw [hstate] at h
          obtain rfl := Option.some.inj h
          exact (by decide : "key_status" ≠ "signed_schema")
      | suspended =>
          rw [hstate] at h
          obtain rfl := Option.some.inj h
          exact (by decide : "key_status" ≠ "signed_schema")
  | suspended => rw [hstatus] at h; obtain rfl := Option.some.inj h; decide
  | revoked => rw [hstatus] at h; obtain rfl := Option.some.inj h; decide
  | expired => rw [hstatus] at h; obtain rfl := Option.some.inj h; decide

theorem stage_of_timeWindows {now : Datetime} {claims : SignedQRCodeClaims} {key : KeyEntry}
    {issuer : IssuerRecord} {skewSeconds : Int} {result : TrustRuleResult}
    (h : evaluateTimeWindows py now claims key issuer skewSeconds = .ok result) :
    result.stage ≠ "signed_schema" := by
  obtain ⟨early, -, h⟩ := bind_eq_ok_iff.mp h
  cases early with
  | true => obtain rfl := Except.ok.inj h; exact (by decide : "issuer_status" ≠ "signed_schema")
  | false =>
      obtain ⟨expired, -, h⟩ := bind_eq_ok_iff.mp h
      cases expired with
      | true =>
          obtain rfl := Except.ok.inj h
          exact (by decide : "issuer_status" ≠ "signed_schema")
      | false =>
          obtain ⟨issuedAt, -, h⟩ := bind_eq_ok_iff.mp h
          obtain ⟨outside, -, h⟩ := bind_eq_ok_iff.mp h
          cases outside with
          | true =>
              obtain rfl := Except.ok.inj h
              exact (by decide : "key_status" ≠ "signed_schema")
          | false =>
              obtain ⟨start, -, h⟩ := bind_eq_ok_iff.mp h
              obtain ⟨early, -, h⟩ := bind_eq_ok_iff.mp h
              cases early with
              | true =>
                  obtain rfl := Except.ok.inj h
                  exact (by decide : "time_window" ≠ "signed_schema")
              | false =>
                  obtain ⟨expired, -, h⟩ := bind_eq_ok_iff.mp h
                  cases expired with
                  | true =>
                      obtain rfl := Except.ok.inj h
                      exact (by decide : "time_window" ≠ "signed_schema")
                  | false =>
                      obtain rfl := Except.ok.inj h
                      exact (by decide : "accepted" ≠ "signed_schema")

theorem stage_of_verifyInForce {policyFile : Option PolicyFile} {claims : SignedQRCodeClaims}
    {trust : TrustContext} {now : Datetime} {result : NarrowedVerificationResult}
    (h : verifyInForce py policyFile claims trust now = .ok result) :
    result.stage ≠ "signed_schema" := by
  obtain ⟨timeResult, htime, h⟩ := bind_eq_ok_iff.mp h
  split at h
  · obtain ⟨decision, -, h⟩ := bind_eq_ok_iff.mp h
    obtain rfl := Except.ok.inj h
    show (if decision.allowed then "accepted" else "payload_revalidation") ≠ "signed_schema"
    split
    · decide
    · decide
  · obtain rfl := Except.ok.inj h
    exact stage_of_timeWindows htime

/-- The code is stopped before its signature is looked at. -/
def Blocked (code : PresentedCode) : Prop :=
  evaluateBlockingStates code.trust.key code.trust.issuer ≠ none
    ∨ code.trust.key.publicKeyPem = none

/-- A code that nothing stops before gets a decision of the schema stage, but for an
    exception. -/
theorem exists_schemaDecision {config : BackendConfig} {policyFile : Option PolicyFile}
    {code : PresentedCode} {now : Datetime} {result : NarrowedVerificationResult}
    (h : verifyPresentedCode py config policyFile code.envelope code.certificate code.trust now
      = .ok result) (hopen : ¬ Blocked code) :
    ∃ decision, verifySignedEnvelope py config code.envelope code.certificate = .ok decision := by
  rw [verifyPresentedCode] at h
  have hblocking : evaluateBlockingStates code.trust.key code.trust.issuer = none := by
    by_contra hblocked
    exact hopen (.inl hblocked)
  have hpem : ¬ code.trust.key.publicKeyPem = none := fun hnone => hopen (.inr hnone)
  rw [hblocking] at h
  dsimp only at h
  rw [if_neg hpem] at h
  cases hverify : verifySignedEnvelope py config code.envelope code.certificate with
  | error exc => rw [hverify] at h; cases h
  | ok decision => exact ⟨decision, rfl⟩

/-- **SCHEMA STAGE**: a code is refused there exactly where nothing stops it before
    and its envelope does not verify. -/
theorem verifyPresentedCode_signedSchema_iff {config : BackendConfig}
    {policyFile : Option PolicyFile} {code : PresentedCode} {now : Datetime}
    {result : NarrowedVerificationResult}
    (h : verifyPresentedCode py config policyFile code.envelope code.certificate code.trust now
      = .ok result) :
    result.stage = "signed_schema"
      ↔ ¬ Blocked code ∧ ∃ decision, verifySignedEnvelope py config code.envelope code.certificate
          = .ok decision ∧ decision.allowed = false := by
  rw [verifyPresentedCode] at h
  cases hblocking : evaluateBlockingStates code.trust.key code.trust.issuer with
  | some blocking =>
      rw [hblocking] at h
      obtain rfl := Except.ok.inj h
      constructor
      · intro hstage
        exact absurd hstage (stage_of_blocking hblocking)
      · rintro ⟨hopen, -⟩
        exact absurd (.inl (by rw [hblocking]; exact Option.some_ne_none _)) hopen
  | none =>
      rw [hblocking] at h
      dsimp only at h
      by_cases hpem : code.trust.key.publicKeyPem = none
      · rw [if_pos hpem] at h
        obtain rfl := Except.ok.inj h
        constructor
        · intro hstage
          exact absurd hstage (by decide : "key_status" ≠ "signed_schema")
        · rintro ⟨hopen, -⟩
          exact absurd (.inr hpem) hopen
      · rw [if_neg hpem] at h
        have hopen : ¬ Blocked code := by
          rintro (hblocked | hnone)
          · exact hblocked hblocking
          · exact hpem hnone
        cases hverify : verifySignedEnvelope py config code.envelope code.certificate with
        | error exc => rw [hverify] at h; cases h
        | ok decision =>
            rw [hverify] at h
            dsimp only at h
            by_cases hallowed : decision.allowed = true
            · rw [if_pos hallowed] at h
              constructor
              · intro hstage
                exact absurd hstage (stage_of_verifyInForce h)
              · rintro ⟨-, decision', hsame, hrefused⟩
                obtain rfl := Except.ok.inj hsame
                rw [hallowed] at hrefused
                cases hrefused
            · rw [if_neg hallowed] at h
              obtain rfl := Except.ok.inj h
              exact ⟨fun _ => ⟨hopen, decision, rfl, Bool.eq_false_iff.mpr hallowed⟩, fun _ => rfl⟩

/-- **SCHEMA**: an envelope verifies where the certificate has the supported
    algorithm and the reference of the claims, the hint does not conflict, and
    the signature is one of its key. -/
theorem verifySignedEnvelope_allowed_iff {config : BackendConfig}
    {envelope : SignedQRCodeEnvelope} {certificate : CertificateAuthorityRecord} :
    (∃ decision, verifySignedEnvelope py config envelope certificate = .ok decision
        ∧ decision.allowed = true)
      ↔ certificate.algorithmId = supportedAlgorithmId
        ∧ envelope.claims.certificateRef = certificate.certificateRef
        ∧ (∀ hint, envelope.codeAlgorithmId = some hint → hint = certificate.algorithmId)
        ∧ verifySignature py config (canonicalizeClaims envelope.claims) envelope.signature
            certificate.publicKeyPem = .ok true := by
  have hhints : envelope.codeAlgorithmId.any (· ≠ certificate.algorithmId) = true
      ↔ ¬ ∀ hint, envelope.codeAlgorithmId = some hint → hint = certificate.algorithmId := by
    cases envelope.codeAlgorithmId with
    | none => simp
    | some hint => simp
  rw [verifySignedEnvelope]
  dsimp only
  by_cases halgorithm : certificate.algorithmId ≠ supportedAlgorithmId
  · rw [if_pos halgorithm]
    simp [halgorithm]
  · rw [if_neg halgorithm]
    by_cases href : envelope.claims.certificateRef ≠ certificate.certificateRef
    · rw [if_pos href]
      simp [href]
    · rw [if_neg href]
      by_cases hhint : envelope.codeAlgorithmId.any (· ≠ certificate.algorithmId) = true
      · rw [if_pos hhint]
        constructor
        · rintro ⟨decision, h, hallowed⟩
          obtain rfl := Except.ok.inj h
          cases hallowed
        · rintro ⟨-, -, hagrees, -⟩
          exact absurd hagrees (hhints.mp hhint)
      · rw [if_neg hhint]
        have hagrees := not_not.mp (fun h => hhint (hhints.mpr h))
        constructor
        · rintro ⟨decision, h, hallowed⟩
          obtain ⟨valid, hvalid, h⟩ := bind_eq_ok_iff.mp h
          obtain rfl := Except.ok.inj h
          exact ⟨not_not.mp halgorithm, not_not.mp href, hagrees,
            hvalid.trans (congrArg Except.ok hallowed)⟩
        · rintro ⟨-, -, -, hvalid⟩
          rw [hvalid]
          exact ⟨_, rfl, rfl⟩

/-! ## One request -/

/-- What a decision within the budgets goes through. -/
inductive Decided (py : PyRuntime) (env : Surroundings) (limits : Limits) (state : ScanState)
    (s : Scan) (code : PresentedCode) (cacheKey : Option String) : Scanned → Prop
  /-- The budget of the envelope is spent. -/
  | envelopeRefused (hcheck : (checkEnvelope py limits state.records s code).1 = false) :
      Decided py env limits state s code cacheKey
        ⟨.error (.httpException 429 "Rate limit exceeded for this QR code"),
          { state with records := (checkEnvelope py limits state.records s code).2 }⟩
  | raised {exc : PyError} (hcheck : (checkEnvelope py limits state.records s code).1 = true)
      (hverify : verifyPresentedCode py env.config env.policyFile code.envelope code.certificate
        code.trust (.utc s.now) = .error exc) :
      Decided py env limits state s code cacheKey
        ⟨.error exc, { state with records := (checkEnvelope py limits state.records s code).2 }⟩
  | schemaRefused {result : NarrowedVerificationResult}
      (hcheck : (checkEnvelope py limits state.records s code).1 = true)
      (hverify : verifyPresentedCode py env.config env.policyFile code.envelope code.certificate
        code.trust (.utc s.now) = .ok result)
      (hstage : result.stage = "signed_schema") :
      Decided py env limits state s code cacheKey
        ⟨.ok (responseOf result),
          { state with records := (checkEnvelope py limits state.records s code).2 }⟩
  /-- The budget of the issuer is spent. -/
  | issuerRefused {result : NarrowedVerificationResult} {records : Records String}
      (hcheck : checkEnvelope py limits state.records s code = (true, records))
      (hverify : verifyPresentedCode py env.config env.policyFile code.envelope code.certificate
        code.trust (.utc s.now) = .ok result)
      (hstage : result.stage ≠ "signed_schema")
      (hissuer : (checkIssuer py limits records s code).1 = false) :
      Decided py env limits state s code cacheKey
        ⟨.error (.httpException 429 "Rate limit exceeded for this issuer"),
          { state with records := (checkIssuer py limits records s code).2 }⟩
  | within {result : NarrowedVerificationResult} {records : Records String}
      (hcheck : checkEnvelope py limits state.records s code = (true, records))
      (hverify : verifyPresentedCode py env.config env.policyFile code.envelope code.certificate
        code.trust (.utc s.now) = .ok result)
      (hstage : result.stage ≠ "signed_schema")
      (hissuer : (checkIssuer py limits records s code).1 = true) :
      Decided py env limits state s code cacheKey
        (storeVerdict py env { state with records := (checkIssuer py limits records s code).2 } s
          code cacheKey result)

theorem decided (state : ScanState) (s : Scan) (code : PresentedCode) (cacheKey : Option String) :
    Decided py env limits state s code cacheKey
      (decideWithinBudgets py env limits state s code cacheKey) := by
  rw [decideWithinBudgets]
  cases hcheck : checkEnvelope py limits state.records s code with
  | mk allowed records =>
      have hfirst : (checkEnvelope py limits state.records s code).1 = allowed := by rw [hcheck]
      have hsecond : (checkEnvelope py limits state.records s code).2 = records := by rw [hcheck]
      cases allowed with
      | false => exact hsecond ▸ .envelopeRefused hfirst
      | true =>
          simp only [Bool.not_true, Bool.false_eq_true, if_false]
          cases hverify : verifyPresentedCode py env.config env.policyFile code.envelope
              code.certificate code.trust (.utc s.now) with
          | error exc => exact hsecond ▸ .raised hfirst hverify
          | ok result =>
              dsimp only
              by_cases hstage : result.stage = "signed_schema"
              · rw [if_pos hstage]
                exact hsecond ▸ .schemaRefused hfirst hverify hstage
              · rw [if_neg hstage]
                cases hissuer : (checkIssuer py limits records s code).1 with
                | false => exact .issuerRefused hcheck hverify hstage hissuer
                | true => exact .within hcheck hverify hstage hissuer

/-- The cache has lost entries at most. -/
def OnlyDropped (old new : Entries) : Prop :=
  ∀ key entry, new.get? key = some entry → old.get? key = some entry

/-- **ONE REQUEST**: it leaves the budgets alone and drops an entry at most, or it
    is decided within them. -/
theorem scan_cases (state : ScanState) (s : Scan) :
    ((scan py dumpJson env limits state s).state.records = state.records
        ∧ OnlyDropped state.cache (scan py dumpJson env limits state s).state.cache)
      ∨ ∃ code cacheKey cache, presentedCode py env.config s.request = .ok code
        ∧ OnlyDropped state.cache cache
        ∧ Decided py env limits { state with cache := cache } s code cacheKey
            (scan py dumpJson env limits state s) := by
  have hsame : OnlyDropped state.cache state.cache := fun _ _ h => h
  rw [scan]
  by_cases hunavailable : s.projectionState = .unavailable
  · rw [if_pos hunavailable]
    exact .inl ⟨rfl, hsame⟩
  · rw [if_neg hunavailable]
    cases hcode : presentedCode py env.config s.request with
    | error exc => exact .inl ⟨rfl, hsame⟩
    | ok code =>
        dsimp only
        split
        · cases hget : get state.cache
              (verdictCacheKey py dumpJson env s.request (fingerprint py code)) s.now with
          | mk found cache =>
              have hdropped : OnlyDropped state.cache cache := fun _ _ h => get?_of_get hget h
              cases found with
              | some response => exact .inl ⟨rfl, hdropped⟩
              | none => exact .inr ⟨code, _, cache, rfl, hdropped, decided _ s code _⟩
        · exact .inr ⟨code, none, state.cache, rfl, hsame, decided state s code none⟩

/-! ## The budget of an envelope -/

/-- The key of the budget that a code charges. -/
def envelopeBudgetKey (py : PyRuntime) (envelope : SignedQRCodeEnvelope) : String :=
  scanFloodBudgetKey "envelope"
    (envelopeFingerprint py (computeEnvelopeId py envelope.claims envelope.signature))

/-- What the key of a budget is taken of. -/
def materialOf (envelope : SignedQRCodeEnvelope) : String :=
  envelopeMaterial envelope.claims envelope.signature

/-- The request presents a code that shares the budget of the envelope. -/
structure SharesBudget (py : PyRuntime) (env : Surroundings) (envelope : SignedQRCodeEnvelope)
    (s : Scan) (code : PresentedCode) : Prop where
  presented : presentedCode py env.config s.request = .ok code
  shares : envelopeKey py code = envelopeBudgetKey py envelope

/-- The code presents the envelope as it verifies: without an algorithm hint or
    with that of its certificate, under a certificate with the supported
    algorithm, the reference of the claims and a key of the signature. -/
structure PresentedAsIssued (py : PyRuntime) (config : BackendConfig)
    (envelope : SignedQRCodeEnvelope) (code : PresentedCode) : Prop where
  hint : ∀ hint, code.envelope.codeAlgorithmId = some hint → hint = code.certificate.algorithmId
  algorithm : code.certificate.algorithmId = supportedAlgorithmId
  reference : envelope.claims.certificateRef = code.certificate.certificateRef
  signature : verifySignature py config (canonicalizeClaims envelope.claims) envelope.signature
    code.certificate.publicKeyPem = .ok true

/-- The request was refused at the signed-schema stage. -/
def SchemaRefused (scanned : Scanned) : Prop :=
  ∃ response, scanned.answer = .ok response ∧ response.stage = "signed_schema"

/-- **ALIKE**: with the same material, a code is refused at the schema stage exactly
    where nothing stops it before and the envelope is not presented as it
    verifies; but for an exception. -/
theorem signedSchema_iff_of_material {config : BackendConfig} {policyFile : Option PolicyFile}
    {envelope : SignedQRCodeEnvelope} {code : PresentedCode} {now : Datetime}
    {result : NarrowedVerificationResult} (hmaterial : materialOf code.envelope = materialOf envelope)
    (h : verifyPresentedCode py config policyFile code.envelope code.certificate code.trust now
      = .ok result) :
    result.stage = "signed_schema"
      ↔ ¬ Blocked code ∧ ¬ PresentedAsIssued py config envelope code := by
  obtain ⟨hclaims, hsignature⟩ := envelopeMaterial_injective hmaterial
  have hverified : PresentedAsIssued py config envelope code ↔
      ∃ decision, verifySignedEnvelope py config code.envelope code.certificate = .ok decision
        ∧ decision.allowed = true := by
    rw [verifySignedEnvelope_allowed_iff, hclaims, hsignature]
    exact ⟨fun h => ⟨h.algorithm, h.reference, h.hint, h.signature⟩,
      fun h => ⟨h.2.2.1, h.1, h.2.1, h.2.2.2⟩⟩
  rw [verifyPresentedCode_signedSchema_iff h, hverified]
  constructor
  · rintro ⟨hopen, decision, hdecision, hrefused⟩
    refine ⟨hopen, ?_⟩
    rintro ⟨decision', hdecision', hallowed⟩
    obtain rfl := Except.ok.inj (hdecision.symm.trans hdecision')
    rw [hrefused] at hallowed
    cases hallowed
  · rintro ⟨hopen, hunverified⟩
    refine ⟨hopen, ?_⟩
    obtain ⟨decision, hdecision⟩ := exists_schemaDecision h hopen
    refine ⟨decision, hdecision, Bool.eq_false_iff.mpr fun hallowed => ?_⟩
    exact hunverified ⟨decision, hdecision, hallowed⟩

theorem envelopeKey_ne_issuerKey (fingerprint subject : String) :
    scanFloodBudgetKey "envelope" fingerprint ≠ scanFloodBudgetKey "issuer" subject := by
  intro h
  have hlist := congrArg String.toList h
  simp only [scanFloodBudgetKey, String.toList_append, List.append_assoc] at hlist
  exact absurd (List.cons.inj hlist).1 (by decide)

/-- **SCHEMA REFUSAL**: a request that is refused at the schema stage has spent
    nothing, or the budget of its own envelope. -/
theorem schemaRefused_cases {state : ScanState} {s : Scan}
    (h : SchemaRefused (scan py dumpJson env limits state s)) :
    (scan py dumpJson env limits state s).state.records = state.records
      ∨ ∃ code result, presentedCode py env.config s.request = .ok code
        ∧ verifyPresentedCode py env.config env.policyFile code.envelope code.certificate code.trust
            (.utc s.now) = .ok result
        ∧ result.stage = "signed_schema"
        ∧ (checkEnvelope py limits state.records s code).1 = true
        ∧ (scan py dumpJson env limits state s).state.records
          = (checkEnvelope py limits state.records s code).2 := by
  obtain ⟨response, hanswer, hstage⟩ := h
  rcases @scan_cases py dumpJson env limits state s with
    ⟨hrecords, -⟩ | ⟨code, cacheKey, cache, hcode, -, hdecided⟩
  · exact .inl hrecords
  · refine .inr ?_
    generalize scan py dumpJson env limits state s = scanned at hanswer hdecided ⊢
    cases hdecided with
    | envelopeRefused hcheck => cases hanswer
    | raised hcheck hverify => cases hanswer
    | schemaRefused hcheck hverify hrefused => exact ⟨code, _, hcode, hverify, hrefused, hcheck, rfl⟩
    | issuerRefused hcheck hverify hpassed hissuer => cases hanswer
    | @within result records hcheck hverify hpassed hissuer =>
        rw [storeVerdict.eq_def] at hanswer
        split at hanswer
        · obtain rfl := Except.ok.inj hanswer
          exact absurd hstage hpassed
        · split at hanswer
          · cases hanswer
          · obtain rfl := Except.ok.inj hanswer
            exact absurd hstage hpassed

/-- No request that is refused at the schema stage leaves less of the budget of the
    envelope, then or later. -/
def KeepsEnvelopeBudget (py : PyRuntime) (dumpJson : NarrowedVerifierRequest → String)
    (env : Surroundings) (limits : Limits) (envelope : SignedQRCodeEnvelope) (state : ScanState)
    (requests : List Scan) : Prop :=
  ∀ before s after, requests = before ++ s :: after →
    SchemaRefused (scan py dumpJson env limits (scans py dumpJson env limits state before) s) →
      ∀ later, s.envelopeClock ≤ later →
        remaining (scan py dumpJson env limits (scans py dumpJson env limits state before) s).state.records
            (envelopeBudgetKey py envelope) limits.envelopeMaxRequests limits.window later
          = remaining (scans py dumpJson env limits state before).records
              (envelopeBudgetKey py envelope) limits.envelopeMaxRequests limits.window later

/-- **ENVELOPE BUDGET**: requests that share the budget of an envelope present its
    claims and its signature, where no two materials of the run collide; so in
    every run in which they present it as it verifies, or are stopped before their
    signature is looked at, none that is refused at the schema stage spends it. -/
theorem envelopeBudget_kept {envelope : SignedQRCodeEnvelope} {state : ScanState}
    {requests : List Scan}
    (hhash : ∀ s ∈ requests, ∀ code, SharesBudget py env envelope s code →
      materialOf code.envelope = materialOf envelope)
    (hpresented : ∀ s ∈ requests, ∀ code, SharesBudget py env envelope s code →
      Blocked code ∨ PresentedAsIssued py env.config envelope code) :
    KeepsEnvelopeBudget py dumpJson env limits envelope state requests := by
  rintro before s after rfl hrefused later hlater
  have hmem : s ∈ before ++ s :: after := List.mem_append_right _ (List.mem_cons_self ..)
  rcases schemaRefused_cases hrefused with
    hrecords | ⟨code, result, hcode, hverify, hstage, -, hrecords⟩
  · rw [hrecords]
  · rw [hrecords, remaining, remaining]
    by_cases hkey : envelopeKey py code = envelopeBudgetKey py envelope
    · -- a request that shares the budget is not refused at all
      have hshares : SharesBudget py env envelope s code := ⟨hcode, hkey⟩
      obtain ⟨hopen, hother⟩ :=
        (signedSchema_iff_of_material (hhash s hmem code hshares) hverify).mp hstage
      rcases hpresented s hmem code hshares with hblocked | hissued
      · exact absurd hblocked hopen
      · exact absurd hissued hother
    · rw [checkEnvelope, used_check_of_ne _ (Ne.symm hkey)]

/-! ## Envelopes told apart -/

/-- The codes present one envelope: the same claims under the same signature. -/
def SameEnvelope (code code' : PresentedCode) : Prop :=
  code.envelope.claims = code'.envelope.claims ∧ code.envelope.signature = code'.envelope.signature

/-- The hash does not collide on two materials, as far as the keys read its digest;
    and a digest has sixty-four characters. -/
structure CollisionFree (py : PyRuntime) (material material' : String) : Prop where
  digest : ∀ text, (py.sha256 text).length = 64
  apart : envelopeFingerprint py (py.sha256 material) = envelopeFingerprint py (py.sha256 material') →
    material = material'

theorem materialOf_eq_iff {envelope envelope' : SignedQRCodeEnvelope} :
    materialOf envelope = materialOf envelope'
      ↔ envelope.claims = envelope'.claims ∧ envelope.signature = envelope'.signature := by
  constructor
  · exact envelopeMaterial_injective
  · rintro ⟨hclaims, hsignature⟩
    rw [materialOf, materialOf, hclaims, hsignature]

/-- The budget of an envelope is named by the fingerprint. -/
theorem fingerprint_of_envelopeKey {code code' : PresentedCode}
    (h : envelopeKey py code = envelopeKey py code') :
    fingerprint py code = fingerprint py code' := by
  have hlist := congrArg String.toList h
  simp only [envelopeKey, scanFloodBudgetKey, String.toList_append] at hlist
  exact String.toList_inj.mp (List.append_cancel_left hlist)

theorem length_requestHash (hdigest : ∀ text, (py.sha256 text).length = 64) (material : String) :
    (requestHash py material).toList.length = 32 := by
  rw [requestHash, String.toList_ofList, List.length_take, String.length_toList, hdigest]
  rfl

/-- A key of the cache starts with the fingerprint; what follows it has one length. -/
theorem fingerprint_of_verdictCacheKey (hdigest : ∀ text, (py.sha256 text).length = 64)
    {dumpJson dumpJson' : NarrowedVerifierRequest → String} {env env' : Surroundings}
    {request request' : NarrowedVerifierRequest} {first second : String}
    (h : verdictCacheKey py dumpJson env request first
      = verdictCacheKey py dumpJson' env' request' second) : first = second := by
  have hlist := congrArg String.toList h
  simp only [verdictCacheKey, String.toList_append] at hlist
  have hhash := List.append_inj_left' hlist
    ((length_requestHash hdigest _).trans (length_requestHash hdigest _).symm)
  exact String.toList_inj.mp (List.append_cancel_right hhash)

/-- **IDENTITY**: what an envelope id is taken of is the same exactly for the same
    claims and signature; so where the hash does not collide on two different
    envelopes, they share no budget and, whatever the requests, no key of the
    cache. -/
theorem envelopes_told_apart (code code' : PresentedCode) :
    (materialOf code.envelope = materialOf code'.envelope ↔ SameEnvelope code code')
      ∧ (CollisionFree py (materialOf code.envelope) (materialOf code'.envelope) →
        ¬ SameEnvelope code code' →
          computeEnvelopeId py code.envelope.claims code.envelope.signature
              ≠ computeEnvelopeId py code'.envelope.claims code'.envelope.signature
            ∧ envelopeKey py code ≠ envelopeKey py code'
            ∧ ∀ dumpJson env env' request request',
              verdictCacheKey py dumpJson env request (fingerprint py code)
                ≠ verdictCacheKey py dumpJson env' request' (fingerprint py code')) := by
  refine ⟨materialOf_eq_iff, fun hfree hother => ?_⟩
  -- each key determines the fingerprint, and the fingerprint the material
  have hfingerprint : fingerprint py code ≠ fingerprint py code' := fun h =>
    hother (materialOf_eq_iff.mp (hfree.apart h))
  refine ⟨fun h => ?_, fun h => ?_, fun _ _ _ _ _ h => ?_⟩
  · exact hfingerprint (congrArg (envelopeFingerprint py) h)
  · exact hfingerprint (fingerprint_of_envelopeKey h)
  · exact hfingerprint (fingerprint_of_verdictCacheKey hfree.digest h)

/-! ## A copied code -/

/-- A runtime that tells codes apart by their length, and verifies the signature of
    one. -/
def scanRuntime : PyRuntime :=
  { VerdictCache.sampleRuntime with
    sha256 := fun text => if text.utf8ByteSize % 2 = 0 then "even" else "odd"
    verifiesRsaPss := fun _ signature _ => signature = "signature" }

/-- A request for the code, with the hint and the signature given. -/
def copiedRequest (hint : Option String) (signature : String) : NarrowedVerifierRequest :=
  let request := sampleRequest none
  { request with
    envelope := { request.envelope with signature := signature, codeAlgorithmId := hint } }

/-- It reaches the endpoint five seconds into the year 2026. -/
def copiedScan (hint : Option String) (signature : String) : Scan :=
  ⟨copiedRequest hint signature, .fresh, 63902822405000000, 0, 0⟩

/-- The genuine code. -/
def genuineEnvelope : SignedQRCodeEnvelope where
  claims := ⟨"2", "cert:acme", "2026-01-01T00:00:00Z", none, "https://acme.example/pay"⟩
  signature := "signature"
  codeAlgorithmId := none

/-- Three hundred requests for a code, and three thousand for an issuer, in a
    minute. -/
def sampleLimits : Limits := ⟨300, 3000, 60⟩

/-- Nothing is spent and nothing is stored. -/
def untouched : ScanState := ⟨.empty, .empty⟩

/-- The code that a request of the sample presents. -/
theorem presented_copied (hint : Option String) (signature : String)
    (h : (presentedCode scanRuntime sampleSurroundings.config
        (copiedRequest hint signature)).toOption.map
          (fun code => (code.envelope, code.certificate))
      = some (⟨genuineEnvelope.claims, signature, hint⟩,
        ⟨"cert:acme", "Acme", "rsa-pss-sha256-v1", some "pem"⟩))
    {code : PresentedCode}
    (hcode : presentedCode scanRuntime sampleSurroundings.config (copiedRequest hint signature)
      = .ok code) :
    code.envelope = ⟨genuineEnvelope.claims, signature, hint⟩
      ∧ code.certificate = ⟨"cert:acme", "Acme", "rsa-pss-sha256-v1", some "pem"⟩ := by
  rw [hcode] at h
  exact Prod.mk.inj (Option.some.inj h)

/-- The genuine claims under a forged signature, which have a budget of their own. -/
def forgedEnvelope : {envelope : SignedQRCodeEnvelope //
    envelope = ⟨genuineEnvelope.claims, "forged", none⟩
      ∧ envelopeBudgetKey scanRuntime envelope
        ≠ envelopeBudgetKey scanRuntime genuineEnvelope} :=
  ⟨_, rfl, by decide +kernel⟩

/-- A forged code spends a budget of its own: the genuine one keeps all of its. -/
theorem envelopeBudget_kept_forged :
    KeepsEnvelopeBudget scanRuntime (fun _ => "") sampleSurroundings sampleLimits genuineEnvelope
      untouched [copiedScan none "forged"] := by
  have hpresented : (presentedCode scanRuntime sampleSurroundings.config
      (copiedRequest none "forged")).toOption.map (fun code => (code.envelope, code.certificate))
      = some (⟨genuineEnvelope.claims, "forged", none⟩,
        ⟨"cert:acme", "Acme", "rsa-pss-sha256-v1", some "pem"⟩) := by
    decide +kernel
  have hapart : ∀ code, ¬ SharesBudget scanRuntime sampleSurroundings genuineEnvelope
      (copiedScan none "forged") code := by
    intro code hshares
    have henvelope := (presented_copied none "forged" hpresented hshares.presented).1
    have hkey := hshares.shares
    rw [envelopeKey, fingerprint, henvelope] at hkey
    obtain ⟨envelope, hforged, hne⟩ := forgedEnvelope
    rw [hforged] at hne
    exact hne hkey
  refine envelopeBudget_kept (fun s hs code hshares => ?_) (fun s hs code hshares => ?_)
  · obtain rfl := List.mem_singleton.mp hs
    exact absurd hshares (hapart code)
  · obtain rfl := List.mem_singleton.mp hs
    exact absurd hshares (hapart code)

/-- A runtime with digests of full length, by the last character of the text. -/
def digestRuntime : PyRuntime :=
  { scanRuntime with
    sha256 := fun text => String.ofList (List.replicate 64 (text.toList.getLast?.getD '0')) }

/-- A code with the signature, under the certificate of its issuer. -/
def signedCode (signature : String) : PresentedCode where
  envelope := { genuineEnvelope with signature := signature }
  certificate := ⟨"cert:acme", "Acme", "rsa-pss-sha256-v1", some "pem"⟩
  trust :=
    { key := ⟨"cert:acme", "acme", "rsa-pss-sha256-v1", some "pem", .active, .utc 0, none, none,
        none, .ephemeral⟩
      issuer := ⟨"acme", "Acme", "root", .active, .utc 0, none, .empty, false, .ephemeral⟩
      skewSeconds := 0 }

/-- The first sixteen of a character that is no space. -/
theorem fingerprint_replicate {c : Char} (h : PyString.isspace c = false) :
    envelopeFingerprint digestRuntime (String.ofList (List.replicate 64 c))
      = String.ofList (List.replicate 16 c) := by
  show String.ofList ((PyString.strip _).toList.take 16) = _
  have hstart : ∀ n, (List.replicate (n + 1) c).dropWhile PyString.isspace
      = List.replicate (n + 1) c := fun n => List.dropWhile_cons_of_neg (by rw [h]; decide)
  rw [PyString.strip, String.toList_ofList, String.toList_ofList, hstart 63, List.reverse_replicate,
    hstart 63, List.reverse_replicate, List.take_replicate]
  rfl

/-- Only the last character of the signature is in the fingerprint. -/
theorem fingerprint_materialOf {signature : String} {last : Char}
    (h : signature.toList.getLast? = some last) (hlast : PyString.isspace last = false) :
    envelopeFingerprint digestRuntime
        (digestRuntime.sha256 (materialOf (signedCode signature).envelope))
      = String.ofList (List.replicate 16 last) := by
  rw [← fingerprint_replicate hlast]
  show envelopeFingerprint digestRuntime (String.ofList (List.replicate 64
    (((envelopeMaterial genuineEnvelope.claims signature).toList.getLast?).getD '0'))) = _
  rw [envelopeMaterial, String.toList_append, List.getLast?_append, h]
  rfl

/-- The genuine code and the forged one share no budget. -/
theorem envelopes_told_apart_forged :
    envelopeKey digestRuntime (signedCode "signature")
      ≠ envelopeKey digestRuntime (signedCode "forged") := by
  refine ((envelopes_told_apart (signedCode "signature") (signedCode "forged")).2
    ⟨fun text => ?_, fun h => ?_⟩ ?_).2.1
  · show (String.ofList (List.replicate 64 _)).length = 64
    rw [String.length_ofList, List.length_replicate]
  · rw [@fingerprint_materialOf "signature" 'e' (by decide) (by decide),
      @fingerprint_materialOf "forged" 'd' (by decide) (by decide)] at h
    exact absurd (String.ofList_injective h) (by decide)
  · rintro ⟨-, hsignature⟩
    exact absurd hsignature (by decide)

/-- The scan of a copy with another hint, and what it leaves of the genuine budget. -/
def copiedScanHandled : {handled : Scanned // handled = scan scanRuntime (fun _ => "")
        sampleSurroundings sampleLimits untouched (copiedScan (some "rsa-pkcs1-v1_5") "signature")
    ∧ handled.answer.toOption.map NarrowedVerifierResponse.stage = some "signed_schema"
    ∧ remaining handled.state.records (envelopeBudgetKey scanRuntime genuineEnvelope)
        300 60000000 0 = 299
    ∧ remaining untouched.records (envelopeBudgetKey scanRuntime genuineEnvelope) 300 60000000 0
        = 300} :=
  ⟨_, rfl, by decide +kernel⟩

/-- **A COPY WITH ANOTHER HINT**: it presents the genuine claims and signature, is
    refused at the schema stage for its hint, and leaves the genuine code 299 of
    its 300 requests. -/
theorem copy_spends_envelopeBudget :
    (∃ decision, verifySignedEnvelope scanRuntime sampleSurroundings.config genuineEnvelope
        ⟨"cert:acme", "Acme", "rsa-pss-sha256-v1", some "pem"⟩ = .ok decision
        ∧ decision.allowed = true)
      ∧ ¬ KeepsEnvelopeBudget scanRuntime (fun _ => "") sampleSurroundings sampleLimits
          genuineEnvelope untouched [copiedScan (some "rsa-pkcs1-v1_5") "signature"] := by
  refine ⟨verifySignedEnvelope_allowed_iff.mpr ⟨rfl, rfl, (fun hint h => by cases h), rfl⟩, ?_⟩
  intro hkeeps
  obtain ⟨handled, hscan, hstage, hafter, hbefore⟩ := copiedScanHandled
  rw [hscan] at hstage hafter
  obtain ⟨response, hresponse, hschema⟩ := Option.map_eq_some_iff.mp hstage
  have hkept := hkeeps [] _ [] rfl ⟨response, toOption_eq_some_iff.mp hresponse, hschema⟩ 0
    (by decide)
  rw [show scans scanRuntime (fun _ => "") sampleSurroundings sampleLimits untouched [] = untouched
    from rfl] at hkept
  have hsame := hafter.symm.trans (hkept.trans hbefore)
  exact absurd hsame (by decide)

end ScanFloodBudget
