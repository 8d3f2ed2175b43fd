import QrTrust.Backend.RecordRoundTripProofs
import QrTrust.Backend.ScanFloodBudgetProofs

/-! # Who spends the budget of an issuer

    The budget of an issuer and the cache are written after the signature is
    verified, or where a blocking state has answered in its stead: a code of a
    suspended or revoked issuer spends it whatever its signature
    (`issuerBudget_authentic`, `forged_spends_issuerBudget`). -/

namespace ScanFloodBudget

open SignedSchema TrustStore TrustProjection PayloadRevalidation NarrowedVerifier
  ProjectionFreshness VerdictCache SlidingWindow ScannerRecord Fallible

variable {py : PyRuntime} {dumpJson : NarrowedVerifierRequest → String} {env : Surroundings}
  {limits : Limits} {Governance Defect : Type}

/-! ## The key of the issuer -/

/-- The key that the trust store holds for a certificate reference. -/
def storedKey (store : ScannerTrustStore Governance Defect) (certificateRef : String) :
    Option KeyEntry :=
  (store.resolve certificateRef).map Prod.fst

/-- The signature of the code verifies under the key that the store holds for it. -/
def Authentic (py : PyRuntime) (store : ScannerTrustStore Governance Defect)
    (code : PresentedCode) : Prop :=
  ∃ key pem, storedKey store code.certificate.certificateRef = some key
    ∧ key.publicKeyPem = some pem
    ∧ py.verifiesRsaPss (canonicalizeClaims code.envelope.claims) code.envelope.signature pem = true

/-- The code is presented under the key that the store holds for it; the request
    models admit no empty key. -/
structure PresentsStoredKey (store : ScannerTrustStore Governance Defect)
    (code : PresentedCode) : Prop where
  stored : ∃ key, storedKey store code.certificate.certificateRef = some key
    ∧ key.publicKeyPem = code.certificate.publicKeyPem
  nonempty : code.certificate.publicKeyPem ≠ some ""

/-- What a request presents stands under its certificate, with its signature. -/
theorem certificate_of_presented {config : BackendConfig} {request : NarrowedVerifierRequest}
    {code : PresentedCode} (h : presentedCode py config request = .ok code) :
    code.certificate = authorityRecord request.certificate
      ∧ code.envelope.signature = request.envelope.signature
      ∧ code.trust.key.publicKeyPem = request.certificate.publicKeyPem := by
  obtain ⟨claims, -, h⟩ := bind_eq_ok_iff.mp h
  obtain ⟨trust, htrust, h⟩ := bind_eq_ok_iff.mp h
  obtain rfl := Except.ok.inj h
  refine ⟨rfl, rfl, ?_⟩
  obtain ⟨issuedAt, -, htrust⟩ := bind_eq_ok_iff.mp htrust
  obtain ⟨expiresAt, -, htrust⟩ := bind_eq_ok_iff.mp htrust
  obtain ⟨_, -, htrust⟩ := bind_eq_ok_iff.mp htrust
  obtain ⟨notBefore, -, htrust⟩ := bind_eq_ok_iff.mp htrust
  obtain ⟨notAfter, -, htrust⟩ := bind_eq_ok_iff.mp htrust
  obtain ⟨_, -, htrust⟩ := bind_eq_ok_iff.mp htrust
  obtain rfl := Except.ok.inj htrust
  rfl

/-- **BEHIND THE SCHEMA**: a result of a later stage is one of a blocked code, or of
    a code whose signature verifies under the key it presents. -/
theorem authentic_of_stage {config : BackendConfig} {policyFile : Option PolicyFile}
    {store : ScannerTrustStore Governance Defect} {code : PresentedCode} {now : Datetime}
    {result : NarrowedVerificationResult}
    (htrust : code.trust.key.publicKeyPem = code.certificate.publicKeyPem)
    (hpresents : PresentsStoredKey store code)
    (h : verifyPresentedCode py config policyFile code.envelope code.certificate code.trust now
      = .ok result) (hstage : result.stage ≠ "signed_schema") (hopen : ¬ Blocked code) :
    Authentic py store code := by
  have hverified : ∃ decision, verifySignedEnvelope py config code.envelope code.certificate
      = .ok decision ∧ decision.allowed = true := by
    obtain ⟨decision, hdecision⟩ := exists_schemaDecision h hopen
    refine ⟨decision, hdecision, ?_⟩
    by_contra hrefused
    exact hstage ((verifyPresentedCode_signedSchema_iff h).mpr
      ⟨hopen, decision, hdecision, Bool.eq_false_iff.mpr hrefused⟩)
  obtain ⟨-, -, -, hsignature⟩ := verifySignedEnvelope_allowed_iff.mp hverified
  obtain ⟨key, hkey, hsame⟩ := hpresents.stored
  cases hpem : code.certificate.publicKeyPem with
  | none => exact absurd (.inr (htrust.trans hpem)) hopen
  | some pem =>
      refine ⟨key, pem, hkey, hsame.trans hpem, ?_⟩
      have hnonempty : pem ≠ "" := fun hempty => hpresents.nonempty (hempty ▸ hpem)
      rw [hpem, verifySignature, Option.filter_some_pos (by simpa using hnonempty)] at hsignature
      rw [Option.getD_some, if_neg hnonempty] at hsignature
      exact Except.ok.inj hsignature

/-! ## Requests among a trust store -/

/-- A request, and the trust store it meets. -/
structure TrustedScan (Governance Defect : Type) where
  scan : Scan
  store : ScannerTrustStore Governance Defect

/-- The budget of an issuer is another one after the request, then or later. -/
def Spends (limits : Limits) (s : Scan) (before after : ScanState) (subject : String) : Prop :=
  ∃ later, s.issuerClock ≤ later
    ∧ remaining after.records (scanFloodBudgetKey "issuer" subject) limits.issuerMaxRequests
        limits.window later
      ≠ remaining before.records (scanFloodBudgetKey "issuer" subject) limits.issuerMaxRequests
        limits.window later

/-- **TOUCH**: a request that spends the budget of an issuer, or writes into the
    cache, has passed the schema stage or was answered before it; the budget is
    that of its own certificate. -/
theorem touched_cases {state : ScanState} {s : Scan}
    (h : (∃ subject, Spends limits s state (scan py dumpJson env limits state s).state subject)
      ∨ ¬ OnlyDropped state.cache (scan py dumpJson env limits state s).state.cache) :
    ∃ code result, presentedCode py env.config s.request = .ok code
      ∧ verifyPresentedCode py env.config env.policyFile code.envelope code.certificate code.trust
          (.utc s.now) = .ok result
      ∧ result.stage ≠ "signed_schema"
      ∧ ∀ subject, Spends limits s state (scan py dumpJson env limits state s).state subject →
          scanFloodBudgetKey "issuer" subject = issuerKey py code := by
  rcases @scan_cases py dumpJson env limits state s with
    ⟨hrecords, hdropped⟩ | ⟨code, cacheKey, cache, hcode, hdropped, hdecided⟩
  · rcases h with ⟨subject, later, -, hspent⟩ | hwritten
    · rw [hrecords] at hspent
      exact absurd rfl hspent
    · exact absurd hdropped hwritten
  · -- the budget of the envelope is none of an issuer
    have hother : ∀ subject later,
        used (checkEnvelope py limits state.records s code).2 (scanFloodBudgetKey "issuer" subject)
            limits.window later
          = used state.records (scanFloodBudgetKey "issuer" subject) limits.window later := by
      intro subject later
      rw [checkEnvelope, envelopeKey]
      exact used_check_of_ne _ (Ne.symm (envelopeKey_ne_issuerKey _ _)) _ _ _ _ _
    have huntouched : ∀ scanned : Scanned,
        scanned.state = ⟨(checkEnvelope py limits state.records s code).2, cache⟩ →
          ¬ ((∃ subject, Spends limits s state scanned.state subject)
            ∨ ¬ OnlyDropped state.cache scanned.state.cache) := by
      rintro scanned hstate (⟨subject, later, -, hspent⟩ | hwritten)
      · rw [hstate] at hspent
        refine hspent ?_
        show max 0 (_ - ((used _ _ _ _ : Nat) : Int)) = max 0 (_ - ((used _ _ _ _ : Nat) : Int))
        rw [hother]
      · rw [hstate] at hwritten
        exact hwritten hdropped
    -- another subject keeps its budget at the second check
    have hsubject : ∀ (records : Records String), checkEnvelope py limits state.records s code
          = (true, records) → ∀ after : ScanState, after.records = (checkIssuer py limits records s code).2 →
        ∀ subject, Spends limits s state after subject →
          scanFloodBudgetKey "issuer" subject = issuerKey py code := by
      rintro records hcheck after hafter subject ⟨later, -, hspent⟩
      by_contra hne
      refine hspent ?_
      rw [remaining, remaining, hafter, checkIssuer, used_check_of_ne _ hne]
      have hsecond : (checkEnvelope py limits state.records s code).2 = records := by rw [hcheck]
      rw [← hsecond, hother]
    generalize scan py dumpJson env limits state s = scanned at h hdecided ⊢
    cases hdecided with
    | envelopeRefused hcheck => exact absurd h (huntouched _ rfl)
    | raised hcheck hverify => exact absurd h (huntouched _ rfl)
    | schemaRefused hcheck hverify hstage => exact absurd h (huntouched _ rfl)
    | issuerRefused hcheck hverify hstage hissuer =>
        exact ⟨code, _, hcode, hverify, hstage, hsubject _ hcheck _ rfl⟩
    | within hcheck hverify hstage hissuer =>
        refine ⟨code, _, hcode, hverify, hstage, hsubject _ hcheck _ ?_⟩
        rw [storeVerdict.eq_def]
        split
        · rfl
        · split
          · rfl
          · rfl

/-- In the run, the budget of an issuer is spent and the cache written by authentic
    codes only, and the budget is that of the certificate of the code. -/
def OnlyAuthenticTouches (py : PyRuntime) (dumpJson : NarrowedVerifierRequest → String)
    (env : Surroundings) (limits : Limits) (state : ScanState)
    (requests : List (TrustedScan Governance Defect)) : Prop :=
  ∀ before s after, requests = before ++ s :: after →
    let earlier := scans py dumpJson env limits state (before.map TrustedScan.scan)
    let later := (scan py dumpJson env limits earlier s.scan).state
    (∃ subject, Spends limits s.scan earlier later subject)
        ∨ ¬ OnlyDropped earlier.cache later.cache →
      ∃ code, presentedCode py env.config s.scan.request = .ok code
        ∧ Authentic py s.store code
        ∧ ∀ subject, Spends limits s.scan earlier later subject →
            scanFloodBudgetKey "issuer" subject = issuerKey py code

/-- **ISSUER BUDGET**: in every run whose codes are presented under the key that the
    trust store holds, and are authentic where a blocking state answers for their
    signature, the budget of an issuer is spent and the cache written by authentic
    codes only. -/
theorem issuerBudget_authentic {state : ScanState}
    {requests : List (TrustedScan Governance Defect)}
    (hguarded : ∀ s ∈ requests, ∀ code, presentedCode py env.config s.scan.request = .ok code →
      PresentsStoredKey s.store code ∧ (Blocked code → Authentic py s.store code)) :
    OnlyAuthenticTouches py dumpJson env limits state requests := by
  rintro before s after rfl earlier later htouched
  have hmem : s ∈ before ++ s :: after := List.mem_append_right _ (List.mem_cons_self ..)
  obtain ⟨code, result, hcode, hverify, hstage, hsubject⟩ := touched_cases htouched
  obtain ⟨hpresents, hblocked⟩ := hguarded s hmem code hcode
  refine ⟨code, hcode, ?_, hsubject⟩
  by_cases hopen : Blocked code
  · exact hblocked hopen
  · obtain ⟨hcertificate, -, htrust⟩ := certificate_of_presented hcode
    refine authentic_of_stage ?_ hpresents hverify hstage hopen
    rw [htrust, hcertificate]
    rfl

/-! ## A forged code -/

/-- A store with one issuer, of the given status, and its key. -/
def acmeTrust (status : IssuerStatus) : ScannerTrustStore Unit Unit :=
  { ScannerTrustStore.empty with
    issuers := .ofList [("acme", { acmeIssuer firstDay none with status := status })]
    keys := .ofList [("cert:acme", acmeKey)] }

/-- The request that the scanner makes of a code with the given signature. -/
def acmeScan (status : IssuerStatus) (signature : String) : TrustedScan Unit Unit where
  scan :=
    { copiedScan none signature with
      request :=
        { copiedRequest none signature with
          certificate := certificateOf acmeKey (acmeIssuer firstDay none)
          issuerState := issuerStateOf writtenDay acmeKey
            { acmeIssuer firstDay none with status := status } } }
  store := acmeTrust status

/-- The codes of the sample are presented under the stored key. -/
theorem presentsStoredKey_acme {status : IssuerStatus} {signature : String} {code : PresentedCode}
    (hcode : presentedCode scanRuntime sampleSurroundings.config
      (acmeScan status signature).scan.request = .ok code) :
    PresentsStoredKey (acmeTrust status) code := by
  obtain ⟨hcertificate, -, -⟩ := certificate_of_presented hcode
  rw [show authorityRecord (acmeScan status signature).scan.request.certificate
    = ⟨"cert:acme", "Acme", "rsa-pss-sha256-v1", some "pem"⟩ from rfl] at hcertificate
  refine ⟨⟨acmeKey, ?_, ?_⟩, ?_⟩
  · rw [hcertificate]
    rfl
  · rw [hcertificate]
    rfl
  · rw [hcertificate]
    decide

/-- Of an active issuer, a genuine and a forged code: the genuine one spends. -/
theorem issuerBudget_authentic_active :
    OnlyAuthenticTouches scanRuntime (fun _ => "") sampleSurroundings sampleLimits untouched
      [acmeScan .active "signature", acmeScan .active "forged"] := by
  refine issuerBudget_authentic fun s hs code hcode => ?_
  have hopen : ∀ signature, (presentedCode scanRuntime sampleSurroundings.config
        (acmeScan .active signature).scan.request).toOption.map (fun code =>
          (evaluateBlockingStates code.trust.key code.trust.issuer, code.trust.key.publicKeyPem))
        = some (none, some "pem") →
      presentedCode scanRuntime sampleSurroundings.config
        (acmeScan .active signature).scan.request = .ok code → ¬ Blocked code := by
    intro signature heval hcode
    rw [hcode] at heval
    obtain ⟨hblocking, hpem⟩ := Prod.mk.inj (Option.some.inj heval)
    rintro (hblocked | hnone)
    · exact hblocked hblocking
    · rw [hpem] at hnone
      cases hnone
  rcases List.mem_pair.mp hs with rfl | rfl
  · exact ⟨presentsStoredKey_acme hcode,
      fun hblocked => absurd hblocked (hopen "signature" (by decide +kernel) hcode)⟩
  · exact ⟨presentsStoredKey_acme hcode,
      fun hblocked => absurd hblocked (hopen "forged" (by decide +kernel) hcode)⟩

/-- **SUSPENDED ISSUER**: a forged code of a suspended issuer is answered by the
    blocking state, its signature never looked at, and leaves the issuer 2999 of
    its 3000 requests. -/
theorem forged_spends_issuerBudget :
    ¬ OnlyAuthenticTouches scanRuntime (fun _ => "") sampleSurroundings sampleLimits untouched
      [acmeScan .suspended "forged"] := by
  intro honly
  have hrun : remaining (scan scanRuntime (fun _ => "") sampleSurroundings sampleLimits untouched
        (acmeScan .suspended "forged").scan).state.records
          (scanFloodBudgetKey "issuer" (issuerBudgetKey scanRuntime "cert:acme")) 3000 60000000 0 = 2999
      ∧ remaining untouched.records
          (scanFloodBudgetKey "issuer" (issuerBudgetKey scanRuntime "cert:acme")) 3000 60000000 0
        = 3000 := by
    decide +kernel
  obtain ⟨code, hcode, ⟨key, pem, -, -, hverifies⟩, -⟩ := honly [] _ [] rfl
    (.inl ⟨issuerBudgetKey scanRuntime "cert:acme", 0, le_refl 0, fun hsame => absurd
      (hrun.1.symm.trans (hsame.trans hrun.2)) (by decide)⟩)
  obtain ⟨-, hsignature, -⟩ := certificate_of_presented hcode
  rw [hsignature] at hverifies
  have hsame : "forged" = "signature" := of_decide_eq_true hverifies
  exact absurd hsame (by decide)

end ScanFloodBudget
