import QrTrust.Backend.VerdictCache
import QrTrust.Lib.Fallible
import QrTrust.Lib.TimedDecision
import Mathlib.Data.Int.Order.Basic

/-! # The verdict of a presented code over time

    The pipeline of the narrowed verifier as a timed decision: the boundaries
    its verdict is read from, in the order it consults them. -/

namespace VerdictTimeline

open SignedSchema TrustStore PayloadRevalidation NarrowedVerifier VerdictCache Timed

/-! ## Comparisons with the clock -/

theorem lt_of_aware {d : Datetime} (h : d.utcoffset ≠ none) (t : Int) :
    (Datetime.utc t).lt d = .ok (decide (t < d.instant)) := by
  obtain ⟨offset, hoffset⟩ := Option.ne_none_iff_exists'.mp h
  simp [Datetime.lt, Datetime.compareKeys, Datetime.utc, Datetime.instant, hoffset, Except.map]

theorem le_of_aware {d : Datetime} (h : d.utcoffset ≠ none) (t : Int) :
    d.le (Datetime.utc t) = .ok (decide (d.instant ≤ t)) := by
  obtain ⟨offset, hoffset⟩ := Option.ne_none_iff_exists'.mp h
  simp [Datetime.le, Datetime.compareKeys, Datetime.utc, Datetime.instant, hoffset, Except.map]

theorem le_of_naive {d : Datetime} (h : d.utcoffset = none) (t : Int) :
    d.le (Datetime.utc t) = .error .typeError := by
  simp [Datetime.le, Datetime.compareKeys, Datetime.utc, h, Except.map]

theorem utcoffset_of_addSeconds {d d' : Datetime} {seconds : Int}
    (h : d.addSeconds seconds = .ok d') : d'.utcoffset = d.utcoffset := by
  rw [Datetime.addSeconds] at h
  split at h
  · obtain rfl := Except.ok.inj h
    rfl
  · cases h

variable (py : PyRuntime)

theorem aware_of_parseClaimTimestamp {label text : String} {d : Datetime}
    (h : parseClaimTimestamp py label text = .ok d) : d.utcoffset ≠ none := by
  rw [parseClaimTimestamp] at h
  split at h
  · cases h
  · split at h
    · cases h
    · rename_i hoffset
      obtain rfl := Except.ok.inj h
      exact hoffset

/-! ## The timelines -/

/-- The verdict of a decision about the payload. -/
def matchVerdict (decision : MatchDecision) : Verdict := (ofMatchDecision "" decision).verdict

/-- The verdict of a rule that refuses. -/
def ruleVerdict (stage cause : String) : Verdict := ⟨false, stage, some cause⟩

theorem ruleVerdict_ne {stage stage' cause cause' : String} (h : stage ≠ stage') :
    ruleVerdict stage cause ≠ ruleVerdict stage' cause' :=
  fun heq => h (congrArg Verdict.stage heq)

/-- The verdict under an expired domain proof. -/
def proofExpiredVerdict : Verdict := ruleVerdict "payload_revalidation" "destination-not-authorized"

/-- The domain proof, before what the policy says: one boundary, unless the
    policy says the same as an expired proof. -/
def proofTimeline (policy : Except PyError Verdict) (expiry : Option Datetime) :
    Timed Int (Except PyError Verdict) :=
  match expiry with
  | none => .done policy
  | some expiry =>
      if expiry.utcoffset = none then .done (.error .typeError)
      else if policy = .ok proofExpiredVerdict then .done policy
      else .expiring expiry.instant (.ok proofExpiredVerdict) (.done policy)

/-- The payload against the verified domains. -/
def payloadTimeline (policyFile : Option PolicyFile) (payload : String)
    (verifiedDomains : OrderedMap String (Option Datetime)) (allowSubdomains : Bool) :
    Timed Int (Except PyError Verdict) :=
  let refused : Option String → Timed Int (Except PyError Verdict) := fun cause =>
    .done (.ok ⟨false, "payload_revalidation", cause⟩)
  match normalizePayloadDestination py payload with
  | .error exc =>
      match exc.asValueError with
      | none => .done (.error exc)
      | some _ => refused none
  | .ok destination =>
      match normalizedVerifiedDomains py verifiedDomains with
      | .error exc =>
          match canonicalizationReason exc with
          | none => .done (.error exc)
          | some _ => refused (some "policy-invalid")
      | .ok normalizedDomains =>
          if normalizedDomains.keys = [] then refused none
          else
            match coveringDomain destination.host allowSubdomains normalizedDomains.entries with
            | some (matched, reason, expiry) =>
                proofTimeline
                  ((policyOrMatch py policyFile destination matched reason).map matchVerdict) expiry
            | none => refused none

/-- The end of the claims, the skew counted in their favour. -/
def claimsEnd (expiresAt : String) (skewSeconds : Int) : Except PyError Datetime := do
  (← parseClaimTimestamp py "expires_at" expiresAt).addSeconds skewSeconds

/-- The expiry of the claims, before `rest`. -/
def claimsExpiring (expiresAt : Option String) (skewSeconds : Int)
    (rest : Timed Int (Except PyError Verdict)) : Timed Int (Except PyError Verdict) :=
  match expiresAt with
  | none => rest
  | some text =>
      .ofExcept (claimsEnd py text skewSeconds) fun stop =>
        .expiring stop.instant (.ok (ruleVerdict "time_window" "object-expired")) rest

/-- The start of the claims, before `rest`. -/
def claimsPending (issuedAt : Datetime) (skewSeconds : Int)
    (rest : Timed Int (Except PyError Verdict)) : Timed Int (Except PyError Verdict) :=
  .ofExcept (issuedAt.addSeconds (-skewSeconds)) fun start =>
    .pending start.instant (.ok (ruleVerdict "time_window" "object-not-yet-valid")) rest

/-- The claims: their key window, their start and their expiry, before `rest`. -/
def claimsTimeline (claims : SignedQRCodeClaims) (key : KeyEntry) (skewSeconds : Int)
    (rest : Timed Int (Except PyError Verdict)) : Timed Int (Except PyError Verdict) :=
  .ofExcept (parseClaimTimestamp py "issued_at" claims.issuedAt) fun issuedAt =>
    .ofExcept (outsideKeyWindow key issuedAt) fun outside =>
      if outside then .done (.ok (ruleVerdict "key_status" "key-window-mismatch"))
      else
        claimsPending issuedAt skewSeconds (claimsExpiring py claims.expiresAt skewSeconds rest)

/-- The expiry of the issuer record, before `rest`. -/
def recordExpiring (expiresAt : Option Datetime) (rest : Timed Int (Except PyError Verdict)) :
    Timed Int (Except PyError Verdict) :=
  match expiresAt with
  | none => rest
  | some expiresAt =>
      .expiring expiresAt.instant (.ok (ruleVerdict "issuer_status" "record-expired")) rest

/-- The issuer record and the claims, before `rest`. -/
def windowsTimeline (claims : SignedQRCodeClaims) (trust : TrustContext)
    (rest : Timed Int (Except PyError Verdict)) : Timed Int (Except PyError Verdict) :=
  .pending trust.issuer.issuedAt.instant (.ok (ruleVerdict "issuer_status" "record-not-yet-valid"))
    (recordExpiring trust.issuer.expiresAt
      (claimsTimeline py claims trust.key trust.skewSeconds rest))

/-- The verdict of a presented code over time. -/
def codeTimeline (config : BackendConfig) (policyFile : Option PolicyFile) (code : PresentedCode) :
    Timed Int (Except PyError Verdict) :=
  match evaluateBlockingStates code.trust.key code.trust.issuer with
  | some blocking => .done (.ok ⟨false, blocking.stage, blocking.cause⟩)
  | none =>
      if code.trust.key.publicKeyPem = none then
        .done (.ok (ruleVerdict "key_status" "trust-state-unavailable"))
      else
        .ofExcept (verifySignedEnvelope py config code.envelope code.certificate) fun schema =>
          if schema.allowed then
            windowsTimeline py code.envelope.claims code.trust
              (payloadTimeline py policyFile code.envelope.claims.payload
                code.trust.issuer.verifiedDomains code.trust.issuer.allowSubdomains)
          else .done (.ok ⟨false, "signed_schema", none⟩)

/-- The verdict of a request over time. -/
def requestTimeline (env : Surroundings) (request : NarrowedVerifierRequest) :
    Timed Int (Except PyError Verdict) :=
  .ofExcept (presentedCode py env.config request) (codeTimeline py env.config env.policyFile)

/-! ## The pipeline follows its timeline -/

theorem matchDomain_verdict (policyFile : Option PolicyFile)
    (destination : NormalizedDestination) (matched reason : String) (expiry : Option Datetime)
    (t : Int) :
    (matchDomain py policyFile destination (.utc t) matched reason expiry).map matchVerdict
      = (proofTimeline ((policyOrMatch py policyFile destination matched reason).map matchVerdict)
          expiry).value t := by
  cases expiry with
  | none => rfl
  | some expiry =>
      by_cases hnaive : expiry.utcoffset = none
      · simp [matchDomain, proofExpired, proofTimeline, le_of_naive hnaive, hnaive, bind,
          Except.bind, Except.map]
      · by_cases hpast : expiry.instant ≤ t
        · have hmatch : (matchDomain py policyFile destination (.utc t) matched reason
              (some expiry)).map matchVerdict = .ok proofExpiredVerdict := by
            simp [matchDomain, proofExpired, le_of_aware hnaive, hpast, bind, Except.bind, pure,
              Except.pure, Except.map, matchVerdict, ofMatchDecision, MatchDecision.refused,
              NarrowedVerificationResult.verdict, proofExpiredVerdict, ruleVerdict]
          rw [hmatch, proofTimeline, if_neg hnaive]
          split
          · rename_i hsame
            rw [hsame]; rfl
          · rw [value_expiring_of_le hpast]
        · have hmatch : matchDomain py policyFile destination (.utc t) matched reason
              (some expiry) = policyOrMatch py policyFile destination matched reason := by
            simp [matchDomain, proofExpired, le_of_aware hnaive, hpast, bind, Except.bind]
          rw [hmatch, proofTimeline, if_neg hnaive]
          split
          · rfl
          · rw [value_expiring_of_lt (lt_of_not_ge hpast)]; rfl

theorem matchPayload_verdict (policyFile : Option PolicyFile) (payload : String)
    (verifiedDomains : OrderedMap String (Option Datetime)) (allowSubdomains : Bool) (t : Int) :
    (matchPayloadToVerifiedDomains py policyFile payload verifiedDomains allowSubdomains
        (.utc t)).map matchVerdict
      = (payloadTimeline py policyFile payload verifiedDomains allowSubdomains).value t := by
  rw [matchPayloadToVerifiedDomains, payloadTimeline]
  cases normalizePayloadDestination py payload with
  | error exc =>
      dsimp only
      cases exc.asValueError <;> rfl
  | ok destination =>
      dsimp only
      cases normalizedVerifiedDomains py verifiedDomains with
      | error exc =>
          dsimp only
          cases canonicalizationReason exc <;> rfl
      | ok normalizedDomains =>
          dsimp only
          split
          · rfl
          · cases coveringDomain destination.host allowSubdomains normalizedDomains.entries with
            | none => rfl
            | some cover =>
                obtain ⟨matched, reason, expiry⟩ := cover
                exact matchDomain_verdict py policyFile destination matched reason expiry t

/-- What follows the time windows of a presented code, at their verdict. -/
def afterWindows (result : TrustRuleResult) (rest : Except PyError Verdict) :
    Except PyError Verdict :=
  if result.allowed then rest else .ok ⟨false, result.stage, result.cause⟩

theorem claimsExpiring_value (expiresAt : Option String) (skewSeconds : Int)
    (rest : Timed Int (Except PyError Verdict)) (t : Int) :
    (claimsExpiring py expiresAt skewSeconds rest).value t
      = (claimsExpired py (.utc t) expiresAt skewSeconds).bind fun expired =>
          if expired then .ok (ruleVerdict "time_window" "object-expired") else rest.value t := by
  cases expiresAt with
  | none => rfl
  | some text =>
      rw [claimsExpiring, value_ofExcept, claimsExpired, claimsEnd]
      cases hparse : parseClaimTimestamp py "expires_at" text with
      | error exc => rfl
      | ok expiry =>
          show (expiry.addSeconds skewSeconds).bind _ = ((expiry.addSeconds skewSeconds).bind _).bind _
          cases hadd : expiry.addSeconds skewSeconds with
          | error exc => rfl
          | ok stop =>
              have haware : stop.utcoffset ≠ none := by
                rw [utcoffset_of_addSeconds hadd]
                exact aware_of_parseClaimTimestamp py hparse
              show (expiring stop.instant _ rest).value t = (stop.le (.utc t)).bind _
              rw [le_of_aware haware, value]
              by_cases hpast : stop.instant ≤ t
              · simp [hpast, Except.bind]
              · simp [hpast, Except.bind]

theorem claimsPending_value {issuedAt : Datetime} (haware : issuedAt.utcoffset ≠ none)
    (skewSeconds : Int) (rest : Timed Int (Except PyError Verdict)) (t : Int) :
    (claimsPending issuedAt skewSeconds rest).value t
      = (issuedAt.addSeconds (-skewSeconds)).bind fun start =>
          ((Datetime.utc t).lt start).bind fun early =>
            if early then .ok (ruleVerdict "time_window" "object-not-yet-valid")
            else rest.value t := by
  rw [claimsPending, value_ofExcept]
  cases hadd : issuedAt.addSeconds (-skewSeconds) with
  | error exc => rfl
  | ok start =>
      have hstart : start.utcoffset ≠ none := by rwa [utcoffset_of_addSeconds hadd]
      show (pending start.instant _ rest).value t = ((Datetime.utc t).lt start).bind _
      rw [lt_of_aware hstart, value]
      by_cases hearly : t < start.instant
      · simp [hearly, Except.bind]
      · simp [hearly, Except.bind]

/-- The datetimes of the issuer record have a timezone. -/
structure AwareRecord (issuer : IssuerRecord) : Prop where
  issuedAt : issuer.issuedAt.utcoffset ≠ none
  expiresAt : ∀ expiresAt, issuer.expiresAt = some expiresAt → expiresAt.utcoffset ≠ none

theorem recordExpiring_value {issuer : IssuerRecord} (haware : AwareRecord issuer)
    (rest : Timed Int (Except PyError Verdict)) (t : Int) :
    (recordExpiring issuer.expiresAt rest).value t
      = (recordExpired (.utc t) issuer.expiresAt).bind fun expired =>
          if expired then .ok (ruleVerdict "issuer_status" "record-expired")
          else rest.value t := by
  cases hexpires : issuer.expiresAt with
  | none => rfl
  | some expiresAt =>
      rw [recordExpiring, recordExpired, le_of_aware (haware.expiresAt _ hexpires), value]
      by_cases hpast : expiresAt.instant ≤ t
      · simp [hpast, Except.bind]
      · simp [hpast, Except.bind]

theorem claimsTimeline_value (claims : SignedQRCodeClaims) (key : KeyEntry) (skewSeconds : Int)
    (rest : Timed Int (Except PyError Verdict)) (t : Int) :
    (claimsTimeline py claims key skewSeconds rest).value t
      = (parseClaimTimestamp py "issued_at" claims.issuedAt).bind fun issuedAt =>
          (outsideKeyWindow key issuedAt).bind fun outside =>
            if outside then .ok (ruleVerdict "key_status" "key-window-mismatch")
            else (claimsPending issuedAt skewSeconds
              (claimsExpiring py claims.expiresAt skewSeconds rest)).value t := by
  rw [claimsTimeline, value_ofExcept]
  cases parseClaimTimestamp py "issued_at" claims.issuedAt with
  | error exc => rfl
  | ok issuedAt =>
      show (ofExcept _ _).value t = (outsideKeyWindow key issuedAt).bind _
      rw [value_ofExcept]
      cases outsideKeyWindow key issuedAt with
      | error exc => rfl
      | ok outside => cases outside <;> rfl

/-- **WINDOWS**: the time windows and what follows them, as a timeline. -/
theorem windowsTimeline_value (claims : SignedQRCodeClaims) {trust : TrustContext}
    (haware : AwareRecord trust.issuer) (rest : Timed Int (Except PyError Verdict)) (t : Int) :
    (windowsTimeline py claims trust rest).value t
      = (evaluateTimeWindows py (.utc t) claims trust.key trust.issuer trust.skewSeconds).bind
          fun result => afterWindows result (rest.value t) := by
  rw [windowsTimeline, value, recordExpiring_value haware, claimsTimeline_value,
    evaluateTimeWindows, lt_of_aware haware.issuedAt]
  simp only [bind, Except.bind]
  by_cases hearly : t < trust.issuer.issuedAt.instant
  · simp [hearly, afterWindows, refusal, ruleVerdict, pure, Except.pure]
  · simp only [hearly, decide_false, if_neg, Bool.false_eq_true, not_false_eq_true]
    cases recordExpired (.utc t) trust.issuer.expiresAt with
    | error exc => rfl
    | ok expired =>
        cases expired with
        | true => rfl
        | false =>
            simp only [Bool.false_eq_true, if_false]
            cases hparse : parseClaimTimestamp py "issued_at" claims.issuedAt with
            | error exc => rfl
            | ok issuedAt =>
                dsimp only
                cases outsideKeyWindow trust.key issuedAt with
                | error exc => rfl
                | ok outside =>
                    cases outside with
                    | true => rfl
                    | false =>
                        simp only [Bool.false_eq_true, if_false]
                        rw [claimsPending_value (aware_of_parseClaimTimestamp py hparse),
                          claimsExpiring_value]
                        cases issuedAt.addSeconds (-trust.skewSeconds) with
                        | error exc => rfl
                        | ok start =>
                            cases hlt : (Datetime.utc t).lt start with
                            | error exc => simp [Except.bind, hlt]
                            | ok early => 
                                cases early with
                                | true => simp [Except.bind, hlt]; rfl
                                | false =>
                                    cases claimsExpired py (.utc t) claims.expiresAt
                                      trust.skewSeconds with
                                    | error exc => simp [Except.bind, hlt]
                                    | ok expired =>
                                        cases expired <;> simp [Except.bind, hlt] <;> rfl

theorem verifyInForce_verdict (policyFile : Option PolicyFile) (claims : SignedQRCodeClaims)
    {trust : TrustContext} (haware : AwareRecord trust.issuer) (t : Int) :
    (verifyInForce py policyFile claims trust (.utc t)).map NarrowedVerificationResult.verdict
      = (windowsTimeline py claims trust
          (payloadTimeline py policyFile claims.payload trust.issuer.verifiedDomains
            trust.issuer.allowSubdomains)).value t := by
  rw [windowsTimeline_value py claims haware, verifyInForce, ← matchPayload_verdict]
  cases evaluateTimeWindows py (.utc t) claims trust.key trust.issuer trust.skewSeconds with
  | error exc => rfl
  | ok result =>
      show Except.map _ (if result.allowed = true then _ else _) = afterWindows result _
      rw [afterWindows]
      cases result.allowed with
      | false => rfl
      | true =>
          show Except.map _ (Except.bind _ _) = Except.map _ _
          cases matchPayloadToVerifiedDomains py policyFile claims.payload
            trust.issuer.verifiedDomains trust.issuer.allowSubdomains (.utc t) <;> rfl

/-- **PIPELINE**: the verdict of a presented code at a time is the value of its
    timeline. -/
theorem verifyPresentedCode_verdict (config : BackendConfig) (policyFile : Option PolicyFile)
    {code : PresentedCode} (haware : AwareRecord code.trust.issuer) (t : Int) :
    (verifyPresentedCode py config policyFile code.envelope code.certificate code.trust
        (.utc t)).map NarrowedVerificationResult.verdict
      = (codeTimeline py config policyFile code).value t := by
  rw [verifyPresentedCode, codeTimeline]
  cases evaluateBlockingStates code.trust.key code.trust.issuer with
  | some blocking => rfl
  | none =>
      dsimp only
      split
      · rfl
      · rw [value_ofExcept]
        cases verifySignedEnvelope py config code.envelope code.certificate with
        | error exc => rfl
        | ok schema =>
            show Except.map _ (if schema.allowed = true then _ else _)
              = value (if schema.allowed = true then _ else _) t
            cases schema.allowed with
            | false => rfl
            | true => exact verifyInForce_verdict py policyFile code.envelope.claims haware t

/-! ## The record of a request is aware -/

theorem aware_of_optionalTrustTimestamp {label : String} {value : Option String} {d : Datetime}
    (h : optionalTrustTimestamp py label value = .ok (some d)) : d.utcoffset ≠ none := by
  cases value with
  | none => cases h
  | some text =>
      rw [optionalTrustTimestamp] at h
      cases hparse : parseClaimTimestamp py label text with
      | error exc => rw [hparse] at h; cases h
      | ok parsed =>
          rw [hparse] at h
          obtain rfl : parsed = d := Option.some.inj (Except.ok.inj h)
          exact aware_of_parseClaimTimestamp py hparse

theorem aware_of_boundedTrustTimestamp {label : String} {value : Option String}
    {default d : Datetime} (hdefault : default.utcoffset ≠ none)
    (h : boundedTrustTimestamp py label value default = .ok d) : d.utcoffset ≠ none := by
  rw [boundedTrustTimestamp] at h
  cases hoptional : optionalTrustTimestamp py label value with
  | error exc => rw [hoptional] at h; cases h
  | ok parsed =>
      rw [hoptional] at h
      obtain rfl := Except.ok.inj h
      cases parsed with
      | none => exact hdefault
      | some parsed => exact aware_of_optionalTrustTimestamp py hoptional

/-- **AWARENESS**: the trust timestamps of a request carry a timezone. -/
theorem aware_of_presentedCode {config : BackendConfig} {request : NarrowedVerifierRequest}
    {code : PresentedCode} (h : presentedCode py config request = .ok code) :
    AwareRecord code.trust.issuer := by
  obtain ⟨claims, -, h⟩ := Fallible.bind_eq_ok_iff.mp h
  obtain ⟨trust, htrust, h⟩ := Fallible.bind_eq_ok_iff.mp h
  obtain rfl := Except.ok.inj h
  obtain ⟨issuedAt, hissued, h⟩ := Fallible.bind_eq_ok_iff.mp htrust
  obtain ⟨expiresAt, hexpires, h⟩ := Fallible.bind_eq_ok_iff.mp h
  obtain ⟨-, -, h⟩ := Fallible.bind_eq_ok_iff.mp h
  obtain ⟨notBefore, -, h⟩ := Fallible.bind_eq_ok_iff.mp h
  obtain ⟨notAfter, -, h⟩ := Fallible.bind_eq_ok_iff.mp h
  obtain ⟨-, -, h⟩ := Fallible.bind_eq_ok_iff.mp h
  obtain rfl := Except.ok.inj h
  refine ⟨aware_of_boundedTrustTimestamp py (Option.some_ne_none 0) hissued, ?_⟩
  intro d hd
  obtain rfl : expiresAt = some d := hd
  exact aware_of_optionalTrustTimestamp py hexpires

/-- **REQUEST**: the uncached verdict of a request at a time is the value of its
    timeline. -/
theorem uncached_verdict (env : Surroundings) (request : NarrowedVerifierRequest) (t : Int) :
    (uncached py env request t).map NarrowedVerificationResult.verdict
      = (requestTimeline py env request).value t := by
  rw [requestTimeline, value_ofExcept, uncached]
  cases hcode : presentedCode py env.config request with
  | error exc => rfl
  | ok code =>
      exact verifyPresentedCode_verdict py env.config env.policyFile
        (aware_of_presentedCode py hcode) t

/-! ## The verdicts of a timeline can be told apart -/

theorem stage_of_proofTimeline {policy : Except PyError Verdict} {expiry : Option Datetime}
    {stages : List String} (hstage : "payload_revalidation" ∈ stages)
    (hpolicy : ∀ v, policy = .ok v → v.stage ∈ stages) {v : Verdict}
    (h : .ok v ∈ (proofTimeline policy expiry).answers) : v.stage ∈ stages := by
  cases expiry with
  | none => exact hpolicy v (List.mem_singleton.mp h).symm
  | some expiry =>
      rw [proofTimeline] at h
      split at h
      · cases List.mem_singleton.mp h
      · split at h
        · exact hpolicy v (List.mem_singleton.mp h).symm
        · rcases List.mem_cons.mp h with h | h
          · obtain rfl := Except.ok.inj h
            exact hstage
          · exact hpolicy v (List.mem_singleton.mp h).symm

/-- The stages the payload is decided at. -/
def payloadStages : List String := ["payload_revalidation", "accepted"]

theorem stage_of_matchVerdict {x : Except PyError MatchDecision} {v : Verdict}
    (h : x.map matchVerdict = .ok v) : v.stage ∈ payloadStages := by
  cases x with
  | error exc => cases h
  | ok decision =>
      obtain rfl := Except.ok.inj h
      show (if decision.allowed = true then _ else _) ∈ payloadStages
      cases decision.allowed
      · exact List.mem_cons_self ..
      · exact List.mem_cons_of_mem _ (List.mem_cons_self ..)

theorem stage_of_payloadTimeline {policyFile : Option PolicyFile} {payload : String}
    {verifiedDomains : OrderedMap String (Option Datetime)} {allowSubdomains : Bool} {v : Verdict}
    (h : .ok v ∈ (payloadTimeline py policyFile payload verifiedDomains allowSubdomains).answers) :
    v.stage ∈ payloadStages := by
  have hrefused : ∀ {cause : Option String}, (.ok v : Except PyError Verdict)
      ∈ [.ok ⟨false, "payload_revalidation", cause⟩] → v.stage ∈ payloadStages := by
    intro cause hv
    obtain rfl := Except.ok.inj (List.mem_singleton.mp hv)
    exact List.mem_cons_self ..
  rw [payloadTimeline] at h
  cases hdestination : normalizePayloadDestination py payload with
  | error exc =>
      rw [hdestination] at h
      cases htext : exc.asValueError with
      | none => simp [htext, answers] at h
      | some text =>
          simp only [htext] at h
          exact hrefused h
  | ok destination =>
      rw [hdestination] at h
      cases hdomains : normalizedVerifiedDomains py verifiedDomains with
      | error exc =>
          rw [hdomains] at h
          cases hreason : canonicalizationReason exc with
          | none => simp [hreason, answers] at h
          | some reason =>
              simp only [hreason] at h
              exact hrefused h
      | ok normalizedDomains =>
          rw [hdomains] at h
          dsimp only at h
          split at h
          · exact hrefused h
          · cases hcover : coveringDomain destination.host allowSubdomains
              normalizedDomains.entries with
            | none =>
                rw [hcover] at h
                exact hrefused h
            | some cover =>
                obtain ⟨matched, reason, expiry⟩ := cover
                rw [hcover] at h
                exact stage_of_proofTimeline (List.mem_cons_self ..)
                  (fun v hv => stage_of_matchVerdict hv) h

theorem distinct_proofTimeline (policy : Except PyError Verdict) (expiry : Option Datetime) :
    (proofTimeline policy expiry).Distinct := by
  cases expiry with
  | none => trivial
  | some expiry =>
      rw [proofTimeline]
      split
      · trivial
      · split
        · trivial
        · rename_i hne
          refine ⟨fun h => hne (List.mem_singleton.mp h).symm, trivial⟩

theorem distinct_payloadTimeline (policyFile : Option PolicyFile) (payload : String)
    (verifiedDomains : OrderedMap String (Option Datetime)) (allowSubdomains : Bool) :
    (payloadTimeline py policyFile payload verifiedDomains allowSubdomains).Distinct := by
  rw [payloadTimeline]
  cases normalizePayloadDestination py payload with
  | error exc =>
      dsimp only
      cases exc.asValueError <;> trivial
  | ok destination =>
      dsimp only
      cases normalizedVerifiedDomains py verifiedDomains with
      | error exc =>
          dsimp only
          cases canonicalizationReason exc <;> trivial
      | ok normalizedDomains =>
          dsimp only
          split
          · trivial
          · cases coveringDomain destination.host allowSubdomains normalizedDomains.entries with
            | none => trivial
            | some cover => exact distinct_proofTimeline _ _

/-- A chain that decides nothing but the payload: its answers can be told apart,
    and each is of a stage of the payload. -/
structure PayloadOnly (rest : Timed Int (Except PyError Verdict)) : Prop where
  distinct : rest.Distinct
  stage : ∀ v, .ok v ∈ rest.answers → v.stage ∈ payloadStages

theorem PayloadOnly.not_mem {rest : Timed Int (Except PyError Verdict)} (h : PayloadOnly rest)
    {stage cause : String} (hstage : stage ∉ payloadStages) :
    .ok (ruleVerdict stage cause) ∉ rest.answers :=
  fun hmem => hstage (h.stage _ hmem)

theorem verdict_of_claimsExpiring {expiresAt : Option String} {skewSeconds : Int}
    {rest : Timed Int (Except PyError Verdict)} {v : Verdict}
    (h : .ok v ∈ (claimsExpiring py expiresAt skewSeconds rest).answers) :
    v = ruleVerdict "time_window" "object-expired" ∨ .ok v ∈ rest.answers := by
  cases expiresAt with
  | none => exact .inr h
  | some text =>
      obtain ⟨stop, -, hmem⟩ := mem_answers_ofExcept h
      rcases List.mem_cons.mp hmem with heq | hmem
      · exact .inl (Except.ok.inj heq)
      · exact .inr hmem

theorem verdict_of_claimsTimeline {claims : SignedQRCodeClaims} {key : KeyEntry}
    {skewSeconds : Int} {rest : Timed Int (Except PyError Verdict)} {v : Verdict}
    (h : .ok v ∈ (claimsTimeline py claims key skewSeconds rest).answers) :
    v = ruleVerdict "key_status" "key-window-mismatch"
      ∨ v = ruleVerdict "time_window" "object-not-yet-valid"
      ∨ v = ruleVerdict "time_window" "object-expired" ∨ .ok v ∈ rest.answers := by
  obtain ⟨issuedAt, -, h⟩ := mem_answers_ofExcept h
  obtain ⟨outside, -, h⟩ := mem_answers_ofExcept h
  cases outside with
  | true => exact .inl (Except.ok.inj (List.mem_singleton.mp h))
  | false =>
      obtain ⟨start, -, h⟩ := mem_answers_ofExcept h
      rcases List.mem_cons.mp h with heq | h
      · exact .inr (.inl (Except.ok.inj heq))
      · exact .inr (.inr (verdict_of_claimsExpiring py h))

theorem verdict_of_recordExpiring {expiresAt : Option Datetime}
    {rest : Timed Int (Except PyError Verdict)} {v : Verdict}
    (h : .ok v ∈ (recordExpiring expiresAt rest).answers) :
    v = ruleVerdict "issuer_status" "record-expired" ∨ .ok v ∈ rest.answers := by
  cases expiresAt with
  | none => exact .inr h
  | some expiresAt =>
      rcases List.mem_cons.mp h with heq | hmem
      · exact .inl (Except.ok.inj heq)
      · exact .inr hmem

theorem distinct_claimsExpiring {expiresAt : Option String} {skewSeconds : Int}
    {rest : Timed Int (Except PyError Verdict)} (hrest : PayloadOnly rest) :
    (claimsExpiring py expiresAt skewSeconds rest).Distinct := by
  cases expiresAt with
  | none => exact hrest.distinct
  | some text =>
      exact distinct_ofExcept fun stop _ => ⟨hrest.not_mem (by decide), hrest.distinct⟩

theorem distinct_claimsTimeline {claims : SignedQRCodeClaims} {key : KeyEntry}
    {skewSeconds : Int} {rest : Timed Int (Except PyError Verdict)} (hrest : PayloadOnly rest) :
    (claimsTimeline py claims key skewSeconds rest).Distinct := by
  refine distinct_ofExcept fun issuedAt _ => distinct_ofExcept fun outside _ => ?_
  cases outside with
  | true => trivial
  | false =>
      refine distinct_ofExcept fun start _ => ⟨?_, distinct_claimsExpiring py hrest⟩
      intro hmem
      rcases verdict_of_claimsExpiring py hmem with heq | hmem
      · exact absurd heq (by decide)
      · exact hrest.not_mem (by decide) hmem

/-- The verdicts about the issuer record are given by none of the rules on the
    claims, nor by the payload. -/
theorem not_mem_claimsTimeline {claims : SignedQRCodeClaims} {key : KeyEntry}
    {skewSeconds : Int} {rest : Timed Int (Except PyError Verdict)} (hrest : PayloadOnly rest)
    (cause : String) :
    .ok (ruleVerdict "issuer_status" cause)
      ∉ (claimsTimeline py claims key skewSeconds rest).answers := by
  intro hmem
  rcases verdict_of_claimsTimeline py hmem with heq | heq | heq | hmem
  · exact ruleVerdict_ne (by decide) heq
  · exact ruleVerdict_ne (by decide) heq
  · exact ruleVerdict_ne (by decide) heq
  · exact hrest.not_mem (by decide) hmem

theorem distinct_windowsTimeline {claims : SignedQRCodeClaims} {trust : TrustContext}
    {rest : Timed Int (Except PyError Verdict)} (hrest : PayloadOnly rest) :
    (windowsTimeline py claims trust rest).Distinct := by
  have hclaims : (claimsTimeline py claims trust.key trust.skewSeconds rest).Distinct :=
    distinct_claimsTimeline py hrest
  refine ⟨?_, ?_⟩
  · intro hmem
    rcases verdict_of_recordExpiring hmem with heq | hmem
    · exact absurd heq (by decide)
    · exact not_mem_claimsTimeline py hrest _ hmem
  · cases trust.issuer.expiresAt with
    | none => exact hclaims
    | some expiresAt => exact ⟨not_mem_claimsTimeline py hrest _, hclaims⟩

theorem payloadOnly_payloadTimeline (policyFile : Option PolicyFile) (payload : String)
    (verifiedDomains : OrderedMap String (Option Datetime)) (allowSubdomains : Bool) :
    PayloadOnly (payloadTimeline py policyFile payload verifiedDomains allowSubdomains) :=
  ⟨distinct_payloadTimeline py policyFile payload verifiedDomains allowSubdomains,
    fun _ h => stage_of_payloadTimeline py h⟩

theorem distinct_codeTimeline (config : BackendConfig) (policyFile : Option PolicyFile)
    (code : PresentedCode) : (codeTimeline py config policyFile code).Distinct := by
  rw [codeTimeline]
  cases evaluateBlockingStates code.trust.key code.trust.issuer with
  | some blocking => exact True.intro
  | none =>
      dsimp only
      by_cases hpem : code.trust.key.publicKeyPem = none
      · rw [if_pos hpem]
        exact True.intro
      · rw [if_neg hpem]
        apply distinct_ofExcept
        intro schema _
        cases schema.allowed with
        | true =>
            exact distinct_windowsTimeline py (payloadOnly_payloadTimeline py _ _ _ _)
        | false => exact True.intro

/-- **DISTINCTNESS**: the verdicts of a request over time can be told apart. -/
theorem distinct_requestTimeline (env : Surroundings) (request : NarrowedVerifierRequest) :
    (requestTimeline py env request).Distinct := by
  rw [requestTimeline]
  generalize presentedCode py env.config request = presented
  apply distinct_ofExcept
  intro code _
  exact distinct_codeTimeline py env.config env.policyFile code

-- computed once and for all: what follows knows a timeline by its lemmas
attribute [irreducible] requestTimeline

end VerdictTimeline
