import QrTrust.Backend.ClaimsParsingProofs
import QrTrust.Backend.VerdictTimeline
import QrTrust.Lib.DecisionList

/-! # The time windows of a code

    `evaluate_time_windows` is a decision list over instants: the window of the
    issuer record, that of the key, which is held against the time of issue, and
    that of the claims, widened by the skew.  Where the widened boundaries are
    dates it raises nothing and reports the first window that is violated
    (`evaluateTimeWindows_exact`). -/

namespace TrustStore

open SignedSchema DestinationCanonicalization DecisionList Fallible VerdictTimeline

variable {py : PyRuntime}

/-! ## Aware datetimes -/

theorem lt_aware {a b : Datetime} (ha : a.utcoffset ≠ none) (hb : b.utcoffset ≠ none) :
    a.lt b = .ok (decide (a.instant < b.instant)) := by
  obtain ⟨offset, hoffset⟩ := Option.ne_none_iff_exists'.mp ha
  obtain ⟨offset', hoffset'⟩ := Option.ne_none_iff_exists'.mp hb
  simp [Datetime.lt, Datetime.compareKeys, Datetime.instant, hoffset, hoffset', Except.map]

theorem le_aware {a b : Datetime} (ha : a.utcoffset ≠ none) (hb : b.utcoffset ≠ none) :
    a.le b = .ok (decide (a.instant ≤ b.instant)) := by
  obtain ⟨offset, hoffset⟩ := Option.ne_none_iff_exists'.mp ha
  obtain ⟨offset', hoffset'⟩ := Option.ne_none_iff_exists'.mp hb
  simp [Datetime.le, Datetime.compareKeys, Datetime.instant, hoffset, hoffset', Except.map]

/-- The datetimes of the store and the clock have a timezone: they come from
    `TIMESTAMPTZ` columns and `datetime.now(UTC)`. -/
structure AwareWindows (now : Datetime) (key : KeyEntry) (issuer : IssuerRecord) : Prop where
  clock : now.utcoffset ≠ none
  record : AwareRecord issuer
  notBefore : key.notBefore.utcoffset ≠ none
  notAfter : ∀ notAfter, key.notAfter = some notAfter → notAfter.utcoffset ≠ none

/-- The boundary can be moved by the seconds: it stays between the years 1 and
    9999. -/
def CanMove (time : Datetime) (seconds : Int) : Prop :=
  0 ≤ time.wall + seconds * 1000000 ∧ time.wall + seconds * 1000000 ≤ Datetime.maxWall

/-- Moving a datetime moves its instant. -/
theorem CanMove.addSeconds_eq {time : Datetime} {seconds : Int} (h : CanMove time seconds) :
    ∃ moved, time.addSeconds seconds = .ok moved ∧ moved.utcoffset = time.utcoffset ∧
      moved.instant = time.instant + seconds * 1000000 := by
  refine ⟨_, if_pos h, rfl, ?_⟩
  simp only [Datetime.instant]
  omega

/-! ## The windows as a decision list -/

/-- A window that is violated answers with its refusal. -/
def violation (violated : Prop) [Decidable violated] (result : TrustRuleResult) :
    Option TrustRuleResult :=
  if violated then some result else none

/-- The windows in their order: the issuer record, the key, the claims. -/
def windowArms (now : Int) (issuedAt : Datetime) (expiresAt : Option Datetime) (key : KeyEntry)
    (issuer : IssuerRecord) (skewSeconds : Int) : List (Option TrustRuleResult) :=
  [ violation (now < issuer.issuedAt.instant)
      (refusal "issuer_status" "record-not-yet-valid" "Issuer record is not yet in force"),
    violation (∃ expiry ∈ issuer.expiresAt, expiry.instant ≤ now)
      (refusal "issuer_status" "record-expired" "Issuer record has expired"),
    violation (issuedAt.instant < key.notBefore.instant
        ∨ ∃ notAfter ∈ key.notAfter, notAfter.instant < issuedAt.instant)
      (refusal "key_status" "key-window-mismatch"
        ("Artifact was issued outside the validity window of key " ++ key.keyRef)),
    violation (now < issuedAt.instant - skewSeconds * 1000000)
      (refusal "time_window" "object-not-yet-valid" "Signed claims are not yet valid"),
    violation (∃ expiry ∈ expiresAt, expiry.instant + skewSeconds * 1000000 ≤ now)
      (refusal "time_window" "object-expired" "Signed claims have expired") ]

/-- The code is in all its windows: the issuer record is in force, the key was when
    the code was issued, and the clock, give or take the skew, is between the times
    of the claims. -/
structure InWindows (now : Int) (issuedAt : Datetime) (expiresAt : Option Datetime)
    (key : KeyEntry) (issuer : IssuerRecord) (skewSeconds : Int) : Prop where
  recordIssued : issuer.issuedAt.instant ≤ now
  recordExpires : ∀ expiry ∈ issuer.expiresAt, now < expiry.instant
  keyNotBefore : key.notBefore.instant ≤ issuedAt.instant
  keyNotAfter : ∀ notAfter ∈ key.notAfter, issuedAt.instant ≤ notAfter.instant
  claimsIssued : issuedAt.instant - skewSeconds * 1000000 ≤ now
  claimsExpire : ∀ expiry ∈ expiresAt, now < expiry.instant + skewSeconds * 1000000

theorem outsideKeyWindow_aware {now : Datetime} {key : KeyEntry} {issuer : IssuerRecord}
    (haware : AwareWindows now key issuer) {issuedAt : Datetime}
    (hissued : issuedAt.utcoffset ≠ none) :
    outsideKeyWindow key issuedAt = .ok (decide (issuedAt.instant < key.notBefore.instant
      ∨ ∃ notAfter ∈ key.notAfter, notAfter.instant < issuedAt.instant)) := by
  rw [outsideKeyWindow, lt_aware hissued haware.notBefore]
  by_cases hearly : issuedAt.instant < key.notBefore.instant
  · simp [hearly, bind, Except.bind, pure, Except.pure]
  · cases hafter : key.notAfter with
    | none => simp [hearly, bind, Except.bind, pure, Except.pure]
    | some notAfter =>
        simp [hearly, bind, Except.bind, lt_aware (haware.notAfter _ hafter) hissued]

theorem recordExpired_aware {now : Datetime} {key : KeyEntry} {issuer : IssuerRecord}
    (haware : AwareWindows now key issuer) :
    recordExpired now issuer.expiresAt
      = .ok (decide (∃ expiry ∈ issuer.expiresAt, expiry.instant ≤ now.instant)) := by
  cases hexpires : issuer.expiresAt with
  | none => simp [recordExpired]
  | some expiry =>
      rw [recordExpired, le_aware (haware.record.expiresAt _ hexpires) haware.clock]
      simp

theorem claimsExpired_aware {now : Datetime} (hclock : now.utcoffset ≠ none)
    {claims : SignedQRCodeClaims} {issuedAt : Datetime} {expiresAt : Option Datetime}
    (htimes : HasTimes py claims issuedAt expiresAt) {skewSeconds : Int}
    (hmove : ∀ expiry ∈ expiresAt, CanMove expiry skewSeconds) :
    claimsExpired py now claims.expiresAt skewSeconds
      = .ok (decide (∃ expiry ∈ expiresAt,
          expiry.instant + skewSeconds * 1000000 ≤ now.instant)) := by
  cases htext : claims.expiresAt with
  | none =>
      rw [htimes.openEnded htext]
      simp [claimsExpired]
  | some text =>
      obtain ⟨expiry, rfl, hparse, -⟩ := htimes.expires text htext
      obtain ⟨moved, hmoved, hoffset, hinstant⟩ := (hmove expiry rfl).addSeconds_eq
      have haware : moved.utcoffset ≠ none := by
        rw [hoffset]
        exact aware_of_parseClaimTimestamp py hparse
      rw [claimsExpired, hparse]
      show (expiry.addSeconds skewSeconds).bind _ = _
      rw [hmoved]
      show moved.le now = _
      rw [le_aware haware hclock, hinstant]
      simp

/-- **DECISION LIST**: the evaluation is the first violated window, or acceptance. -/
theorem evaluateTimeWindows_eq {now : Datetime} {key : KeyEntry} {issuer : IssuerRecord}
    (haware : AwareWindows now key issuer) {claims : SignedQRCodeClaims} {issuedAt : Datetime}
    {expiresAt : Option Datetime} (htimes : HasTimes py claims issuedAt expiresAt)
    {skewSeconds : Int} (hstart : CanMove issuedAt (-skewSeconds))
    (hstop : ∀ expiry ∈ expiresAt, CanMove expiry skewSeconds) :
    evaluateTimeWindows py now claims key issuer skewSeconds
      = .ok (firstAnswer (windowArms now.instant issuedAt expiresAt key issuer skewSeconds)
          accepted) := by
  have hissued := aware_of_parseClaimTimestamp py htimes.issued
  obtain ⟨start, hmoved, hoffset, hinstant⟩ := hstart.addSeconds_eq
  have hstartAware : start.utcoffset ≠ none := hoffset ▸ hissued
  have hsub : start.instant = issuedAt.instant - skewSeconds * 1000000 := by
    rw [hinstant]
    omega
  rw [evaluateTimeWindows, lt_aware haware.clock haware.record.issuedAt,
    recordExpired_aware haware, htimes.issued]
  simp only [bind, Except.bind, outsideKeyWindow_aware haware hissued, hmoved,
    lt_aware haware.clock hstartAware, claimsExpired_aware haware.clock htimes hstop, hsub,
    decide_eq_true_eq, windowArms, violation]
  split
  · rfl
  split
  · rfl
  split
  · rfl
  split
  · rfl
  split
  · rfl
  · rfl

theorem violation_eq_none_iff {violated : Prop} [Decidable violated] {result : TrustRuleResult} :
    violation violated result = none ↔ ¬ violated := by
  rw [violation]
  split
  · rename_i h
    exact ⟨fun hnone => (nomatch hnone), fun hnot => absurd h hnot⟩
  · rename_i h
    exact ⟨fun _ => h, fun _ => rfl⟩

/-- A violated window does not accept. -/
theorem not_allowed_of_mem_windowArms {now : Int} {issuedAt : Datetime}
    {expiresAt : Option Datetime} {key : KeyEntry} {issuer : IssuerRecord} {skewSeconds : Int}
    {result : TrustRuleResult}
    (h : some result ∈ windowArms now issuedAt expiresAt key issuer skewSeconds) :
    result.allowed ≠ true := by
  have hviolation : ∀ {violated : Prop} [Decidable violated] {stage cause reason : String},
      some result = violation violated (refusal stage cause reason) → result.allowed ≠ true := by
    intro violated _ stage cause reason heq
    rw [violation] at heq
    split at heq
    · obtain rfl := Option.some.inj heq
      exact Bool.false_ne_true
    · cases heq
  simp only [windowArms, List.mem_cons, List.not_mem_nil, or_false] at h
  rcases h with h | h | h | h | h <;> exact hviolation h

/-- **ACCEPTED**: the first violated window accepts exactly where none is. -/
theorem firstAnswer_windowArms_allowed_iff {now : Int} {issuedAt : Datetime}
    {expiresAt : Option Datetime} {key : KeyEntry} {issuer : IssuerRecord} {skewSeconds : Int} :
    (firstAnswer (windowArms now issuedAt expiresAt key issuer skewSeconds) accepted).allowed = true
      ↔ InWindows now issuedAt expiresAt key issuer skewSeconds := by
  constructor
  · intro h
    obtain ⟨hsilent, -⟩ := firstAnswer_of_unanswered (fun result : TrustRuleResult => result.allowed = true)
      (fun result => not_allowed_of_mem_windowArms) h
    simp only [windowArms, List.forall_mem_cons, violation_eq_none_iff] at hsilent
    obtain ⟨hissued, hexpired, hkey, hearly, hlate, -⟩ := hsilent
    obtain ⟨hbefore, hafter⟩ := not_or.mp hkey
    exact ⟨not_lt.mp hissued, fun expiry hexpiry => not_le.mp fun h => hexpired ⟨expiry, hexpiry, h⟩,
      not_lt.mp hbefore, fun notAfter hnot => not_lt.mp fun h => hafter ⟨notAfter, hnot, h⟩,
      not_lt.mp hearly, fun expiry hexpiry => not_le.mp fun h => hlate ⟨expiry, hexpiry, h⟩⟩
  · intro h
    rw [firstAnswer_eq_default]
    · rfl
    · simp only [windowArms, List.forall_mem_cons, violation_eq_none_iff]
      refine ⟨not_lt.mpr h.recordIssued, ?_, not_or.mpr ⟨not_lt.mpr h.keyNotBefore, ?_⟩,
        not_lt.mpr h.claimsIssued, ?_, fun arm harm => absurd harm List.not_mem_nil⟩
      · rintro ⟨expiry, hexpiry, hpast⟩
        exact absurd (h.recordExpires expiry hexpiry) (not_lt.mpr hpast)
      · rintro ⟨notAfter, hnot, hpast⟩
        exact absurd (h.keyNotAfter notAfter hnot) (not_le.mpr hpast)
      · rintro ⟨expiry, hexpiry, hpast⟩
        exact absurd (h.claimsExpire expiry hexpiry) (not_lt.mpr hpast)

/-! ## Exact evaluation -/

/-- The times of the claims can be moved by the skew. -/
def MovesWithin (py : PyRuntime) (claims : SignedQRCodeClaims) (skewSeconds : Int) : Prop :=
  ∀ issuedAt expiresAt, HasTimes py claims issuedAt expiresAt →
    CanMove issuedAt (-skewSeconds) ∧ ∀ expiry ∈ expiresAt, CanMove expiry skewSeconds

/-- The evaluation is exact: it raises nothing, accepts exactly what is in `inside`
    and else reports the first violated window. -/
def EvaluatesExactly (py : PyRuntime) (now : Datetime) (claims : SignedQRCodeClaims)
    (key : KeyEntry) (issuer : IssuerRecord) (skewSeconds : Int)
    (inside : Datetime → Option Datetime → Prop) : Prop :=
  ∃ issuedAt expiresAt result, HasTimes py claims issuedAt expiresAt ∧
    evaluateTimeWindows py now claims key issuer skewSeconds = .ok result ∧
    (result.allowed = true ↔ inside issuedAt expiresAt) ∧
    result = firstAnswer (windowArms now.instant issuedAt expiresAt key issuer skewSeconds) accepted

/-- **TIME WINDOWS**: for accepted claims whose times can be moved by the skew the
    evaluation is exact, the window of the key held against the time of issue. -/
theorem evaluateTimeWindows_exact {data : OrderedMap String PyJson}
    {claims : SignedQRCodeClaims} (hclaims : parseClaimsMapping py data = .ok claims)
    {now : Datetime} {key : KeyEntry} {issuer : IssuerRecord}
    (haware : AwareWindows now key issuer) {skewSeconds : Int}
    (hmoves : MovesWithin py claims skewSeconds) :
    EvaluatesExactly py now claims key issuer skewSeconds fun issuedAt expiresAt =>
      InWindows now.instant issuedAt expiresAt key issuer skewSeconds := by
  obtain ⟨issuedAt, expiresAt, htimes⟩ := (isNormal_of_parsed hclaims).times
  obtain ⟨hstart, hstop⟩ := hmoves issuedAt expiresAt htimes
  exact ⟨issuedAt, expiresAt, _, htimes, evaluateTimeWindows_eq haware htimes hstart hstop,
    firstAnswer_windowArms_allowed_iff, rfl⟩

/-! ## A retired key -/

/-- The clock is in every window, that of the key too. -/
structure ClockInWindows (now : Int) (issuedAt : Datetime) (expiresAt : Option Datetime)
    (key : KeyEntry) (issuer : IssuerRecord) (skewSeconds : Int) : Prop where
  recordIssued : issuer.issuedAt.instant ≤ now
  recordExpires : ∀ expiry ∈ issuer.expiresAt, now < expiry.instant
  keyNotBefore : key.notBefore.instant ≤ now
  keyNotAfter : ∀ notAfter ∈ key.notAfter, now ≤ notAfter.instant
  claimsIssued : issuedAt.instant - skewSeconds * 1000000 ≤ now
  claimsExpire : ∀ expiry ∈ expiresAt, now < expiry.instant + skewSeconds * 1000000

/-- A runtime that knows one timestamp. -/
def januaryRuntime : PyRuntime :=
  { fullStopRuntime with
    fromisoformat := fun text =>
      if text = "2026-01-01T00:00:00+00:00" then some (.utc 63902822400000000) else none }

/-- Claims issued in January 2026. -/
def januaryClaims : SignedQRCodeClaims :=
  ⟨"2", "issuer-key-1", "2026-01-01T00:00:00Z", none, "https://acme.example/"⟩

/-- The mapping of these claims. -/
def januaryData : OrderedMap String PyJson :=
  ⟨[("version", .str "2"), ("certificate_ref", .str "issuer-key-1"),
    ("issued_at", .str "2026-01-01T00:00:00Z"), ("expires_at", .none),
    ("payload", .str "https://acme.example/")], by decide⟩

/-- A key that was retired in February 2026. -/
def februaryKey : KeyEntry :=
  ⟨"issuer-key-1", "issuer", supportedAlgorithmId, some "pem", .retired, .utc 0,
    some (.utc 63905500800000000), none, none, .ephemeral⟩

/-- An issuer record without an end. -/
def openIssuer : IssuerRecord :=
  ⟨"issuer", "Issuer", "root", .active, .utc 0, none, .empty, false, .ephemeral⟩

theorem parse_januaryData : parseClaimsMapping januaryRuntime januaryData = .ok januaryClaims := by
  decide +kernel

theorem awareWindows_february {now : Int} : AwareWindows (.utc now) februaryKey openIssuer :=
  ⟨Option.some_ne_none _, ⟨Option.some_ne_none _, fun _ h => (nomatch h)⟩, Option.some_ne_none _,
    fun _ h => Option.some.inj h ▸ Option.some_ne_none _⟩

/-- In March the code of January is accepted, outside the window of its key. -/
theorem evaluateTimeWindows_after_retirement :
    parseClaimsMapping januaryRuntime januaryData = .ok januaryClaims ∧
      ¬ ∃ issuedAt expiresAt result, HasTimes januaryRuntime januaryClaims issuedAt expiresAt ∧
        evaluateTimeWindows januaryRuntime (.utc 63907920000000000) januaryClaims februaryKey
          openIssuer 30 = .ok result ∧
        (result.allowed = true ↔
          ClockInWindows 63907920000000000 issuedAt expiresAt februaryKey openIssuer 30) := by
  refine ⟨parse_januaryData, ?_⟩
  rintro ⟨issuedAt, expiresAt, result, -, hresult, hallowed⟩
  have hrun : (evaluateTimeWindows januaryRuntime (.utc 63907920000000000) januaryClaims februaryKey
      openIssuer 30).toOption = some accepted := by
    decide +kernel
  obtain rfl := Except.ok.inj ((toOption_eq_some_iff.mp hrun).symm.trans hresult)
  have hcurrent := (hallowed.mp rfl).keyNotAfter _ rfl
  exact absurd hcurrent (by decide)

theorem evaluateTimeWindows_exact_january :
    EvaluatesExactly januaryRuntime (.utc 63907920000000000) januaryClaims februaryKey openIssuer 30
      fun issuedAt expiresAt =>
        InWindows (Datetime.utc 63907920000000000).instant issuedAt expiresAt februaryKey openIssuer
          30 := by
  refine evaluateTimeWindows_exact parse_januaryData awareWindows_february ?_
  rintro issuedAt expiresAt ⟨hissued, hopen, -⟩
  have hparsed : (parseClaimTimestamp januaryRuntime "issued_at"
      januaryClaims.issuedAt).toOption = some (.utc 63902822400000000) := by
    decide +kernel
  obtain rfl := Except.ok.inj ((toOption_eq_some_iff.mp hparsed).symm.trans hissued)
  obtain rfl := hopen rfl
  exact ⟨⟨by decide, by decide⟩, fun _ h => (nomatch h)⟩

end TrustStore
