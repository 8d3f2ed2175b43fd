import QrTrust.Backend.DemoMaterials
import QrTrust.Backend.ScannerRecord
import QrTrust.Backend.TimeWindowProofs

/-! # Retired keys

    `retire_keys_for` ends the window of a key now, also where it had ended before.
    So it widens what is accepted by exactly the artifacts that were issued after
    the old end and that nothing else refuses (`widensNothing_iff`); a key whose
    window is still open loses nothing that was issued before
    (`widensNothing_of_openWindows`). -/

namespace TrustStore

open SignedSchema Fallible DestinationCanonicalization

variable {py : PyRuntime}

/-! ## What an evaluation takes of the key -/

/-- The last rules, on the times of the claims themselves. -/
def claimsWindow (py : PyRuntime) (now : Datetime) (claims : SignedQRCodeClaims)
    (skewSeconds : Int) (issuedAt : Datetime) : Except PyError TrustRuleResult := do
  if ← now.lt (← issuedAt.addSeconds (-skewSeconds)) then
    return refusal "time_window" "object-not-yet-valid" "Signed claims are not yet valid"
  if ← claimsExpired py now claims.expiresAt skewSeconds then
    return refusal "time_window" "object-expired" "Signed claims have expired"
  return accepted

/-- The issuer record is in force. -/
structure RecordInForce (now : Datetime) (issuer : IssuerRecord) : Prop where
  issued : issuer.issuedAt.instant ≤ now.instant
  expires : ∀ expiry ∈ issuer.expiresAt, now.instant < expiry.instant

/-- The artifact was issued outside the window of the key. -/
def OutsideWindow (key : KeyEntry) (issuedAt : Datetime) : Prop :=
  issuedAt.instant < key.notBefore.instant
    ∨ ∃ notAfter ∈ key.notAfter, notAfter.instant < issuedAt.instant

instance (key : KeyEntry) (issuedAt : Datetime) : Decidable (OutsideWindow key issuedAt) :=
  inferInstanceAs (Decidable (issuedAt.instant < key.notBefore.instant
    ∨ ∃ notAfter ∈ key.notAfter, notAfter.instant < issuedAt.instant))

/-- The evaluation refuses. -/
def IsRejected (r : Except PyError TrustRuleResult) : Prop :=
  ∃ result, r = .ok result ∧ result.allowed = false

/-- The evaluation accepts. -/
def IsAccepted (r : Except PyError TrustRuleResult) : Prop :=
  ∃ result, r = .ok result ∧ result.allowed = true

theorem isRejected_refusal (stage cause reason : String) :
    IsRejected (.ok (refusal stage cause reason)) := ⟨_, rfl, rfl⟩

theorem IsRejected.not_isAccepted {r : Except PyError TrustRuleResult} (h : IsRejected r) :
    ¬ IsAccepted r := by
  rintro ⟨result, hresult, hallowed⟩
  obtain ⟨refused, hrefused, hnot⟩ := h
  obtain rfl := Except.ok.inj (hresult.symm.trans hrefused)
  rw [hnot] at hallowed
  cases hallowed

section
variable {now : Datetime} {claims : SignedQRCodeClaims} {key : KeyEntry} {issuer : IssuerRecord}
  {skewSeconds : Int} {issuedAt : Datetime}

theorem isRejected_of_blocked {blocking : TrustRuleResult}
    (h : evaluateBlockingStates key issuer = some blocking) : blocking.allowed = false := by
  rw [evaluateBlockingStates] at h
  cases hissuer : issuer.status with
  | active =>
      rw [hissuer] at h
      cases hkey : key.state with
      | active =>
          rw [hkey] at h
          cases h
      | retired =>
          rw [hkey] at h
          cases h
      | revoked =>
          rw [hkey] at h
          obtain rfl := Option.some.inj h
          rfl
      | suspended =>
          rw [hkey] at h
          obtain rfl := Option.some.inj h
          rfl
  | suspended =>
      rw [hissuer] at h
      obtain rfl := Option.some.inj h
      rfl
  | revoked =>
      rw [hissuer] at h
      obtain rfl := Option.some.inj h
      rfl
  | expired =>
      rw [hissuer] at h
      obtain rfl := Option.some.inj h
      rfl

/-- **OUT OF FORCE**: the issuer record refuses whatever the key is. -/
theorem evaluateTimeWindows_outOfForce (haware : AwareWindows now key issuer)
    (hrecord : ¬ RecordInForce now issuer) :
    IsRejected (evaluateTimeWindows py now claims key issuer skewSeconds) := by
  rw [evaluateTimeWindows, lt_aware haware.clock haware.record.issuedAt,
    recordExpired_aware haware]
  by_cases hissued : now.instant < issuer.issuedAt.instant
  · simp only [bind, Except.bind, decide_eq_true_eq, if_pos hissued]
    exact isRejected_refusal ..
  · by_cases hexpired : ∃ expiry ∈ issuer.expiresAt, expiry.instant ≤ now.instant
    · simp only [bind, Except.bind, decide_eq_true_eq, if_neg hissued, if_pos hexpired]
      exact isRejected_refusal ..
    · exact absurd ⟨not_lt.mp hissued, fun expiry hexpiry =>
        not_le.mp fun hle => hexpired ⟨expiry, hexpiry, hle⟩⟩ hrecord

theorem evaluateTimeWindows_inForce (haware : AwareWindows now key issuer)
    (hrecord : RecordInForce now issuer)
    (hissued : parseClaimTimestamp py "issued_at" claims.issuedAt = .ok issuedAt) :
    evaluateTimeWindows py now claims key issuer skewSeconds
      = (outsideKeyWindow key issuedAt).bind fun outside =>
          if outside then .ok (refusal "key_status" "key-window-mismatch"
            ("Artifact was issued outside the validity window of key " ++ key.keyRef))
          else claimsWindow py now claims skewSeconds issuedAt := by
  have hnotExpired : ¬ ∃ expiry ∈ issuer.expiresAt, expiry.instant ≤ now.instant := by
    rintro ⟨expiry, hexpiry, hle⟩
    exact absurd (hrecord.expires expiry hexpiry) (not_lt.mpr hle)
  rw [evaluateTimeWindows, lt_aware haware.clock haware.record.issuedAt,
    recordExpired_aware haware, hissued]
  simp only [bind, Except.bind, decide_eq_true_eq, if_neg (not_lt.mpr hrecord.issued),
    if_neg hnotExpired]
  rfl

theorem outsideKeyWindow_eq (haware : AwareWindows now key issuer)
    (hissued : parseClaimTimestamp py "issued_at" claims.issuedAt = .ok issuedAt) :
    outsideKeyWindow key issuedAt = .ok (decide (OutsideWindow key issuedAt)) :=
  outsideKeyWindow_aware haware (VerdictTimeline.aware_of_parseClaimTimestamp py hissued)

/-- **OUTSIDE**: the window of the key refuses. -/
theorem evaluateTimeWindows_outside (haware : AwareWindows now key issuer)
    (hrecord : RecordInForce now issuer)
    (hissued : parseClaimTimestamp py "issued_at" claims.issuedAt = .ok issuedAt)
    (hout : OutsideWindow key issuedAt) :
    IsRejected (evaluateTimeWindows py now claims key issuer skewSeconds) := by
  rw [evaluateTimeWindows_inForce haware hrecord hissued,
    outsideKeyWindow_eq haware hissued, decide_eq_true hout]
  exact isRejected_refusal ..

/-- **INSIDE**: the times of the claims decide, whatever the key is. -/
theorem evaluateTimeWindows_inside (haware : AwareWindows now key issuer)
    (hrecord : RecordInForce now issuer)
    (hissued : parseClaimTimestamp py "issued_at" claims.issuedAt = .ok issuedAt)
    (hin : ¬ OutsideWindow key issuedAt) :
    evaluateTimeWindows py now claims key issuer skewSeconds
      = claimsWindow py now claims skewSeconds issuedAt := by
  rw [evaluateTimeWindows_inForce haware hrecord hissued,
    outsideKeyWindow_eq haware hissued, decide_eq_false hin]
  rfl

/-- The claims are refused for their own times, the boundaries being dates. -/
def ClaimsRefused (now : Datetime) (issuedAt : Datetime) (expiresAt : Option Datetime)
    (skewSeconds : Int) : Prop :=
  CanMove issuedAt (-skewSeconds) ∧
    (now.instant < issuedAt.instant - skewSeconds * 1000000 ∨
      ∃ expiry ∈ expiresAt, CanMove expiry skewSeconds ∧
        expiry.instant + skewSeconds * 1000000 ≤ now.instant)

theorem addSeconds_of_not_canMove {time : Datetime} {seconds : Int}
    (h : ¬ CanMove time seconds) : time.addSeconds seconds = .error .overflowError := if_neg h

theorem isRejected_claimsExpired (hnow : now.utcoffset ≠ none) {expiresAt : Option Datetime}
    (htimes : HasTimes py claims issuedAt expiresAt) :
    IsRejected ((claimsExpired py now claims.expiresAt skewSeconds).bind fun expired =>
        if expired then .ok (refusal "time_window" "object-expired" "Signed claims have expired")
        else .ok accepted) ↔
      ∃ expiry ∈ expiresAt, CanMove expiry skewSeconds ∧
        expiry.instant + skewSeconds * 1000000 ≤ now.instant := by
  cases htext : claims.expiresAt with
  | none =>
      rw [htimes.openEnded htext]
      constructor
      · rintro ⟨result, hresult, hnot⟩
        obtain rfl := Except.ok.inj hresult
        cases hnot
      · rintro ⟨expiry, hexpiry, -⟩
        cases hexpiry
  | some text =>
      obtain ⟨expiry, rfl, hparse, -⟩ := htimes.expires text htext
      have hexpired : claimsExpired py now (some text) skewSeconds
          = (expiry.addSeconds skewSeconds).bind fun moved => moved.le now := by
        rw [claimsExpired, hparse]
        rfl
      rw [hexpired]
      by_cases hmove : CanMove expiry skewSeconds
      · obtain ⟨moved, hmoved, hoffset, hinstant⟩ := hmove.addSeconds_eq
        have hmovedAware : moved.utcoffset ≠ none :=
          hoffset ▸ VerdictTimeline.aware_of_parseClaimTimestamp py hparse
        rw [hmoved]
        show IsRejected ((moved.le now).bind _) ↔ _
        rw [le_aware hmovedAware hnow, hinstant]
        by_cases hpast : expiry.instant + skewSeconds * 1000000 ≤ now.instant
        · rw [decide_eq_true hpast]
          exact ⟨fun _ => ⟨expiry, rfl, hmove, hpast⟩, fun _ => isRejected_refusal ..⟩
        · rw [decide_eq_false hpast]
          constructor
          · rintro ⟨result, hresult, hnot⟩
            obtain rfl := Except.ok.inj hresult
            cases hnot
          · rintro ⟨expiry', hexpiry, -, hle⟩
            obtain rfl := Option.some.inj hexpiry
            exact absurd hle hpast
      · rw [addSeconds_of_not_canMove hmove]
        constructor
        · rintro ⟨result, hresult, -⟩
          cases hresult
        · rintro ⟨expiry', hexpiry, hmoves, -⟩
          obtain rfl := Option.some.inj hexpiry
          exact absurd hmoves hmove

/-- **OWN TIMES**: what the last rules refuse. -/
theorem isRejected_claimsWindow_iff (hnow : now.utcoffset ≠ none) {expiresAt : Option Datetime}
    (htimes : HasTimes py claims issuedAt expiresAt) :
    IsRejected (claimsWindow py now claims skewSeconds issuedAt) ↔
      ClaimsRefused now issuedAt expiresAt skewSeconds := by
  have hissued := VerdictTimeline.aware_of_parseClaimTimestamp py htimes.issued
  by_cases hmove : CanMove issuedAt (-skewSeconds)
  · obtain ⟨start, hmoved, hoffset, hinstant⟩ := hmove.addSeconds_eq
    have hlt : now.lt start
        = .ok (decide (now.instant < issuedAt.instant - skewSeconds * 1000000)) := by
      rw [lt_aware hnow (hoffset ▸ hissued), hinstant]
      congr 2
      exact propext (by omega)
    rw [ClaimsRefused, and_iff_right hmove, ← isRejected_claimsExpired hnow htimes, claimsWindow,
      hmoved]
    simp only [bind, Except.bind, hlt, decide_eq_true_eq]
    by_cases hearly : now.instant < issuedAt.instant - skewSeconds * 1000000
    · rw [if_pos hearly]
      exact ⟨fun _ => .inl hearly, fun _ => isRejected_refusal ..⟩
    · rw [if_neg hearly, or_iff_right hearly]
      rfl
  · rw [claimsWindow, addSeconds_of_not_canMove hmove]
    constructor
    · rintro ⟨result, hresult, -⟩
      cases hresult
    · rintro ⟨hmoves, -⟩
      exact absurd hmoves hmove

end

/-! ## One key -/

/-- A key that was retired. -/
def KeyEntry.retiredAt (key : KeyEntry) (retiredAt : Datetime) : KeyEntry :=
  { key with state := .retired, notAfter := some retiredAt }

/-- The artifact is reopened by retiring the key: the key had ended when it was issued,
    and nothing but that refuses it. -/
structure Reopens (retiredAt now : Datetime) (key : KeyEntry) (issuer : IssuerRecord)
    (skewSeconds : Int) (issuedAt : Datetime) (expiresAt : Option Datetime) : Prop where
  active : issuer.status = .active
  inForce : RecordInForce now issuer
  started : key.notBefore.instant ≤ issuedAt.instant
  ended : ∃ notAfter ∈ key.notAfter, notAfter.instant < issuedAt.instant
  reached : issuedAt.instant ≤ retiredAt.instant
  unrefused : ¬ ClaimsRefused now issuedAt expiresAt skewSeconds

section
variable {now retiredAt : Datetime} {claims : SignedQRCodeClaims} {key : KeyEntry}
  {issuer : IssuerRecord} {skewSeconds : Int} {issuedAt : Datetime} {expiresAt : Option Datetime}

theorem evaluateBlockingStates_retiredAt (hactive : key.state = .active) :
    evaluateBlockingStates (key.retiredAt retiredAt) issuer = evaluateBlockingStates key issuer := by
  rw [evaluateBlockingStates, evaluateBlockingStates, hactive]
  rfl

theorem evaluateBlockingStates_of_active (hactive : key.state = .active)
    (hissuer : issuer.status = .active) : evaluateBlockingStates key issuer = none := by
  rw [evaluateBlockingStates, hissuer, hactive]

theorem active_of_evaluateBlockingStates (h : evaluateBlockingStates key issuer = none) :
    issuer.status = .active := by
  rw [evaluateBlockingStates] at h
  cases hissuer : issuer.status with
  | active => rfl
  | suspended =>
      rw [hissuer] at h
      cases h
  | revoked =>
      rw [hissuer] at h
      cases h
  | expired =>
      rw [hissuer] at h
      cases h

theorem outsideWindow_retiredAt_iff :
    OutsideWindow (key.retiredAt retiredAt) issuedAt ↔
      issuedAt.instant < key.notBefore.instant ∨ retiredAt.instant < issuedAt.instant := by
  constructor
  · rintro (hearly | ⟨notAfter, hnotAfter, hlate⟩)
    · exact .inl hearly
    · obtain rfl := Option.some.inj hnotAfter
      exact .inr hlate
  · rintro (hearly | hlate)
    · exact .inl hearly
    · exact .inr ⟨retiredAt, rfl, hlate⟩

/-- What retiring the key leaves of the evaluations of an artifact: what was refused is
    refused, and what was accepted and issued before is accepted. -/
structure KeepsVerdict (before after : Except PyError TrustRuleResult)
    (issuedAt retiredAt : Datetime) : Prop where
  rejected : IsRejected before → IsRejected after
  accepted : IsAccepted before → issuedAt.instant < retiredAt.instant → IsAccepted after

theorem KeepsVerdict.of_isRejected {before after : Except PyError TrustRuleResult}
    (hbefore : IsRejected before) (hafter : IsRejected after) :
    KeepsVerdict before after issuedAt retiredAt :=
  ⟨fun _ => hafter, fun haccepted _ => absurd haccepted hbefore.not_isAccepted⟩

theorem AwareWindows.retire (h : AwareWindows now key issuer)
    (hretired : retiredAt.utcoffset ≠ none) :
    AwareWindows now (key.retiredAt retiredAt) issuer :=
  ⟨h.clock, h.record, h.notBefore, fun _ hnotAfter => Option.some.inj hnotAfter ▸ hretired⟩

/-- **ONE KEY**: retiring an active key widens exactly what it reopens. -/
theorem keepsVerdict_retiredAt_iff (hactive : key.state = .active)
    (haware : AwareWindows now key issuer) (hretired : retiredAt.utcoffset ≠ none)
    (htimes : HasTimes py claims issuedAt expiresAt) :
    KeepsVerdict (evaluateTrustWindow py now claims key issuer skewSeconds)
        (evaluateTrustWindow py now claims (key.retiredAt retiredAt) issuer skewSeconds)
        issuedAt retiredAt ↔
      ¬ Reopens retiredAt now key issuer skewSeconds issuedAt expiresAt := by
  have hblocking := @evaluateBlockingStates_retiredAt retiredAt key issuer hactive
  rw [evaluateTrustWindow, evaluateTrustWindow, hblocking]
  cases hblocked : evaluateBlockingStates key issuer with
  | some blocking =>
      have hrejected : IsRejected (.ok blocking) := ⟨_, rfl, isRejected_of_blocked hblocked⟩
      refine ⟨fun _ hreopens => ?_, fun _ => .of_isRejected hrejected hrejected⟩
      rw [evaluateBlockingStates_of_active hactive hreopens.active] at hblocked
      cases hblocked
  | none =>
      dsimp only
      by_cases hrecord : RecordInForce now issuer
      · have hbefore := @evaluateTimeWindows_inside py now claims key issuer skewSeconds issuedAt
          haware hrecord htimes.issued
        have hafter := @evaluateTimeWindows_inside py now claims (key.retiredAt retiredAt) issuer
          skewSeconds issuedAt (haware.retire hretired) hrecord htimes.issued
        by_cases hout : OutsideWindow key issuedAt
        · have hrejected := @evaluateTimeWindows_outside py now claims key issuer skewSeconds
            issuedAt haware hrecord htimes.issued hout
          by_cases hout' : OutsideWindow (key.retiredAt retiredAt) issuedAt
          · refine ⟨fun _ hreopens => ?_, fun _ => .of_isRejected hrejected
              (evaluateTimeWindows_outside (haware.retire hretired) hrecord htimes.issued hout')⟩
            rcases outsideWindow_retiredAt_iff.mp hout' with hearly | hlate
            · exact absurd hreopens.started (not_le.mpr hearly)
            · exact absurd hreopens.reached (not_le.mpr hlate)
          · -- only the old end refused it
            obtain ⟨hstarted, hreached⟩ := not_or.mp
              (fun h => hout' (outsideWindow_retiredAt_iff.mpr h))
            have hended := hout.resolve_left hstarted
            rw [hafter hout']
            constructor
            · intro hkeeps hreopens
              exact hreopens.unrefused ((isRejected_claimsWindow_iff haware.clock htimes).mp
                (hkeeps.rejected hrejected))
            · intro hnot
              refine .of_isRejected hrejected
                ((isRejected_claimsWindow_iff haware.clock htimes).mpr ?_)
              by_contra hunrefused
              exact hnot ⟨active_of_evaluateBlockingStates hblocked, hrecord, not_lt.mp hstarted,
                hended, not_lt.mp hreached, hunrefused⟩
        · refine ⟨fun _ hreopens => hout (.inr hreopens.ended), fun _ => ?_⟩
          by_cases hout' : OutsideWindow (key.retiredAt retiredAt) issuedAt
          · refine ⟨fun _ => evaluateTimeWindows_outside (haware.retire hretired) hrecord
              htimes.issued hout', fun _ hbefore' => ?_⟩
            rcases outsideWindow_retiredAt_iff.mp hout' with hearly | hlate
            · exact absurd (Or.inl hearly) hout
            · exact absurd hbefore' (not_lt.mpr hlate.le)
          · rw [hbefore hout, hafter hout']
            exact ⟨fun h => h, fun h _ => h⟩
      · exact ⟨fun _ hreopens => hrecord hreopens.inForce, fun _ => .of_isRejected
          (evaluateTimeWindows_outOfForce haware hrecord)
          (evaluateTimeWindows_outOfForce (haware.retire hretired) hrecord)⟩

end

/-! ## Stores -/

/-- The operations on the store. -/
inductive StoreOperation (Defect : Type) where
  | putIssuer (record : IssuerRecord)
  | putKey (entry : KeyEntry)
  | retireKeysFor (issuerId : String) (now : Datetime) (exceptKeyRef : String)
  | replaceProjection (issuers : List IssuerRecord) (keys : List KeyEntry) (defects : List Defect)

/-- The datetimes of the key have a timezone. -/
structure AwareKey (key : KeyEntry) : Prop where
  notBefore : key.notBefore.utcoffset ≠ none
  notAfter : ∀ notAfter, key.notAfter = some notAfter → notAfter.utcoffset ≠ none

/-- The datetimes of the operation have a timezone, as their sources promise. -/
def StoreOperation.IsAware {Defect : Type} : StoreOperation Defect → Prop
  | .putIssuer record => VerdictTimeline.AwareRecord record
  | .putKey entry => AwareKey entry
  | .retireKeysFor _ now _ => now.utcoffset ≠ none
  | .replaceProjection issuers keys _ =>
      (∀ record ∈ issuers, VerdictTimeline.AwareRecord record) ∧ ∀ entry ∈ keys, AwareKey entry

variable {Governance Defect : Type}

/-- The store after an operation; one that raises leaves it. -/
def StoreOperation.apply (py : PyRuntime) (store : ScannerTrustStore Governance Defect) :
    StoreOperation Defect → ScannerTrustStore Governance Defect
  | .putIssuer record => (store.putIssuer py record).toOption.getD store
  | .putKey entry => (store.putKey py entry).toOption.getD store
  | .retireKeysFor issuerId now exceptKeyRef => store.retireKeysFor issuerId now exceptKeyRef
  | .replaceProjection issuers keys defects => store.replaceProjection issuers keys defects

/-- The store after a run of operations. -/
def storeAfter (Governance : Type) (py : PyRuntime) (operations : List (StoreOperation Defect)) :
    ScannerTrustStore Governance Defect :=
  operations.foldl (StoreOperation.apply py) .empty

/-- The datetimes of the store have a timezone. -/
structure AwareStore (store : ScannerTrustStore Governance Defect) : Prop where
  issuers : ∀ issuerId record, store.issuers.get? issuerId = some record →
    VerdictTimeline.AwareRecord record
  keys : ∀ keyRef key, store.keys.get? keyRef = some key → AwareKey key

/-- The call retires the key. -/
structure IsRetired (issuerId exceptKeyRef keyRef : String) (key : KeyEntry) : Prop where
  issuer : key.issuerId = issuerId
  other : keyRef ≠ exceptKeyRef
  active : key.state = .active

theorem get?_retireKeysFor {store : ScannerTrustStore Governance Defect} {keyRef : String}
    {key : KeyEntry} (hkey : store.keys.get? keyRef = some key) (issuerId : String)
    (retiredAt : Datetime) (exceptKeyRef : String) :
    (IsRetired issuerId exceptKeyRef keyRef key ∧
        (store.retireKeysFor issuerId retiredAt exceptKeyRef).keys.get? keyRef
          = some (key.retiredAt retiredAt)) ∨
      (¬ IsRetired issuerId exceptKeyRef keyRef key ∧
        (store.retireKeysFor issuerId retiredAt exceptKeyRef).keys.get? keyRef = some key) := by
  rw [ScannerTrustStore.retireKeysFor, OrderedMap.get?_update, hkey, Option.map_some]
  split
  · rename_i hskipped
    exact .inr ⟨fun h => hskipped.elim (fun hissuer => hissuer h.issuer) h.other, rfl⟩
  · rename_i hnamed
    obtain ⟨hissuer, hother⟩ := not_or.mp hnamed
    split
    · rename_i hinactive
      exact .inr ⟨fun h => hinactive h.active, rfl⟩
    · rename_i hactive
      exact .inl ⟨⟨not_not.mp hissuer, hother, not_not.mp hactive⟩, rfl⟩

/-- What all values of a map have, they have after a write of one that has it. -/
theorem forall_get?_set {ν : Type} {P : ν → Prop} {m : OrderedMap String ν} {k : String} {v : ν}
    (hm : ∀ k' v', m.get? k' = some v' → P v') (hv : P v) :
    ∀ k' v', (m.set k v).get? k' = some v' → P v' := by
  intro k' v' hget
  rw [OrderedMap.get?_set] at hget
  split at hget
  · obtain rfl := Option.some.inj hget
    exact hv
  · exact hm k' v' hget

/-- So they have where the entries of a source are dropped and others are written. -/
theorem forall_get?_replaced {ν : Type} {P : ν → Prop} {m : OrderedMap String ν}
    {p : String × ν → Bool} {entries : List (String × ν)}
    (hm : ∀ k' v', m.get? k' = some v' → P v') (hentries : ∀ entry ∈ entries, P entry.2) :
    ∀ k' v', ((m.filter p).setAll entries).get? k' = some v' → P v' := by
  intro k' v' hget
  rcases OrderedMap.mem_of_get?_setAll hget with hmem | ⟨hkept, -⟩
  · exact hentries _ hmem
  · rw [OrderedMap.get?_filter] at hkept
    exact hm k' v' (Option.eq_some_of_filter_eq_some hkept)

theorem AwareStore.apply {store : ScannerTrustStore Governance Defect} (h : AwareStore store)
    {operation : StoreOperation Defect} (hoperation : operation.IsAware) :
    AwareStore (operation.apply py store) := by
  cases operation with
  | putIssuer record =>
      show AwareStore ((store.putIssuer py record).toOption.getD store)
      cases hput : store.putIssuer py record with
      | error e => exact h
      | ok store' =>
          obtain ⟨domains, -, hput⟩ := bind_eq_ok_iff.mp hput
          obtain rfl := Except.ok.inj hput
          have hrecord : VerdictTimeline.AwareRecord { record with verifiedDomains := domains } :=
            ⟨hoperation.issuedAt, hoperation.expiresAt⟩
          exact ⟨forall_get?_set h.issuers hrecord, h.keys⟩
  | putKey entry =>
      show AwareStore ((store.putKey py entry).toOption.getD store)
      rw [ScannerTrustStore.putKey]
      split
      · exact h
      split
      · exact h
      · exact ⟨h.issuers, forall_get?_set h.keys hoperation⟩
  | retireKeysFor issuerId retiredAt exceptKeyRef =>
      refine ⟨h.issuers, fun keyRef key' hget => ?_⟩
      cases hkey : store.keys.get? keyRef with
      | none =>
          have hnone : (store.retireKeysFor issuerId retiredAt exceptKeyRef).keys.get? keyRef
              = none := by
            rw [ScannerTrustStore.retireKeysFor, OrderedMap.get?_update, hkey]
            rfl
          cases hnone.symm.trans hget
      | some key =>
          rcases get?_retireKeysFor hkey issuerId retiredAt exceptKeyRef with ⟨-, hsome⟩ | ⟨-, hsome⟩
          · obtain rfl := Option.some.inj (hsome.symm.trans hget)
            exact ⟨(h.keys keyRef key hkey).notBefore,
              fun _ hnotAfter => Option.some.inj hnotAfter ▸ hoperation⟩
          · obtain rfl := Option.some.inj (hsome.symm.trans hget)
            exact h.keys keyRef _ hkey
  | replaceProjection issuers keys defects =>
      refine ⟨forall_get?_replaced h.issuers fun entry hentry => ?_,
        forall_get?_replaced h.keys fun entry hentry => ?_⟩
      · obtain ⟨record, hrecord, rfl⟩ := List.mem_map.mp hentry
        exact hoperation.1 record hrecord
      · obtain ⟨key, hkey, rfl⟩ := List.mem_map.mp hentry
        exact hoperation.2 key hkey

/-- **AWARE**: so are the stores of all runs. -/
theorem awareStore_storeAfter {operations : List (StoreOperation Defect)}
    (hoperations : ∀ operation ∈ operations, operation.IsAware) :
    AwareStore (storeAfter Governance py operations) := by
  induction operations using List.reverseRecOn with
  | nil => exact ⟨fun _ _ h => (nomatch h), fun _ _ h => (nomatch h)⟩
  | append_singleton front last ih =>
      have hfold : storeAfter Governance py (front ++ [last])
          = last.apply py (storeAfter Governance py front) := List.foldl_append ..
      rw [hfold]
      exact (ih fun operation hmem => hoperations operation (List.mem_append_left _ hmem)).apply
        (hoperations last (List.mem_append_right _ (List.mem_singleton_self _)))

theorem resolve_eq_some_iff {store : ScannerTrustStore Governance Defect} {keyRef : String}
    {key : KeyEntry} {issuer : IssuerRecord} :
    store.resolve keyRef = some (key, issuer) ↔
      store.keys.get? keyRef = some key ∧ store.issuers.get? key.issuerId = some issuer := by
  constructor
  · intro h
    obtain ⟨key', hkey, h⟩ := Option.bind_eq_some_iff.mp h
    obtain ⟨issuer', hissuer, h⟩ := Option.bind_eq_some_iff.mp h
    obtain ⟨rfl, rfl⟩ := Prod.mk.inj (Option.some.inj h)
    exact ⟨hkey, hissuer⟩
  · rintro ⟨hkey, hissuer⟩
    rw [ScannerTrustStore.resolve_of_key hkey, hissuer]
    rfl

/-- What a reference resolves to after a retirement. -/
theorem resolve_retireKeysFor {store : ScannerTrustStore Governance Defect} {keyRef : String}
    {key : KeyEntry} {issuer : IssuerRecord} (hresolve : store.resolve keyRef = some (key, issuer))
    (issuerId : String) (retiredAt : Datetime) (exceptKeyRef : String) :
    (IsRetired issuerId exceptKeyRef keyRef key ∧
        (store.retireKeysFor issuerId retiredAt exceptKeyRef).resolve keyRef
          = some (key.retiredAt retiredAt, issuer)) ∨
      (¬ IsRetired issuerId exceptKeyRef keyRef key ∧
        (store.retireKeysFor issuerId retiredAt exceptKeyRef).resolve keyRef
          = some (key, issuer)) := by
  obtain ⟨hkey, hissuer⟩ := resolve_eq_some_iff.mp hresolve
  refine (get?_retireKeysFor hkey issuerId retiredAt exceptKeyRef).imp ?_ ?_
  · rintro ⟨hretired, hafter⟩
    exact ⟨hretired, resolve_eq_some_iff.mpr ⟨hafter, hissuer⟩⟩
  · rintro ⟨hkept, hafter⟩
    exact ⟨hkept, resolve_eq_some_iff.mpr ⟨hafter, hissuer⟩⟩

/-- `evaluate_trust_window` of the key that the reference resolves to. -/
def verdictOf (py : PyRuntime) (store : ScannerTrustStore Governance Defect) (keyRef : String)
    (now : Datetime) (claims : SignedQRCodeClaims) (skewSeconds : Int) :
    Option (Except PyError TrustRuleResult) :=
  (store.resolve keyRef).map fun entry =>
    evaluateTrustWindow py now claims entry.1 entry.2 skewSeconds

theorem verdictOf_of_resolve {store : ScannerTrustStore Governance Defect} {keyRef : String}
    {key : KeyEntry} {issuer : IssuerRecord} (h : store.resolve keyRef = some (key, issuer))
    (now : Datetime) (claims : SignedQRCodeClaims) (skewSeconds : Int) :
    verdictOf py store keyRef now claims skewSeconds
      = some (evaluateTrustWindow py now claims key issuer skewSeconds) := by
  rw [verdictOf, h]
  rfl

/-- The retirement keeps the verdict on the artifact under the key: it has one before
    and one after, and the second refuses what the first refuses, and accepts what the
    first accepts and was issued before. -/
def KeepsVerdictOf (py : PyRuntime) (store : ScannerTrustStore Governance Defect)
    (issuerId : String) (retiredAt : Datetime) (exceptKeyRef keyRef : String) (now : Datetime)
    (claims : SignedQRCodeClaims) (skewSeconds : Int) (issuedAt : Datetime) : Prop :=
  ∃ before after, verdictOf py store keyRef now claims skewSeconds = some before ∧
    verdictOf py (store.retireKeysFor issuerId retiredAt exceptKeyRef) keyRef now claims
      skewSeconds = some after ∧
    KeepsVerdict before after issuedAt retiredAt

theorem AwareStore.keeps_iff {store : ScannerTrustStore Governance Defect} (h : AwareStore store)
    {keyRef : String} {key : KeyEntry} {issuer : IssuerRecord}
    (hresolve : store.resolve keyRef = some (key, issuer)) {claims : SignedQRCodeClaims}
    {issuedAt : Datetime} {expiresAt : Option Datetime}
    (htimes : HasTimes py claims issuedAt expiresAt) {retiredAt now : Datetime}
    (hretired : retiredAt.utcoffset ≠ none) (hnow : now.utcoffset ≠ none)
    (issuerId exceptKeyRef : String) (skewSeconds : Int) :
    KeepsVerdictOf py store issuerId retiredAt exceptKeyRef keyRef now claims skewSeconds
        issuedAt ↔
      ¬ (IsRetired issuerId exceptKeyRef keyRef key ∧
        Reopens retiredAt now key issuer skewSeconds issuedAt expiresAt) := by
  obtain ⟨hkey, hissuer⟩ := resolve_eq_some_iff.mp hresolve
  have haware : AwareWindows now key issuer :=
    ⟨hnow, h.issuers _ _ hissuer, (h.keys _ _ hkey).notBefore, (h.keys _ _ hkey).notAfter⟩
  rcases resolve_retireKeysFor hresolve issuerId retiredAt exceptKeyRef with
    ⟨his, hresolve'⟩ | ⟨hisNot, hresolve'⟩
  · rw [KeepsVerdictOf, verdictOf_of_resolve hresolve, verdictOf_of_resolve hresolve',
      and_iff_right his, ← keepsVerdict_retiredAt_iff his.active haware hretired htimes]
    constructor
    · rintro ⟨before, after, hbefore, hafter, hkeeps⟩
      obtain rfl := Option.some.inj hbefore
      obtain rfl := Option.some.inj hafter
      exact hkeeps
    · intro hkeeps
      exact ⟨_, _, rfl, rfl, hkeeps⟩
  · rw [KeepsVerdictOf, verdictOf_of_resolve hresolve, verdictOf_of_resolve hresolve']
    exact ⟨fun _ h => hisNot h.1, fun _ => ⟨_, _, rfl, rfl, fun h => h, fun h _ => h⟩⟩

/-- **RETIREMENT**: in every store that a run reaches, the verdicts on an artifact under a
    key are kept exactly where the call does not retire the key or does not reopen the
    artifact. -/
theorem keepsVerdictOf_iff {operations : List (StoreOperation Defect)}
    (hoperations : ∀ operation ∈ operations, operation.IsAware) {keyRef : String} {key : KeyEntry}
    {issuer : IssuerRecord}
    (hresolve : (storeAfter Governance py operations).resolve keyRef = some (key, issuer))
    {data : OrderedMap String PyJson} {claims : SignedQRCodeClaims}
    (hclaims : parseClaimsMapping py data = .ok claims) {retiredAt now : Datetime}
    (hretired : retiredAt.utcoffset ≠ none) (hnow : now.utcoffset ≠ none)
    (issuerId exceptKeyRef : String) (skewSeconds : Int) :
    ∃ issuedAt expiresAt, HasTimes py claims issuedAt expiresAt ∧
      (KeepsVerdictOf py (storeAfter Governance py operations) issuerId retiredAt exceptKeyRef
          keyRef now claims skewSeconds issuedAt ↔
        ¬ (IsRetired issuerId exceptKeyRef keyRef key ∧
          Reopens retiredAt now key issuer skewSeconds issuedAt expiresAt)) := by
  obtain ⟨issuedAt, expiresAt, htimes⟩ := (isNormal_of_parsed hclaims).times
  exact ⟨issuedAt, expiresAt, htimes, (awareStore_storeAfter hoperations).keeps_iff hresolve htimes
    hretired hnow issuerId exceptKeyRef skewSeconds⟩

/-- A key in use whose window ended a few hours before the January code was issued. -/
def decemberKey : KeyEntry :=
  { februaryKey with state := .active, notAfter := some (.utc 63902800000000000) }

/-- The run that enrols it. -/
def decemberRun : List (StoreOperation Unit) := [.putIssuer openIssuer, .putKey decemberKey]

theorem isAware_decemberRun : ∀ operation ∈ decemberRun, operation.IsAware := by
  intro operation hoperation
  simp only [decemberRun, List.mem_cons, List.not_mem_nil, or_false] at hoperation
  rcases hoperation with rfl | rfl
  · exact ⟨Option.some_ne_none _, fun _ h => (nomatch h)⟩
  · exact ⟨Option.some_ne_none _, fun _ h => Option.some.inj h ▸ Option.some_ne_none _⟩

theorem resolve_decemberRun :
    (storeAfter Unit januaryRuntime decemberRun).resolve "issuer-key-1"
      = some (decemberKey, openIssuer) := rfl

/-- Retired in February, the key vouches for the January code, which it did not before. -/
theorem keepsVerdictOf_december :
    (∀ operation ∈ decemberRun, operation.IsAware) ∧
      parseClaimsMapping januaryRuntime januaryData = .ok januaryClaims ∧
      ∃ before after,
        verdictOf januaryRuntime (storeAfter Unit januaryRuntime decemberRun) "issuer-key-1"
          (.utc 63905500800000000) januaryClaims 30 = some before ∧
        verdictOf januaryRuntime ((storeAfter Unit januaryRuntime decemberRun).retireKeysFor
          "issuer" (.utc 63905500800000000) "issuer-key-2") "issuer-key-1"
          (.utc 63905500800000000) januaryClaims 30 = some after ∧
        IsRejected before ∧ IsAccepted after := by
  refine ⟨isAware_decemberRun, parse_januaryData, _, _, rfl, rfl, ?_, ?_⟩
  · exact ⟨_, rfl, rfl⟩
  · exact ⟨_, rfl, rfl⟩

theorem keepsVerdictOf_iff_december :
    ∃ issuedAt expiresAt, HasTimes januaryRuntime januaryClaims issuedAt expiresAt ∧
      (KeepsVerdictOf januaryRuntime (storeAfter Unit januaryRuntime decemberRun) "issuer"
          (.utc 63905500800000000) "issuer-key-2" "issuer-key-1" (.utc 63905500800000000)
          januaryClaims 30 issuedAt ↔
        ¬ (IsRetired "issuer" "issuer-key-2" "issuer-key-1" decemberKey ∧
          Reopens (.utc 63905500800000000) (.utc 63905500800000000) decemberKey openIssuer 30
            issuedAt expiresAt)) :=
  keepsVerdictOf_iff isAware_decemberRun resolve_decemberRun parse_januaryData
    (Option.some_ne_none _) (Option.some_ne_none _) "issuer" "issuer-key-2" 30

end TrustStore
