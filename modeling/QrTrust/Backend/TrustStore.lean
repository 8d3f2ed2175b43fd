import QrTrust.Backend.DestinationCanonicalization
import QrTrust.Backend.SignedSchema

/-! # The scanner's trust store

    Issuer records and signing keys with lifecycles of their own, the rules over
    both, and the swap that replaces the projected entries of the store. -/

namespace TrustStore

open SignedSchema DestinationCanonicalization

/-- `ISSUER_STATUSES`. -/
inductive IssuerStatus where
  | active
  | suspended
  | revoked
  | expired
  deriving DecidableEq, Repr

/-- `KEY_STATES`. -/
inductive KeyState where
  | active
  | retired
  | revoked
  | suspended
  deriving DecidableEq, Repr

/-- Where an entry of the store comes from. -/
inductive EntrySource where
  | ephemeral
  | projection
  deriving DecidableEq, Repr

/-- `IssuerRecord`. -/
structure IssuerRecord where
  issuerId : String
  issuerName : String
  rootId : String
  status : IssuerStatus
  issuedAt : Datetime
  expiresAt : Option Datetime
  verifiedDomains : OrderedMap String (Option Datetime)
  allowSubdomains : Bool
  source : EntrySource

/-- `KeyEntry`. -/
structure KeyEntry where
  keyRef : String
  issuerId : String
  algorithmId : String
  publicKeyPem : Option String
  state : KeyState
  notBefore : Datetime
  notAfter : Option Datetime
  revokedAt : Option Datetime
  revocationReason : Option String
  source : EntrySource
  deriving DecidableEq, Repr

/-- `TrustRuleResult`; without a cause it accepts. -/
structure TrustRuleResult where
  allowed : Bool
  stage : String
  cause : Option String
  reason : String
  deriving DecidableEq, Repr

/-- A rule that refuses. -/
def refusal (stage cause reason : String) : TrustRuleResult := ⟨false, stage, some cause, reason⟩

/-- `_ACCEPTED`. -/
def accepted : TrustRuleResult :=
  ⟨true, "accepted", none, "Issuer record and signing key are in force for this artifact"⟩

/-- `evaluate_blocking_states`. -/
def evaluateBlockingStates (key : KeyEntry) (issuer : IssuerRecord) : Option TrustRuleResult :=
  match issuer.status with
  | .revoked => some (refusal "issuer_status" "issuer-revoked" "Issuer record is revoked")
  | .expired => some (refusal "issuer_status" "record-expired" "Issuer record is expired")
  | .suspended =>
      some (refusal "issuer_status" "issuer-suspended"
        "Issuer record is suspended, not active")
  | .active =>
      match key.state with
      | .revoked =>
          let detail := ((key.revocationReason.filter (· ≠ "")).map (": " ++ ·)).getD ""
          some (refusal "key_status" "key-revoked"
            ("Signing key " ++ key.keyRef ++ " is revoked" ++ detail))
      | .suspended =>
          some (refusal "key_status" "key-suspended"
            ("Signing key " ++ key.keyRef ++ " is suspended by its issuing authority"))
      | _ => none

variable (py : PyRuntime)

/-- Was the artifact issued outside the window of its key?  The comparison with
    the end of the window is made only where it is needed. -/
def outsideKeyWindow (key : KeyEntry) (issuedAt : Datetime) : Except PyError Bool := do
  if ← issuedAt.lt key.notBefore then return true
  match key.notAfter with
  | none => return false
  | some notAfter => notAfter.lt issuedAt

/-- Has the artifact expired, the skew counted in its favour? -/
def claimsExpired (now : Datetime) (expiresAt : Option String) (skewSeconds : Int) :
    Except PyError Bool :=
  match expiresAt with
  | none => .ok false
  | some text => do
      let expiresAt ← parseClaimTimestamp py "expires_at" text
      (← expiresAt.addSeconds skewSeconds).le now

/-- Has the issuer record expired? -/
def recordExpired (now : Datetime) (expiresAt : Option Datetime) : Except PyError Bool :=
  match expiresAt with
  | none => .ok false
  | some expiresAt => expiresAt.le now

/-- `evaluate_time_windows`. -/
def evaluateTimeWindows (now : Datetime) (claims : SignedQRCodeClaims) (key : KeyEntry)
    (issuer : IssuerRecord) (skewSeconds : Int) : Except PyError TrustRuleResult := do
  if ← now.lt issuer.issuedAt then
    return refusal "issuer_status" "record-not-yet-valid" "Issuer record is not yet in force"
  if ← recordExpired now issuer.expiresAt then
    return refusal "issuer_status" "record-expired" "Issuer record has expired"
  let issuedAt ← parseClaimTimestamp py "issued_at" claims.issuedAt
  if ← outsideKeyWindow key issuedAt then
    return refusal "key_status" "key-window-mismatch"
      ("Artifact was issued outside the validity window of key " ++ key.keyRef)
  if ← now.lt (← issuedAt.addSeconds (-skewSeconds)) then
    return refusal "time_window" "object-not-yet-valid" "Signed claims are not yet valid"
  if ← claimsExpired py now claims.expiresAt skewSeconds then
    return refusal "time_window" "object-expired" "Signed claims have expired"
  return accepted

/-! ## The store -/

/-- `ScannerTrustStore`; the governance projections are carried through. -/
structure ScannerTrustStore (Governance Defect : Type) where
  issuers : OrderedMap String IssuerRecord
  keys : OrderedMap String KeyEntry
  governance : OrderedMap String Governance
  projectionDefects : List Defect

namespace ScannerTrustStore

variable {Governance Defect : Type}

/-- A store with nothing in it. -/
def empty : ScannerTrustStore Governance Defect := ⟨.empty, .empty, .empty, []⟩

/-- `resolve`. -/
def resolve (store : ScannerTrustStore Governance Defect) (keyRef : String) :
    Option (KeyEntry × IssuerRecord) := do
  let key ← store.keys.get? keyRef
  let issuer ← store.issuers.get? key.issuerId
  return (key, issuer)

theorem resolve_of_key {store : ScannerTrustStore Governance Defect} {keyRef : String}
    {key : KeyEntry} (h : store.keys.get? keyRef = some key) :
    store.resolve keyRef = (store.issuers.get? key.issuerId).map fun issuer => (key, issuer) := by
  rw [resolve, h]
  show (store.issuers.get? key.issuerId).bind _ = _
  cases store.issuers.get? key.issuerId <;> rfl

/-- `governance_for`. -/
def governanceFor (store : ScannerTrustStore Governance Defect) (issuerId : String) :
    Option Governance :=
  store.governance.get? issuerId

/-- `replace_projection`: the projected entries go, and the new ones are written
    over what is left. -/
def replaceProjection (store : ScannerTrustStore Governance Defect)
    (issuers : List IssuerRecord) (keys : List KeyEntry) (defects : List Defect) :
    ScannerTrustStore Governance Defect :=
  { store with
    issuers := (store.issuers.filter fun entry => entry.2.source ≠ .projection).setAll
      (issuers.map fun record => (record.issuerId, record))
    keys := (store.keys.filter fun entry => entry.2.source ≠ .projection).setAll
      (keys.map fun entry => (entry.keyRef, entry))
    projectionDefects := defects }

end ScannerTrustStore

end TrustStore
