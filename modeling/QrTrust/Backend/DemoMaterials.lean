import QrTrust.Backend.ProjectionFreshness

/-! # The demo materials

    The writes of the demo endpoint into the scanner's trust store: an issuer and
    a key of its own under fixed names, keys retired or dropped.  No await falls
    between them, so a request is one step of the event loop. -/

namespace TrustStore.ScannerTrustStore

open DestinationCanonicalization

variable {Governance Defect : Type}

/-- `put_issuer`. -/
def putIssuer (py : PyRuntime) (store : ScannerTrustStore Governance Defect)
    (record : IssuerRecord) : Except PyError (ScannerTrustStore Governance Defect) := do
  let verifiedDomains ← canonicalizeVerifiedDomainMap py record.verifiedDomains false
  return { store with
           issuers := store.issuers.set record.issuerId
             { record with verifiedDomains := verifiedDomains } }

/-- `put_key`. -/
def putKey (py : PyRuntime) (store : ScannerTrustStore Governance Defect) (entry : KeyEntry) :
    Except PyError (ScannerTrustStore Governance Defect) :=
  if (store.keys.get? entry.keyRef).any (fun existing => existing.state = .revoked)
      ∧ entry.state ≠ .revoked then
    .error (.valueError
      ("key " ++ py.repr entry.keyRef ++ " is revoked; revocation is terminal"))
  else if entry.state ∈ [KeyState.active, KeyState.retired] ∧ entry.publicKeyPem = none then
    .error (.valueError
      ("key " ++ py.repr entry.keyRef ++ " is " ++ TrustProjection.keyStateText entry.state
        ++ " but has no public key material"))
  else .ok { store with keys := store.keys.set entry.keyRef entry }

/-- `set_governance`. -/
def setGovernance (store : ScannerTrustStore Governance Defect) (issuerId : String)
    (governance : Governance) : ScannerTrustStore Governance Defect :=
  { store with governance := store.governance.set issuerId governance }

/-- `retire_keys_for`. -/
def retireKeysFor (store : ScannerTrustStore Governance Defect) (issuerId : String)
    (now : Datetime) (exceptKeyRef : String) : ScannerTrustStore Governance Defect :=
  { store with
    keys := store.keys.update fun keyRef key =>
      if key.issuerId ≠ issuerId ∨ keyRef = exceptKeyRef then key
      else if key.state ≠ .active then key
      else { key with state := .retired, notAfter := some now } }

/-- `remove_key`. -/
def removeKey (store : ScannerTrustStore Governance Defect) (keyRef : String) :
    ScannerTrustStore Governance Defect :=
  { store with keys := store.keys.erase keyRef }

end TrustStore.ScannerTrustStore

namespace DemoMaterials

open TrustStore TrustProjection DestinationCanonicalization

variable {Governance : Type}

/-- The scanner's store. -/
abbrev Store (Governance : Type) := ScannerTrustStore Governance ProjectionDefect

/-! ## Demo keys -/

/-- `_DemoKeyMaterial`. -/
structure DemoKeyMaterial where
  keyRef : String
  publicKeyPem : String
  deriving DecidableEq, Repr

/-- `_DEMO_ISSUER_NAME`. -/
def demoIssuerName : String := "Acme Demo Issuer"

/-- `_DEMO_KEY_REF_BASE`. -/
def demoKeyRefBase : String := "cert:acme-demo:2026-01"

/-- `_mint_demo_key`, over the public key of the new pair. -/
def mintDemoKey (demoKeys : List DemoKeyMaterial) (publicKeyPem : String) : DemoKeyMaterial :=
  let serial := demoKeys.length
  ⟨if serial = 0 then demoKeyRefBase else demoKeyRefBase ++ "-r" ++ toString serial,
    publicKeyPem⟩

/-- `_active_demo_key`: the key to sign under, and whether it is a new one. -/
def activeDemoKey (store : Store Governance) (demoKeys : List DemoKeyMaterial) (rotate : Bool)
    (publicKeyPem : String) : DemoKeyMaterial × Bool :=
  match demoKeys.getLast? with
  | none => (mintDemoKey demoKeys publicKeyPem, true)
  | some current =>
      if rotate ∨ (store.keys.get? current.keyRef).any (fun stored => stored.state ≠ .active) then
        (mintDemoKey demoKeys publicKeyPem, true)
      else (current, false)

/-! ## Requests -/

/-- The fields of `DemoMaterialsRequest` that reach the store. -/
structure DemoMaterialsRequest where
  verifiedDomains : List String
  allowSubdomains : Bool
  certificateActive : Bool
  certificateRevoked : Bool
  certificateRevocationReason : Option String
  issuerRecordExpiresOffsetMinutes : Option Int
  keyState : Option KeyState
  rotateKey : Bool
  registerScannerTrust : Bool

/-- What a request finds around the store: the public key of a new pair, whether
    the claims can be signed, and the governance projection of the demo key, once
    the envelope is rendered. -/
structure Surroundings (Governance : Type) where
  now : Datetime
  publicKeyPem : String
  signed : Except PyError Unit
  rendered : Except PyError (Option Governance)

/-- `DemoTrustEcho`. -/
structure DemoTrustEcho where
  keyRef : String
  keyState : KeyState
  issuerStatus : IssuerStatus
  retiredKeyRefs : List String
  deriving DecidableEq, Repr

/-- The state a request meets. -/
structure State (Governance : Type) where
  store : Store Governance
  demoKeys : List DemoKeyMaterial

/-- `_UNBOUNDED_PAST`: the first of January 1970. -/
def unboundedPast : Datetime := .utc 62135596800000000

/-- The state of the demo key that the request asks for. -/
def DemoMaterialsRequest.demoKeyState (request : DemoMaterialsRequest) : KeyState :=
  request.keyState.getD (if request.certificateRevoked then .revoked else .active)

/-- The status of the demo issuer that the request asks for. -/
def DemoMaterialsRequest.issuerStatus (request : DemoMaterialsRequest) : IssuerStatus :=
  if request.certificateActive then .active else .suspended

/-- The end of the demo issuer's record; it is written as a text and read back. -/
def DemoMaterialsRequest.issuerRecordExpiresAt (request : DemoMaterialsRequest)
    (now : Datetime) : Except PyError (Option Datetime) :=
  match request.issuerRecordExpiresOffsetMinutes with
  | none => .ok none
  | some minutes => (now.addSeconds (minutes * 60)).map some

/-- The verified domains of `IssuerVerificationStateInput`; pydantic refuses with
    a `ValueError`. -/
def DemoMaterialsRequest.domains (py : PyRuntime) (request : DemoMaterialsRequest) :
    Except PyError (OrderedMap String (Option Datetime)) :=
  (canonicalizeVerifiedDomainMap py
    (.ofList (request.verifiedDomains.map fun domain => (domain, none))) false).mapError
      fun exc => .valueError ((exc.asValueError).getD "")

/-- The issuer record of the demo issuer. -/
def demoIssuerRecord (request : DemoMaterialsRequest)
    (verifiedDomains : OrderedMap String (Option Datetime)) (expiresAt : Option Datetime) :
    IssuerRecord where
  issuerId := demoIssuerName
  issuerName := demoIssuerName
  rootId := "root:qrtrust-demo"
  status := request.issuerStatus
  issuedAt := unboundedPast
  expiresAt := expiresAt
  verifiedDomains := verifiedDomains
  allowSubdomains := request.allowSubdomains
  source := .ephemeral

/-- The entry of the demo key. -/
def demoKeyEntry (request : DemoMaterialsRequest) (material : DemoKeyMaterial) : KeyEntry where
  keyRef := material.keyRef
  issuerId := demoIssuerName
  algorithmId := SignedSchema.supportedAlgorithmId
  publicKeyPem := some material.publicKeyPem
  state := request.demoKeyState
  notBefore := unboundedPast
  notAfter := none
  revokedAt := none
  revocationReason := request.certificateRevocationReason
  source := .ephemeral

/-- `_register_scanner_trust`: the store after it, also where it raises. -/
def registerScannerTrust (py : PyRuntime) (store : Store Governance) (record : IssuerRecord)
    (entry : KeyEntry) (governance : Option Governance) :
    Store Governance × Except PyError Unit :=
  match store.putIssuer py record with
  | .error exc => (store, .error exc)
  | .ok store =>
      match store.putKey py entry with
      | .error exc => (store, .error exc)
      | .ok store =>
          (match governance with
            | some governance => store.setGovernance record.issuerId governance
            | none => store, .ok ())

/-- What precedes the writes of a request: the claims are signed, the record of
    the issuer is made and the envelope rendered. -/
def prepare (py : PyRuntime) (request : DemoMaterialsRequest)
    (surroundings : Surroundings Governance) :
    Except PyError (IssuerRecord × Option Governance) := do
  surroundings.signed
  let expiresAt ← request.issuerRecordExpiresAt surroundings.now
  let verifiedDomains ← request.domains py
  let governance ← surroundings.rendered
  return (demoIssuerRecord request verifiedDomains expiresAt, governance)

/-- The writes of a request. -/
def enrol (py : PyRuntime) (store : Store Governance) (request : DemoMaterialsRequest)
    (material : DemoKeyMaterial) (now : Datetime) (record : IssuerRecord)
    (governance : Option Governance) : Store Governance × Except PyError Unit :=
  if request.registerScannerTrust then
    match registerScannerTrust py store record (demoKeyEntry request material) governance with
    | (store, .error exc) => (store, .error exc)
    | (store, .ok ()) =>
        (if request.rotateKey then store.retireKeysFor demoIssuerName now material.keyRef
          else store, .ok ())
  else
    -- the reference is shared across requests, so an earlier enrolment is dropped
    (store.removeKey material.keyRef, .ok ())

/-- `_build_demo_materials_response`: the state after it, also where it raises. -/
def buildDemoMaterialsResponse (py : PyRuntime) (state : State Governance)
    (request : DemoMaterialsRequest) (surroundings : Surroundings Governance) :
    State Governance × Except PyError DemoTrustEcho :=
  let (material, isNew) := activeDemoKey state.store state.demoKeys request.rotateKey
    surroundings.publicKeyPem
  let demoKeys := if isNew then state.demoKeys ++ [material] else state.demoKeys
  match prepare py request surroundings with
  | .error exc => ({ state with demoKeys := demoKeys }, .error exc)
  | .ok (record, governance) =>
      match enrol py state.store request material surroundings.now record governance with
      | (store, .error exc) => (⟨store, demoKeys⟩, .error exc)
      | (store, .ok ()) =>
          (⟨store, demoKeys⟩,
            .ok
              { keyRef := material.keyRef
                keyState := request.demoKeyState
                issuerStatus := request.issuerStatus
                retiredKeyRefs := (store.keys.values.filter fun entry =>
                  entry.issuerId = demoIssuerName && entry.state = .retired).map
                    KeyEntry.keyRef })

/-! ## Requests among refreshes -/

/-- The refreshes of the projection, over the same store as the demo requests. -/
structure System (Governance : Type) where
  refresh : ProjectionFreshness.System Governance
  demoKeys : List DemoKeyMaterial

/-- What happens next: a step around `ensure_fresh`, or a demo request. -/
inductive Action (Governance : Type) where
  | refresh (event : Option (ProjectionFreshness.Call × ProjectionFreshness.Freshness))
  | demo (request : DemoMaterialsRequest) (surroundings : Surroundings Governance)

/-- The system after a demo request. -/
def System.demo (py : PyRuntime) (s : System Governance) (request : DemoMaterialsRequest)
    (surroundings : Surroundings Governance) : System Governance :=
  let state := (buildDemoMaterialsResponse py ⟨s.refresh.store, s.demoKeys⟩ request
    surroundings).1
  { s with refresh := { s.refresh with store := state.store }, demoKeys := state.demoKeys }

/-- One step. -/
inductive Step (py : PyRuntime) : System Governance → Action Governance → System Governance → Prop
  | refresh {s : System Governance}
      {event : Option (ProjectionFreshness.Call × ProjectionFreshness.Freshness)}
      {refresh : ProjectionFreshness.System Governance}
      (hstep : ProjectionFreshness.Step py s.refresh event refresh) :
      Step py s (.refresh event) { s with refresh := refresh }
  | demo {s : System Governance} (request : DemoMaterialsRequest)
      (surroundings : Surroundings Governance) :
      Step py s (.demo request surroundings) (s.demo py request surroundings)

/-- The states reached from an empty store by steps that meet a condition. -/
inductive Reachable (py : PyRuntime) (Meets : System Governance → Action Governance → Prop) :
    System Governance → Prop
  | start (db : Database) (maxStalenessSeconds clock : Int) :
      Reachable py Meets ⟨.start db maxStalenessSeconds clock .empty, []⟩
  | step {s s' : System Governance} {action : Action Governance} (hs : Reachable py Meets s)
      (hmeets : Meets s action) (hstep : Step py s action s') : Reachable py Meets s'

end DemoMaterials
