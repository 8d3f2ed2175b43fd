import QrTrust.Network.Json

/-! # The trust-key registry

    The keys that may sign trust artifacts, by key id, and the two ways the
    sync service uses them: looking up the key of a signer, and changing the
    status of a key inside the scope of whoever asks. -/

namespace TrustKeys

/-- `TrustKeyScope`. -/
inductive TrustKeyScope where
  | rootProgram
  | delegatedAuthority
  deriving DecidableEq, Repr

/-- `TrustKeyStatus`. -/
inductive TrustKeyStatus where
  | active
  | suspended
  | revoked
  | expired
  deriving DecidableEq, Repr

/-- `TrustKeyLookupReason`. -/
inductive TrustKeyLookupReason where
  | keyNotFound
  | keyNotActive
  | algorithmNotAccepted
  | scopeMismatch
  deriving DecidableEq, Repr

/-- `TrustKeyRecord`. -/
structure TrustKeyRecord where
  keyId : String
  signerId : String
  rootProgramId : String
  algorithmId : String
  scope : TrustKeyScope
  status : TrustKeyStatus
  publicKeyMaterialRef : String
  publicKeyMaterialPem : Option String
  delegatedAuthorityId : Option String
  deriving DecidableEq, Repr

/-- `TrustKeyLookupInput`. -/
structure TrustKeyLookupInput where
  signedBy : String
  rootProgramId : String
  acceptedAlgorithmIds : List String
  delegatedAuthorityId : Option String

/-- `TrustKeyLookupResult`. -/
structure TrustKeyLookupResult where
  key : Option TrustKeyRecord := none
  reason : Option TrustKeyLookupReason := none
  deriving DecidableEq, Repr

/-- `TrustKeyStatusUpdateInput`. -/
structure TrustKeyStatusUpdateInput where
  rootProgramId : String
  keyId : String
  status : TrustKeyStatus
  delegatedAuthorityId : Option String
  deriving DecidableEq, Repr

/-- `keyMatchesScope`. -/
def keyMatchesScope (key : TrustKeyRecord) (input : TrustKeyLookupInput) : Bool :=
  match key.scope with
  | .rootProgram => key.signerId = input.rootProgramId
  | .delegatedAuthority =>
      match input.delegatedAuthorityId with
      | none => false
      | some authority => key.delegatedAuthorityId = some authority && key.signerId = authority

/-- `selectTrustKeyForLookup`. -/
def selectTrustKeyForLookup (keys : List TrustKeyRecord) (input : TrustKeyLookupInput) :
    TrustKeyLookupResult :=
  let candidates := keys.filter fun candidate =>
    candidate.signerId = input.signedBy && candidate.rootProgramId = input.rootProgramId
  match candidates with
  | [] => { reason := some .keyNotFound }
  | firstCandidate :: _ =>
      let inScope := candidates.filter fun candidate => keyMatchesScope candidate input
      match inScope with
      | [] => { key := some firstCandidate, reason := some .scopeMismatch }
      | firstScoped :: _ =>
          let algorithmMatches := inScope.filter fun candidate =>
            input.acceptedAlgorithmIds.contains candidate.algorithmId
          match algorithmMatches with
          | [] => { key := some firstScoped, reason := some .algorithmNotAccepted }
          | firstAlgorithmMatch :: _ =>
              match algorithmMatches.find? fun candidate => candidate.status = .active with
              | none => { key := some firstAlgorithmMatch, reason := some .keyNotActive }
              | some activeKey => { key := some activeKey }

/-- `trustKeyIsWithinUpdateScope`. -/
def trustKeyIsWithinUpdateScope (key : TrustKeyRecord) (input : TrustKeyStatusUpdateInput) :
    Bool :=
  key.rootProgramId = input.rootProgramId
    && match input.delegatedAuthorityId with
      | none => true
      | some authority => key.delegatedAuthorityId = some authority

/-- The records of `makeInMemoryTrustKeyRegistry`, by key id. -/
abbrev TrustKeyRegistry := OrderedMap String TrustKeyRecord

/-- `makeInMemoryTrustKeyRegistry`. -/
def makeInMemoryTrustKeyRegistry (keys : List TrustKeyRecord) : TrustKeyRegistry :=
  .ofList (keys.map fun key => (key.keyId, key))

/-- `lookupSignerKey`. -/
def lookupSignerKey (registry : TrustKeyRegistry) (input : TrustKeyLookupInput) :
    TrustKeyLookupResult :=
  selectTrustKeyForLookup registry.values input

/-- The key an update may touch: present and inside the update's scope. -/
def updatableKey (registry : TrustKeyRegistry) (input : TrustKeyStatusUpdateInput) :
    Option TrustKeyRecord :=
  (registry.get? input.keyId).filter fun key => trustKeyIsWithinUpdateScope key input

/-- `updateTrustKeyStatus`: the registry afterwards. -/
def updateTrustKeyStatus (registry : TrustKeyRegistry) (input : TrustKeyStatusUpdateInput) :
    TrustKeyRegistry :=
  match updatableKey registry input with
  | none => registry
  | some key => registry.set input.keyId { key with status := input.status }

/-! ## The keys of the demo network -/

/-- `demoRootTrustKey`. -/
def demoRootTrustKey : TrustKeyRecord where
  keyId := "key:root:qrtrust-demo:2026:ed25519:v1"
  signerId := "root:qrtrust-demo:2026"
  rootProgramId := "root:qrtrust-demo:2026"
  algorithmId := "ed25519"
  scope := .rootProgram
  status := .active
  publicKeyMaterialRef := "pem://fixture/root/qrtrust-demo-2026"
  publicKeyMaterialPem := some
    "-----BEGIN PUBLIC KEY-----\nMCowBQYDK2VwAyEAseMBxIZiw1NaivXwFJ+8NldswDygR/KBWhRAXdyvAvs=\n-----END PUBLIC KEY-----"
  delegatedAuthorityId := none

/-- `demoDelegatedAuthorityTrustKey`. -/
def demoDelegatedAuthorityTrustKey : TrustKeyRecord where
  keyId := "key:authority:qrtrust-demo:merchant-web:ed25519:v1"
  signerId := "authority:qrtrust-demo:merchant-web"
  rootProgramId := "root:qrtrust-demo:2026"
  algorithmId := "ed25519"
  scope := .delegatedAuthority
  status := .active
  publicKeyMaterialRef := "pem://fixture/authority/qrtrust-demo-merchant-web"
  publicKeyMaterialPem := some
    "-----BEGIN PUBLIC KEY-----\nMCowBQYDK2VwAyEAJ2O6Y98hIMFptRCGOG1MNCp+3minvjf6egySST3gVAQ=\n-----END PUBLIC KEY-----"
  delegatedAuthorityId := some "authority:qrtrust-demo:merchant-web"

/-- The keys `makeInMemoryTrustKeyRegistry` holds unless it is given others. -/
def defaultTrustKeys : List TrustKeyRecord := [demoRootTrustKey, demoDelegatedAuthorityTrustKey]

end TrustKeys
