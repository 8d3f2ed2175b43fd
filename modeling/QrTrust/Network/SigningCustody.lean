import QrTrust.Network.SignatureVerification

/-! # Signing custody

    The other half of the signature verifier: which signing key a request
    selects, and what the signer adds to the body it signs.  The private keys
    are behind a custody provider, which answers with a signature, with nothing
    (another provider may know the key), or with a failure. -/

namespace JsonValue

/-- The properties of an object literal `{ ...fields, [key]: value }`; an undefined
    value leaves nothing that is written as JSON. -/
def assignField (fields : List (String × JsonValue)) (key : String) :
    Option JsonValue → List (String × JsonValue)
  | some value => OrderedMap.setEntries fields key value
  | none => fields.filter fun field => field.1 ≠ key

/-- `{ ...body, [key]: value }`. -/
def withField (body : JsonValue) (key : String) (value : Option JsonValue) : JsonValue :=
  match body with
  | obj fields => obj (assignField fields key value)
  | _ => obj (assignField [] key value)

end JsonValue

namespace SigningCustody

open TrustKeys SignatureVerification

/-- The host functions on both sides of a signature: `sign` of a PEM key and a
    payload, `none` where the key cannot be loaded or used. -/
structure SigningHost extends SignatureHost where
  signEd25519 : String → String → Option String

/-- `SigningMaterialSource`. -/
inductive SigningMaterialSource where
  | fixture
  | environment
  | filesystem
  | managed
  | static
  deriving DecidableEq, Repr

/-- `SigningKeyScope`. -/
inductive SigningKeyScope where
  | rootProgram
  | delegatedAuthority
  | issuer
  deriving DecidableEq, Repr

/-- `SigningKeyRecord`. -/
structure SigningKeyRecord where
  keyId : String
  signerId : String
  rootProgramId : String
  algorithmId : String
  scope : SigningKeyScope
  status : TrustKeyStatus
  privateKeyMaterialRef : String
  delegatedAuthorityId : Option String
  deriving DecidableEq, Repr

/-- `SigningCustodyRequest`. -/
structure SigningCustodyRequest where
  payload : String
  signedBy : String
  rootProgramId : String
  acceptedAlgorithmIds : Option (List String)
  delegatedAuthorityId : Option String
  keyId : Option String

/-- `SigningCustodySignature`. -/
structure SigningCustodySignature where
  keyId : String
  signerId : String
  algorithmId : String
  signature : String
  privateKeyMaterialRef : String
  source : SigningMaterialSource
  deriving DecidableEq, Repr

/-- `SigningCustodyProviderShape`. -/
abbrev SigningCustodyProvider :=
  SigningCustodyRequest → Except String (Option SigningCustodySignature)

/-! ## The key of a request -/

/-- `signingKeyMatchesScope`. -/
def signingKeyMatchesScope (key : SigningKeyRecord) (request : SigningCustodyRequest) : Bool :=
  match key.scope with
  | .rootProgram =>
      key.signerId = request.rootProgramId && request.signedBy = request.rootProgramId
  | .delegatedAuthority =>
      match request.delegatedAuthorityId with
      | none => false
      | some authority =>
          key.delegatedAuthorityId = some authority && key.signerId = authority
            && request.signedBy = authority
  | .issuer =>
      match request.delegatedAuthorityId with
      | none => false
      | some authority =>
          key.delegatedAuthorityId = some authority && key.signerId = request.signedBy

/-- The candidates of `selectSigningKey`: the key asked for by its id, or the keys
    of the signer. -/
def isSigningCandidate (request : SigningCustodyRequest) (key : SigningKeyRecord) : Bool :=
  match JsString.truthy request.keyId with
  | some keyId => key.keyId = keyId
  | none => key.signerId = request.signedBy && key.rootProgramId = request.rootProgramId

/-- `selectSigningKey`. -/
def selectSigningKey (signingKeys : List SigningKeyRecord) (request : SigningCustodyRequest) :
    Except String (Option SigningKeyRecord) :=
  match signingKeys.filter (isSigningCandidate request) with
  | [] => .ok none
  | candidate :: candidates =>
      match (candidate :: candidates).filter fun key => signingKeyMatchesScope key request with
      | [] =>
          .error ("Signing key exists but does not match requested signer scope for "
            ++ request.signedBy ++ ".")
      | scopedKey :: otherScoped =>
          match (scopedKey :: otherScoped).filter fun key =>
              (request.acceptedAlgorithmIds.getD ["ed25519"]).contains key.algorithmId with
          | [] =>
              .error ("No accepted signing algorithm is available for " ++ request.signedBy ++ ".")
          | algorithmMatch :: algorithmMatches =>
              match (algorithmMatch :: algorithmMatches).find? fun key => key.status = .active with
              | none => .error ("Signing key is not active for " ++ request.signedBy ++ ".")
              | some activeKey => .ok (some activeKey)

/-- `signEd25519Payload`. -/
def signEd25519Payload (host : SigningHost) (payload privateKeyPem : String)
    (key : SigningKeyRecord) (source : SigningMaterialSource) :
    Except String SigningCustodySignature :=
  if key.algorithmId ≠ "ed25519" then
    .error ("Unsupported signing algorithm for " ++ key.keyId ++ ": " ++ key.algorithmId ++ ".")
  else
    match host.signEd25519 privateKeyPem payload with
    | none =>
        .error ("Unable to sign canonical trust artifact payload for " ++ key.keyId ++ ".")
    | some signature =>
        .ok { keyId := key.keyId
              signerId := key.signerId
              algorithmId := key.algorithmId
              signature
              privateKeyMaterialRef := key.privateKeyMaterialRef
              source }

/-- `makeStaticSigningCustodyProvider`. -/
def makeStaticSigningCustodyProvider (host : SigningHost) (signingKeys : List SigningKeyRecord)
    (materialByRef : String → Option String) (source : SigningMaterialSource) :
    SigningCustodyProvider := fun request => do
  match ← selectSigningKey signingKeys request with
  | none => return none
  | some key =>
      match JsString.truthy (materialByRef key.privateKeyMaterialRef) with
      | none => .error ("Private signing material is unavailable for " ++ key.keyId ++ ".")
      | some privateKeyPem =>
          return some (← signEd25519Payload host request.payload privateKeyPem key source)

/-! ## The signer -/

/-- `TrustArtifactSigningInput`. -/
structure TrustArtifactSigningInput where
  body : JsonValue
  signedBy : String
  rootProgramId : String
  acceptedAlgorithmIds : Option (List String) := none
  delegatedAuthorityId : Option String := none
  keyId : Option String := none

/-- `TrustArtifactSigningResult`. -/
structure TrustArtifactSigningResult where
  body : JsonValue
  signerId : String
  keyId : String
  algorithmId : String
  privateKeyMaterialRef : String
  source : SigningMaterialSource

/-- `TrustArtifactSignerShape`. -/
abbrev TrustArtifactSigner := TrustArtifactSigningInput → Except String TrustArtifactSigningResult

/-- `normalizeSigningBody`. -/
def normalizeSigningBody (input : TrustArtifactSigningInput) : JsonValue :=
  let body := (input.body.withField "root_program_id" (some (.str input.rootProgramId))).withField
    "signed_by" (some (.str input.signedBy))
  match JsString.truthy input.delegatedAuthorityId with
  | none => body
  | some authority => body.withField "delegated_authority_id" (some (.str authority))

/-- The body with the fields of its signature. -/
def signedBody (unsignedBody : JsonValue) (signature : SigningCustodySignature) : JsonValue :=
  (((unsignedBody.withField "signature_algorithm_id" (some (.str signature.algorithmId))).withField
    "signature_input" (some (.str trustSignatureInput))).withField
    "signature" (some (.str signature.signature))).withField
    "signature_status" (some (.str trustSignatureStatus))

/-- `makeTrustArtifactSigner`. -/
def makeTrustArtifactSigner (host : SigningHost) (custodyProvider : SigningCustodyProvider) :
    TrustArtifactSigner := fun input => do
  let unsignedBody := normalizeSigningBody input
  let signature ← custodyProvider
    { payload := trustSignaturePayload host.toSignatureHost unsignedBody
      signedBy := input.signedBy
      rootProgramId := input.rootProgramId
      acceptedAlgorithmIds := some (input.acceptedAlgorithmIds.getD ["ed25519"])
      delegatedAuthorityId := JsString.truthy input.delegatedAuthorityId
      keyId := JsString.truthy input.keyId }
  match signature with
  | none =>
      .error ("No signing custody provider could sign as " ++ input.signedBy ++ ".")
  | some signature =>
      return { body := signedBody unsignedBody signature
               signerId := signature.signerId
               keyId := signature.keyId
               algorithmId := signature.algorithmId
               privateKeyMaterialRef := signature.privateKeyMaterialRef
               source := signature.source }

/-! ## The signing keys of the demo network -/

/-- `demoRootSigningKey`. -/
def demoRootSigningKey : SigningKeyRecord where
  keyId := demoRootTrustKey.keyId
  signerId := demoRootTrustKey.signerId
  rootProgramId := demoRootTrustKey.rootProgramId
  algorithmId := demoRootTrustKey.algorithmId
  scope := .rootProgram
  status := demoRootTrustKey.status
  privateKeyMaterialRef := "pem://fixture/private/root/qrtrust-demo-2026"
  delegatedAuthorityId := none

/-- `demoDelegatedAuthoritySigningKey`. -/
def demoDelegatedAuthoritySigningKey : SigningKeyRecord where
  keyId := demoDelegatedAuthorityTrustKey.keyId
  signerId := demoDelegatedAuthorityTrustKey.signerId
  rootProgramId := demoDelegatedAuthorityTrustKey.rootProgramId
  algorithmId := demoDelegatedAuthorityTrustKey.algorithmId
  scope := .delegatedAuthority
  status := demoDelegatedAuthorityTrustKey.status
  privateKeyMaterialRef := "pem://fixture/private/authority/qrtrust-demo-merchant-web"
  delegatedAuthorityId := demoDelegatedAuthorityTrustKey.delegatedAuthorityId

end SigningCustody
