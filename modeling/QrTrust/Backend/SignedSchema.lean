import QrTrust.Backend.PyRuntime

/-! # The canonical signed schema

    The claims a code carries have a fixed field set and a fixed order, and the
    certificate is the authority on the algorithm. -/

namespace SignedSchema

/-- `CANONICAL_CLAIM_ORDER`. -/
def canonicalClaimOrder : List String :=
  ["version", "certificate_ref", "issued_at", "expires_at", "payload"]

/-- `SUPPORTED_ALGORITHM_ID`. -/
def supportedAlgorithmId : String := "rsa-pss-sha256-v1"

/-- `SUPPORTED_CLAIMS_VERSION`. -/
def supportedClaimsVersion : String := "2"

/-- `CertificateAuthorityRecord`. -/
structure CertificateAuthorityRecord where
  certificateRef : String
  issuerName : String
  algorithmId : String
  publicKeyPem : Option String
  deriving DecidableEq, Repr

/-- `SignedQRCodeClaims`. -/
structure SignedQRCodeClaims where
  version : String
  certificateRef : String
  issuedAt : String
  expiresAt : Option String
  payload : String
  deriving DecidableEq, Repr

/-- `SignedQRCodeEnvelope`. -/
structure SignedQRCodeEnvelope where
  claims : SignedQRCodeClaims
  signature : String
  codeAlgorithmId : Option String
  deriving DecidableEq, Repr

/-- `VerificationDecision`. -/
structure VerificationDecision where
  allowed : Bool
  reason : String
  canonicalClaims : String
  certificateAlgorithmId : String
  deriving DecidableEq, Repr

variable (py : PyRuntime)

/-- An ISO-8601 text as the services read it: a final `Z` stands for UTC. -/
def normalizeTimestamp (value : String) : String :=
  let normalized := PyString.strip value
  if PyString.endswith normalized "Z" then PyString.dropLast normalized ++ "+00:00"
  else normalized

/-- `parse_claim_timestamp` of a string. -/
def parseClaimTimestamp (label value : String) : Except PyError Datetime :=
  match py.fromisoformat (normalizeTimestamp value) with
  | none => .error (.signedSchemaError ("Field '" ++ label ++ "' must be an ISO-8601 timestamp"))
  | some parsed =>
      if parsed.utcoffset = none then
        .error (.signedSchemaError ("Field '" ++ label ++ "' must include timezone information"))
      else .ok parsed

/-- `parse_claim_timestamp` of any value. -/
def parseClaimTimestampValue (label : String) (value : PyJson) : Except PyError Datetime :=
  match value with
  | .str text => parseClaimTimestamp py label text
  | _ => .error (.signedSchemaError ("Field '" ++ label ++ "' must be an ISO-8601 timestamp"))

/-- `_require_non_empty_string`. -/
def requireNonEmptyString (label : String) (value : PyJson) : Except PyError String :=
  match value with
  | .str text =>
      let normalized := PyString.strip text
      if normalized = "" then
        .error (.signedSchemaError ("Field '" ++ label ++ "' must not be empty"))
      else .ok normalized
  | _ => .error (.signedSchemaError ("Field '" ++ label ++ "' must be a string"))

/-- `data[field]`, where the field is there. -/
def item (data : OrderedMap String PyJson) (field : String) : PyJson :=
  (data.get? field).getD .none

/-- `str(value)` of a string. -/
def strOf (value : PyJson) : String := value.asStr.getD ""

/-- The `expires_at` of a claims mapping: later than `issued_at`, or null. -/
def parseExpiresAt (issuedAt : Datetime) (rawExpiresAt : PyJson) :
    Except PyError (Option String) :=
  match rawExpiresAt with
  | .none => .ok none
  | raw => do
      let expiresAt ← parseClaimTimestampValue py "expires_at" raw
      if ← expiresAt.le issuedAt then
        throw (.signedSchemaError "Field 'expires_at' must be later than 'issued_at'")
      return some (strOf raw)

/-- `parse_claims_mapping`. -/
def parseClaimsMapping (data : OrderedMap String PyJson) :
    Except PyError SignedQRCodeClaims := do
  let missing := canonicalClaimOrder.filter fun field => !data.contains field
  if missing ≠ [] then
    throw (.signedSchemaError
      ("Missing required signed claim fields: " ++ py.reprList (missing.map .str)))
  let version ← requireNonEmptyString "version" (item data "version")
  if version ≠ supportedClaimsVersion then
    throw (.signedSchemaError
      ("Field 'version' must be exactly '" ++ supportedClaimsVersion ++ "' for this PoC"))
  let extras := (data.keys.filter fun field => field ∉ canonicalClaimOrder).mergeSort
  if extras ≠ [] then
    throw (.signedSchemaError
      ("Unknown signed claim fields are not allowed: " ++ py.reprList (extras.map .str)))
  let certificateRef ← requireNonEmptyString "certificate_ref" (item data "certificate_ref")
  let issuedAt ← parseClaimTimestampValue py "issued_at" (item data "issued_at")
  let expiresAt ← parseExpiresAt py issuedAt (item data "expires_at")
  let payload ← requireNonEmptyString "payload" (item data "payload")
  return { version := version
           certificateRef := certificateRef
           issuedAt := strOf (item data "issued_at")
           expiresAt := expiresAt
           payload := payload }

/-- `canonicalize_claims`: the claims in their fixed order, as compact JSON. -/
def canonicalizeClaims (claims : SignedQRCodeClaims) : String :=
  let text := fun (field value : String) => PyString.jsonString field ++ ":" ++ value
  "\x7b" ++ PyString.join ","
    [ text "version" (PyString.jsonString claims.version),
      text "certificate_ref" (PyString.jsonString claims.certificateRef),
      text "issued_at" (PyString.jsonString claims.issuedAt),
      text "expires_at" ((claims.expiresAt.map PyString.jsonString).getD "null"),
      text "payload" (PyString.jsonString claims.payload) ] ++ "\x7d"

/-- `canonical_claims_sha256`. -/
def canonicalClaimsSha256 (claims : SignedQRCodeClaims) : String :=
  py.sha256 (canonicalizeClaims claims)

/-- `compute_envelope_id`. -/
def computeEnvelopeId (claims : SignedQRCodeClaims) (signature : String) : String :=
  py.sha256 (canonicalizeClaims claims ++ "." ++ signature)

/-- `verify_signature`: an absent or empty key falls back to the configured one. -/
def verifySignature (config : BackendConfig) (payload signature : String)
    (publicKeyPem : Option String) : Except PyError Bool :=
  let key := ((publicKeyPem.filter (· ≠ "")).getD config.publicKey)
  if key = "" then
    .error (.valueError "Public key not provided and no default key configured")
  else .ok (py.verifiesRsaPss payload signature key)

/-- `verify_signed_envelope`. -/
def verifySignedEnvelope (config : BackendConfig) (envelope : SignedQRCodeEnvelope)
    (certificate : CertificateAuthorityRecord) : Except PyError VerificationDecision :=
  let refused := fun reason => Except.ok
    { allowed := false
      reason := reason
      canonicalClaims := ""
      certificateAlgorithmId := certificate.algorithmId }
  if certificate.algorithmId ≠ supportedAlgorithmId then
    refused ("Unsupported certificate algorithm_id: " ++ certificate.algorithmId)
  else if envelope.claims.certificateRef ≠ certificate.certificateRef then
    refused "Signed certificate_ref does not match the authoritative certificate record"
  else if envelope.codeAlgorithmId.any (· ≠ certificate.algorithmId) then
    refused ("Code metadata algorithm hint conflicts with the authoritative certificate "
      ++ "algorithm_id")
  else do
    let canonical := canonicalizeClaims envelope.claims
    let signatureValid ← verifySignature py config canonical envelope.signature
      certificate.publicKeyPem
    return { allowed := signatureValid
             reason :=
               if signatureValid then
                 "Canonical claims verified against the authoritative certificate"
               else "Signature verification failed for canonical signed claims"
             canonicalClaims := canonical
             certificateAlgorithmId := certificate.algorithmId }

end SignedSchema
