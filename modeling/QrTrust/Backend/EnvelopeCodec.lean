import QrTrust.Backend.JsonText

/-! # Envelopes as QR payloads

    The QR payload of a signed envelope is its compact JSON; a scanned payload is
    parsed back into the envelope contract. -/

namespace QrArtifact

open SignedSchema JsonText

/-- `_validate_qr_payload_size`. -/
def validateQrPayloadSize (maxQrPayloadChars : Nat) (qrPayload : String) : Except PyError String :=
  if PyString.strip qrPayload = "" then
    .error (.qrArtifactError "QR payload must be a non-empty string")
  else if maxQrPayloadChars < PyString.len qrPayload then
    .error (.qrArtifactError ("QR payload exceeds the maximum supported size of "
      ++ toString maxQrPayloadChars ++ " characters"))
  else .ok qrPayload

/-- The claims mapping of the payload: its fields in canonical order, as JSON. -/
def claimsMapping (claims : SignedQRCodeClaims) : List (String × String) :=
  [ ("version", PyString.jsonString claims.version),
    ("certificate_ref", PyString.jsonString claims.certificateRef),
    ("issued_at", PyString.jsonString claims.issuedAt),
    ("expires_at", (claims.expiresAt.map PyString.jsonString).getD "null"),
    ("payload", PyString.jsonString claims.payload) ]

/-- `payload_mapping`: the hint stands in it where it is not `None`. -/
def payloadMapping (envelope : SignedQRCodeEnvelope) : List (String × String) :=
  [ ("claims", jsonObject (claimsMapping envelope.claims)),
    ("signature", PyString.jsonString envelope.signature) ]
  ++ (envelope.codeAlgorithmId.map fun hint =>
    ("code_algorithm_id", PyString.jsonString hint)).toList

/-- `encode_envelope_as_qr_payload`. -/
def encodeEnvelopeAsQrPayload (maxQrPayloadChars : Nat) (envelope : SignedQRCodeEnvelope) :
    Except PyError String :=
  validateQrPayloadSize maxQrPayloadChars (jsonObject (payloadMapping envelope))

/-- `allowed_keys`. -/
def allowedKeys : List String := ["claims", "signature", "code_algorithm_id"]

/-- The `claims` of a payload mapping. -/
def claimsOf (fields : List (String × PyJson)) : Except PyError (OrderedMap String PyJson) :=
  match PyJson.get fields "claims" with
  | .dict claims => .ok (OrderedMap.ofList claims)
  | _ => .error (.qrArtifactError "QR payload must contain a 'claims' object")

/-- The `signature` of a payload mapping, as it stands there. -/
def signatureOf (fields : List (String × PyJson)) : Except PyError String :=
  let refused := Except.error
    (.qrArtifactError "QR payload must contain a non-empty 'signature' string")
  match PyJson.get fields "signature" with
  | .str signature => if PyString.strip signature = "" then refused else .ok signature
  | _ => refused

/-- The `code_algorithm_id` of a payload mapping, as it stands there. -/
def codeAlgorithmIdOf (fields : List (String × PyJson)) : Except PyError (Option String) :=
  match PyJson.get fields "code_algorithm_id" with
  | .none => .ok none
  | .str hint => .ok (some hint)
  | _ => .error (.qrArtifactError "'code_algorithm_id' must be a string when present")

/-- `except SignedSchemaError as exc: raise QRArtifactError(str(exc))`. -/
def asQrArtifactError : PyError → PyError
  | .signedSchemaError text => .qrArtifactError text
  | error => error

/-- `code_algorithm_id.strip() if code_algorithm_id else None`. -/
def normalizedHint (codeAlgorithmId : Option String) : Option String :=
  (codeAlgorithmId.filter (· ≠ "")).map PyString.strip

/-- The envelope of a payload mapping. -/
def envelopeOfMapping (py : PyRuntime) (fields : List (String × PyJson)) :
    Except PyError SignedQRCodeEnvelope := do
  let extras := ((fields.map Prod.fst).filter fun key => key ∉ allowedKeys).mergeSort
  if extras ≠ [] then
    throw (.qrArtifactError ("QR payload contains unsupported envelope keys: "
      ++ py.reprList (extras.map .str)))
  let claimsRaw ← claimsOf fields
  let signature ← signatureOf fields
  let codeAlgorithmId ← codeAlgorithmIdOf fields
  let claims ← (parseClaimsMapping py claimsRaw).mapError asQrArtifactError
  return { claims := claims
           signature := PyString.strip signature
           codeAlgorithmId := normalizedHint codeAlgorithmId }

/-- The envelope of what a payload decodes to, where it is JSON. -/
def envelopeOfJson (py : PyRuntime) : Option PyJson → Except PyError SignedQRCodeEnvelope
  | none => .error (.qrArtifactError "QR payload must be valid JSON")
  | some (.dict fields) => envelopeOfMapping py fields
  | some _ => .error (.qrArtifactError "QR payload must decode to an object")

/-- `decode_envelope_from_qr_payload`. -/
def decodeEnvelopeFromQrPayload (py : PyRuntime)
    (number : List Char → Option (PyJson × List Char)) (maxQrPayloadChars : Nat)
    (qrPayload : String) : Except PyError SignedQRCodeEnvelope := do
  let qrPayload ← validateQrPayloadSize maxQrPayloadChars qrPayload
  envelopeOfJson py (loads number qrPayload)

end QrArtifact
