import QrTrust.Network.VerifierSync
import Mathlib.Data.List.Sort

/-! # The cryptographic signature verifier

    A signature is over the canonical text of a body without its signature
    fields.  The verifier looks the signer's key up, checks what the body says
    about its signature, and asks Ed25519 about the key it found: one key, the
    first that the lookup offers. -/

namespace SignatureVerification

open TrustKeys VerifierSync

/-- The host functions under a signature: the order of `localeCompare`, the text
    of a number, and the Ed25519 check of a PEM key, a payload and a signature
    as the body carries it. -/
structure SignatureHost where
  localeLess : String → String → Bool
  numberText : Rat → String
  verifyEd25519 : String → String → JsonValue → Bool

/-! ## Canonical text -/

/-- An array index among the keys of an object. -/
def arrayIndex (key : String) : Option Nat :=
  let digits := key.toList
  let value := digits.foldl (fun acc c => 10 * acc + (c.toNat - 48)) 0
  if digits ≠ [] ∧ digits.all (fun c => 48 ≤ c.toNat ∧ c.toNat ≤ 57)
      ∧ (digits.head? ≠ some '0' ∨ digits.length = 1) ∧ value < 4294967295 then some value
  else none

/-- `Object.fromEntries`: an object enumerates array indices first, in order, and
    then its other keys as they were added. -/
def fromEntries (fields : List (String × JsonValue)) : JsonValue :=
  .obj
    ((fields.filter fun field => (arrayIndex field.1).isSome).insertionSort
        (fun a b => (arrayIndex a.1).getD 0 ≤ (arrayIndex b.1).getD 0)
      ++ fields.filter fun field => (arrayIndex field.1).isNone)

/-- `entries.sort(([left], [right]) => left.localeCompare(right))`. -/
def sortEntries (localeLess : String → String → Bool) (fields : List (String × JsonValue)) :
    List (String × JsonValue) :=
  fields.insertionSort fun a b => localeLess b.1 a.1 = false

mutual
/-- `canonicalizeForJson`. -/
def canonicalizeForJson (localeLess : String → String → Bool) : JsonValue → JsonValue
  | .arr items => .arr (canonicalizeItems localeLess items)
  | .obj fields =>
      fromEntries (sortEntries localeLess (canonicalizeFields localeLess fields))
  | value => value
/-- The items of an array, each canonical. -/
def canonicalizeItems (localeLess : String → String → Bool) : List JsonValue → List JsonValue
  | [] => []
  | item :: rest => canonicalizeForJson localeLess item :: canonicalizeItems localeLess rest
/-- The properties of an object, each value canonical. -/
def canonicalizeFields (localeLess : String → String → Bool) :
    List (String × JsonValue) → List (String × JsonValue)
  | [] => []
  | (key, value) :: rest =>
      (key, canonicalizeForJson localeLess value) :: canonicalizeFields localeLess rest
end

/-- A hexadecimal digit. -/
def hexDigit (n : Nat) : Char := Char.ofNat (if n < 10 then 48 + n else 87 + n)

/-- A character inside a JSON string. -/
def escapeChar (c : Char) : List Char :=
  match c.toNat with
  | 34 => ['\x5c', c]
  | 92 => ['\x5c', c]
  | 8 => ['\x5c', 'b']
  | 9 => ['\x5c', 't']
  | 10 => ['\x5c', 'n']
  | 12 => ['\x5c', 'f']
  | 13 => ['\x5c', 'r']
  | n => if n < 32 then ['\x5c', 'u', '0', '0', hexDigit (n / 16), hexDigit (n % 16)] else [c]

/-- The text of a string. -/
def quote (s : String) : String :=
  "\x22" ++ String.ofList (s.toList.flatMap escapeChar) ++ "\x22"

mutual
/-- `JSON.stringify`. -/
def stringify (numberText : Rat → String) : JsonValue → String
  | .null => "null"
  | .bool true => "true"
  | .bool false => "false"
  | .num n => numberText n
  | .str s => quote s
  | .arr items => "[" ++ ",".intercalate (stringifyItems numberText items) ++ "]"
  | .obj fields => "\x7b" ++ ",".intercalate (stringifyFields numberText fields) ++ "\x7d"
/-- The texts of the items of an array. -/
def stringifyItems (numberText : Rat → String) : List JsonValue → List String
  | [] => []
  | item :: rest => stringify numberText item :: stringifyItems numberText rest
/-- The texts of the properties of an object. -/
def stringifyFields (numberText : Rat → String) : List (String × JsonValue) → List String
  | [] => []
  | (key, value) :: rest =>
      (quote key ++ ":" ++ stringify numberText value) :: stringifyFields numberText rest
end

/-- `canonicalJsonStringify`. -/
def canonicalJsonStringify (host : SignatureHost) (value : JsonValue) : String :=
  stringify host.numberText (canonicalizeForJson host.localeLess value)

/-! ## What is signed -/

/-- The properties a signature does not cover, at any depth. -/
def isSignatureMetadata (key : String) : Bool :=
  key ∈ ["signature", "signature_algorithm_id", "signature_input", "signature_status"]

mutual
/-- `stripSignatureMetadata`. -/
def stripSignatureMetadata : JsonValue → JsonValue
  | .arr items => .arr (stripItems items)
  | .obj fields => fromEntries (stripFields fields)
  | value => value
/-- The items of an array, each stripped. -/
def stripItems : List JsonValue → List JsonValue
  | [] => []
  | item :: rest => stripSignatureMetadata item :: stripItems rest
/-- The properties that stay, each value stripped. -/
def stripFields : List (String × JsonValue) → List (String × JsonValue)
  | [] => []
  | (key, value) :: rest =>
      if isSignatureMetadata key then stripFields rest
      else (key, stripSignatureMetadata value) :: stripFields rest
end

/-- `trustSignaturePayloadBytes`: the text the bytes encode. -/
def trustSignaturePayload (host : SignatureHost) (artifact : JsonValue) : String :=
  canonicalJsonStringify host (stripSignatureMetadata artifact)

/-! ## The signer's key -/

/-- `trustSignatureInput`. -/
def trustSignatureInput : String := "canonical-json-excluding-signature"

/-- `trustSignatureStatus`. -/
def trustSignatureStatus : String := "ed25519-signed"

/-- Every substring of a text. -/
def substrings (s : String) : List String :=
  (s.toList.tails.flatMap List.inits).map String.ofList

/-- `artifact.accepted_algorithm_ids ?? ["ed25519"]`, as what its `includes`
    answers: a body may carry an array or a string there, and anything else has
    no `includes`. -/
def acceptedAlgorithmIds (body : JsonValue) : Option (List String) :=
  match body.nonNull "accepted_algorithm_ids" with
  | none => some ["ed25519"]
  | some (.arr items) => some (items.filterMap JsonValue.asString)
  | some (.str s) => some (substrings s)
  | some _ => none

/-- The lookup of a body, given the algorithms it accepts; `none` where the body
    names no signer or no root, which no key matches. -/
def lookupInput (body : JsonValue) (accepted : List String) : Option TrustKeyLookupInput := do
  let signedBy ← body.stringField "signed_by"
  let rootProgramId ← body.stringField "root_program_id"
  return { signedBy, rootProgramId
           acceptedAlgorithmIds := accepted
           delegatedAuthorityId := JsString.truthy (body.stringField "delegated_authority_id") }

/-- The lookup a body leads to; it throws where a key in scope is held against
    something without `includes`. -/
def lookupSigner (lookup : TrustKeyLookupInput → TrustKeyLookupResult) (body : JsonValue) :
    Except String TrustKeyLookupResult :=
  match acceptedAlgorithmIds body with
  | some accepted =>
      .ok (((lookupInput body accepted).map lookup).getD { reason := some .keyNotFound })
  | none =>
      let found := ((lookupInput body []).map lookup).getD { reason := some .keyNotFound }
      if found.reason = some .algorithmNotAccepted then
        .error "accepted_algorithm_ids.includes is not a function"
      else .ok found

/-- The text of a lookup reason. -/
def reasonText : TrustKeyLookupReason → String
  | .keyNotFound => "key_not_found"
  | .keyNotActive => "key_not_active"
  | .algorithmNotAccepted => "algorithm_not_accepted"
  | .scopeMismatch => "scope_mismatch"

/-! ## The verifier -/

/-- Is the value truthy? -/
def truthyValue : JsonValue → Bool
  | .null => false
  | .bool b => b
  | .num n => n ≠ 0
  | .str s => s ≠ ""
  | _ => true

/-- `KeyMaterialProviderShape`: the PEM of a key, or a failure to load it. -/
abbrev KeyMaterialProvider := TrustKeyRecord → Except String (Option String)

/-- `makeCryptographicSignatureVerifier`. -/
def verifyTrustArtifact (host : SignatureHost)
    (lookup : TrustKeyLookupInput → TrustKeyLookupResult) (keyMaterial : KeyMaterialProvider)
    (artifact : JsonValue) : Except String SignatureVerificationResult :=
  match lookupSigner lookup artifact with
  | .error cause => .error cause
  | .ok found =>
      match found.reason with
      | some reason => .ok ⟨false, reasonText reason⟩
      | none =>
          if artifact.stringField "signature_algorithm_id" ≠ some "ed25519" then
            .ok ⟨false, "unsupported_signature_algorithm"⟩
          else if artifact.stringField "signature_input" ≠ some trustSignatureInput then
            .ok ⟨false, "invalid_signature_input"⟩
          else
            match (artifact.prop "signature").filter truthyValue with
            | none => .ok ⟨false, "missing_signature"⟩
            | some signature =>
                match found.key with
                | none => .ok ⟨false, "key_material_unavailable"⟩
                | some key =>
                    match keyMaterial key with
                    | .error cause => .error cause
                    | .ok none => .ok ⟨false, "key_material_unavailable"⟩
                    | .ok (some publicKeyPem) =>
                        if host.verifyEd25519 publicKeyPem (trustSignaturePayload host artifact)
                            signature then .ok ⟨true, "signature_verified"⟩
                        else .ok ⟨false, "signature_verification_failed"⟩

/-- The verifier as a collaborator of the sync service.  Where it fails, the
    source ends the run; here that artifact is rejected, so that a run of the
    model writes at least what the source does. -/
def asCollaborator (host : SignatureHost)
    (lookup : Option TrustKeyRegistry → TrustKeyLookupInput → TrustKeyLookupResult)
    (keyMaterial : KeyMaterialProvider) (registry : Option TrustKeyRegistry)
    (artifact : JsonValue) : SignatureVerificationResult :=
  match verifyTrustArtifact host (lookup registry) keyMaterial artifact with
  | .ok result => result
  | .error cause => ⟨false, cause⟩

end SignatureVerification
