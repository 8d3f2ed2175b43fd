import QrTrust.Network.CanonicalJsonProofs
import QrTrust.Network.SignatureAcceptanceProofs
import QrTrust.Network.SigningCustody

/-! # What the signer returns

    The signer selects the first usable signing key, as the verifier selects the
    first usable trust key, and what it adds to a body lies in the signature
    fields, which no signature covers. -/

namespace JsonValue

variable {fields : List (String × JsonValue)} {key : String} {value : JsonValue}

/-! ## Writing one field -/

theorem withField_obj : (obj fields).withField key (some value)
    = obj (OrderedMap.setEntries fields key value) := rfl

theorem distinct_withField (h : Distinct (obj fields)) (hvalue : Distinct value) :
    Distinct ((obj fields).withField key (some value)) := by
  refine ⟨OrderedMap.nodup_setEntries h.1 key value, distinctFields_iff.mpr ?_⟩
  rintro ⟨k, v⟩ hmem
  rcases (OrderedMap.mem_set ⟨fields, h.1⟩ key k value v).mp hmem with ⟨-, rfl⟩ | ⟨-, hold⟩
  · exact hvalue
  · exact distinctFields_iff.mp h.2 (k, v) hold

/-- **ONE FIELD**: the written field reads the new value, the others the old ones. -/
theorem prop_withField (h : Distinct (obj fields)) (key' : String) :
    ((obj fields).withField key (some value)).prop key'
      = if key' = key then some value else (obj fields).prop key' :=
  OrderedMap.get?_set ⟨fields, h.1⟩ key key' value

/-- A document with a property is an object. -/
theorem exists_obj_of_prop {v : JsonValue} (h : v.prop key = some value) :
    ∃ fields, v = obj fields := by
  cases v with
  | obj fields => exact ⟨fields, rfl⟩
  | _ => cases h

/-- A document after some fields were written. -/
def withStrings (v : JsonValue) (writes : List (String × String)) : JsonValue :=
  writes.foldl (fun v write => v.withField write.1 (some (.str write.2))) v

theorem exists_withStrings (h : Distinct (obj fields)) (writes : List (String × String)) :
    ∃ fields', (obj fields).withStrings writes = obj fields' ∧ Distinct (obj fields') := by
  induction writes generalizing fields with
  | nil => exact ⟨fields, rfl, h⟩
  | cons write rest ih =>
      have hwritten : Distinct ((obj fields).withField write.1 (some (.str write.2))) :=
        distinct_withField h trivial
      exact ih hwritten

/-- The last write under a key stands; a key that is not written reads as before. -/
theorem prop_withStrings (h : Distinct (obj fields)) (writes : List (String × String))
    (key : String) :
    ((obj fields).withStrings writes).prop key
      = ((writes.reverse.find? fun write => write.1 = key).map fun write => .str write.2).or
          ((obj fields).prop key) := by
  induction writes generalizing fields with
  | nil => rfl
  | cons write rest ih =>
      have hwritten : Distinct ((obj fields).withField write.1 (some (.str write.2))) :=
        distinct_withField h trivial
      have htail : (((obj fields).withField write.1 (some (.str write.2))).withStrings rest).prop key
          = ((rest.reverse.find? fun write => write.1 = key).map fun write => .str write.2).or
              (((obj fields).withField write.1 (some (.str write.2))).prop key) := ih hwritten
      show (((obj fields).withField write.1 (some (.str write.2))).withStrings rest).prop key = _
      rw [htail, prop_withField h, List.reverse_cons, List.find?_append, List.find?_singleton]
      by_cases hkey : key = write.1
      · rw [if_pos hkey, if_pos (decide_eq_true hkey.symm)]
        cases rest.reverse.find? fun write => decide (write.1 = key) with
        | none => rfl
        | some last => rfl
      · rw [if_neg hkey, if_neg (by simpa using fun heq => hkey heq.symm), Option.or_none]

end JsonValue

namespace SigningCustody

open JsonValue TrustKeys SignatureVerification CanonicalJson

variable {host : SigningHost} {signingKeys : List SigningKeyRecord}

/-! ## The key that signs -/

/-- **USABLE FOR SIGNING**: a candidate of the request, in its scope, of an
    accepted algorithm, and active. -/
def usableSigningKey (request : SigningCustodyRequest) (key : SigningKeyRecord) : Bool :=
  isSigningCandidate request key
    && (signingKeyMatchesScope key request
      && ((request.acceptedAlgorithmIds.getD ["ed25519"]).contains key.algorithmId
        && key.status = .active))

theorem find?_usableSigningKey (request : SigningCustodyRequest) :
    signingKeys.find? (usableSigningKey request)
      = (((signingKeys.filter (isSigningCandidate request)).filter fun key =>
            signingKeyMatchesScope key request).filter fun key =>
          (request.acceptedAlgorithmIds.getD ["ed25519"]).contains key.algorithmId).find?
        fun key => key.status = .active := by
  rw [List.find?_filter, List.find?_filter, List.find?_filter]
  refine congrArg (fun p => signingKeys.find? p) (funext fun key => ?_)
  rw [usableSigningKey, Bool.eq_iff_iff]
  simp only [Bool.and_eq_true, decide_eq_true_eq]

/-- **SELECTION**: the first usable key is selected. -/
theorem selectSigningKey_some {request : SigningCustodyRequest} {key : SigningKeyRecord}
    (h : signingKeys.find? (usableSigningKey request) = some key) :
    selectSigningKey signingKeys request = .ok (some key) := by
  rw [find?_usableSigningKey] at h
  rw [selectSigningKey]
  -- a key came out of the last filter, so none of the lists before it is empty
  split
  · rename_i hcandidates
    rw [hcandidates] at h
    cases h
  · rename_i hcandidates
    rw [hcandidates] at h
    split
    · rename_i hscope
      rw [hscope] at h
      cases h
    · rename_i hscope
      rw [hscope] at h
      split
      · rename_i halgorithm
        rw [halgorithm] at h
        cases h
      · rename_i halgorithm
        rw [halgorithm] at h
        rw [h]

/-- What the static provider answers when the selected key is an Ed25519 key
    whose material is there and signs. -/
theorem static_signs {materialByRef : String → Option String} {source : SigningMaterialSource}
    {request : SigningCustodyRequest} {key : SigningKeyRecord} {privateKeyPem signature : String}
    (hkey : signingKeys.find? (usableSigningKey request) = some key)
    (halgorithm : key.algorithmId = "ed25519")
    (hmaterial : materialByRef key.privateKeyMaterialRef = some privateKeyPem)
    (hpem : privateKeyPem ≠ "")
    (hsigns : host.signEd25519 privateKeyPem request.payload = some signature) :
    ∃ custody, makeStaticSigningCustodyProvider host signingKeys materialByRef source request
        = .ok (some custody)
      ∧ custody.signature = signature ∧ custody.algorithmId = "ed25519" := by
  have htruthy : JsString.truthy (some privateKeyPem) = some privateKeyPem := by
    rw [JsString.truthy, Option.filter_some, if_pos (decide_eq_true hpem)]
  have hsigned : signEd25519Payload host request.payload privateKeyPem key source
      = .ok
          { keyId := key.keyId
            signerId := key.signerId
            algorithmId := key.algorithmId
            signature
            privateKeyMaterialRef := key.privateKeyMaterialRef
            source } := by
    rw [signEd25519Payload, if_neg (not_not.mpr halgorithm), hsigns]
  refine ⟨{ keyId := key.keyId, signerId := key.signerId, algorithmId := key.algorithmId
            signature, privateKeyMaterialRef := key.privateKeyMaterialRef, source },
    ?_, rfl, halgorithm⟩
  show (selectSigningKey signingKeys request >>= _) = _
  rw [selectSigningKey_some hkey]
  simp only [bind, Except.bind, hmaterial, htruthy]
  rw [hsigned]
  rfl

/-! ## The body that comes back -/

/-- The fields `normalizeSigningBody` writes. -/
def identityFields (input : TrustArtifactSigningInput) : List (String × String) :=
  [("root_program_id", input.rootProgramId), ("signed_by", input.signedBy)]
    ++ ((JsString.truthy input.delegatedAuthorityId).map fun authority =>
        ("delegated_authority_id", authority)).toList

theorem normalizeSigningBody_eq (input : TrustArtifactSigningInput) :
    normalizeSigningBody input = input.body.withStrings (identityFields input) := by
  rw [normalizeSigningBody, identityFields]
  cases JsString.truthy input.delegatedAuthorityId with
  | none => rfl
  | some authority => rfl

/-- The fields of a signature. -/
def signatureFields (signature : SigningCustodySignature) : List (String × String) :=
  [("signature_algorithm_id", signature.algorithmId), ("signature_input", trustSignatureInput),
   ("signature", signature.signature), ("signature_status", trustSignatureStatus)]

theorem signedBody_eq (unsignedBody : JsonValue) (signature : SigningCustodySignature) :
    signedBody unsignedBody signature = unsignedBody.withStrings (signatureFields signature) :=
  rfl

/-- Every field of a signature is one that no signature covers. -/
theorem signatureFields_metadata {signature : SigningCustodySignature} {write : String × String}
    {key : String} (h : write ∈ signatureFields signature) (hkey : write.1 = key) :
    isSignatureMetadata key = true := by
  rw [← hkey]
  simp only [signatureFields, List.mem_cons, List.not_mem_nil, or_false] at h
  rcases h with rfl | rfl | rfl | rfl
  all_goals simp [isSignatureMetadata]

/-- A covered field reads as before. -/
theorem prop_signedBody {fields : List (String × JsonValue)} (h : Distinct (obj fields))
    (signature : SigningCustodySignature) (key : String)
    (hcovered : isSignatureMetadata key = false) :
    (signedBody (obj fields) signature).prop key = (obj fields).prop key := by
  have hunwritten : (signatureFields signature).reverse.find? (fun write => write.1 = key)
      = none := by
    refine List.find?_eq_none.mpr fun write hwrite heq => ?_
    rw [signatureFields_metadata (List.mem_reverse.mp hwrite) (of_decide_eq_true heq)] at hcovered
    cases hcovered
  rw [signedBody_eq, prop_withStrings h, hunwritten]
  rfl

/-- **NOT COVERED**: writing signature fields leaves the signed form. -/
theorem signedForm_signedBody {localeLess : String → String → Bool}
    (hless : KeyedSort.StrictTotal localeLess) {fields : List (String × JsonValue)}
    (h : Distinct (obj fields)) (signature : SigningCustodySignature) :
    signedForm localeLess (signedBody (obj fields) signature)
      = signedForm localeLess (obj fields) := by
  obtain ⟨fields', hfields', hdistinct⟩ := exists_withStrings h (signatureFields signature)
  have hprop := prop_signedBody h signature
  rw [← signedBody_eq] at hfields'
  rw [hfields'] at hprop ⊢
  refine signedForm_eq_of_prop hless hdistinct.1 h.1 fun key hcovered => ?_
  rw [hprop key hcovered]

end SigningCustody
