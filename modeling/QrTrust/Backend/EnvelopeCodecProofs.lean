import QrTrust.Backend.EnvelopeCodec
import QrTrust.Backend.TimeWindowProofs

/-! # Envelopes through the codec

    The payload of an envelope is read back (`decode_encode`): claims that were
    parsed come back as they are, and with them the text that was signed.  The
    signature and the hint are stripped on the way back, and an empty hint is
    dropped, so an envelope survives exactly where there is nothing to strip
    (`survives_iff`). -/

namespace QrArtifact

open SignedSchema JsonText Fallible TrustStore

variable {py : PyRuntime} {number : List Char → Option (PyJson × List Char)}
  {maxQrPayloadChars : Nat}

/-! ## The payload is read back -/

/-- The claims as a decoded mapping. -/
def claimsFields (claims : SignedQRCodeClaims) : List (String × PyJson) :=
  [ ("version", .str claims.version), ("certificate_ref", .str claims.certificateRef),
    ("issued_at", .str claims.issuedAt), ("expires_at", (claims.expiresAt.map PyJson.str).getD .none),
    ("payload", .str claims.payload) ]

/-- The envelope as a decoded mapping. -/
def envelopeFields (envelope : SignedQRCodeEnvelope) : List (String × PyJson) :=
  [("claims", .dict (claimsFields envelope.claims)), ("signature", .str envelope.signature)]
  ++ (envelope.codeAlgorithmId.map fun hint => ("code_algorithm_id", PyJson.str hint)).toList

theorem nodup_claimsFields (claims : SignedQRCodeClaims) :
    ((claimsFields claims).map Prod.fst).Nodup := by
  show ["version", "certificate_ref", "issued_at", "expires_at", "payload"].Nodup
  decide

theorem nodup_envelopeFields (envelope : SignedQRCodeEnvelope) :
    ((envelopeFields envelope).map Prod.fst).Nodup := by
  obtain ⟨claims, signature, _ | hint⟩ := envelope
  · show ["claims", "signature"].Nodup
    decide
  · show ["claims", "signature", "code_algorithm_id"].Nodup
    decide

theorem memberReads_jsonString (name text : String) :
    MemberReads number (name, PyString.jsonString text) (name, .str text) :=
  ⟨rfl, reads_jsonString text⟩

theorem reads_orNull (text : Option String) :
    Reads number ((text.map PyJson.str).getD .none) ((text.map PyString.jsonString).getD "null") := by
  cases text with
  | none => exact reads_null
  | some text => exact reads_jsonString text

theorem reads_claims (claims : SignedQRCodeClaims) :
    Reads number (.dict (claimsFields claims)) (jsonObject (claimsMapping claims)) := by
  refine reads_jsonObject ?_ (List.cons_ne_nil _ _) (nodup_claimsFields claims)
  exact .cons (memberReads_jsonString ..) (.cons (memberReads_jsonString ..)
    (.cons (memberReads_jsonString ..) (.cons ⟨rfl, reads_orNull _⟩
      (.cons (memberReads_jsonString ..) .nil))))

/-- **PAYLOAD**: the payload of an envelope is its mapping. -/
theorem reads_envelope (envelope : SignedQRCodeEnvelope) :
    Reads number (.dict (envelopeFields envelope)) (jsonObject (payloadMapping envelope)) := by
  refine reads_jsonObject ?_ (List.cons_ne_nil _ _) (nodup_envelopeFields envelope)
  refine .cons ⟨rfl, reads_claims _⟩ (.cons (memberReads_jsonString ..) ?_)
  cases envelope.codeAlgorithmId with
  | none => exact .nil
  | some hint => exact .cons (memberReads_jsonString ..) .nil

/-! ## The envelope comes back -/

theorem ok_bind {α β : Type} (a : α) (f : α → Except PyError β) : (Except.ok a >>= f) = f a := rfl

theorem validateQrPayloadSize_ok {text payload : String}
    (h : validateQrPayloadSize maxQrPayloadChars text = .ok payload) :
    text = payload ∧ validateQrPayloadSize maxQrPayloadChars payload = .ok payload := by
  have hsame : text = payload := by
    rw [validateQrPayloadSize] at h
    split at h
    · cases h
    split at h
    · cases h
    · exact Except.ok.inj h
  exact ⟨hsame, hsame ▸ h⟩

theorem entries_claimsFields (claims : SignedQRCodeClaims) :
    OrderedMap.ofList (claimsFields claims) = ⟨claimsFields claims, nodup_claimsFields claims⟩ := by
  have hentries : (OrderedMap.ofList (claimsFields claims)).entries = claimsFields claims :=
    OrderedMap.entries_setAll_of_nodup (nodup_claimsFields claims)
  cases hmap : OrderedMap.ofList (claimsFields claims) with
  | mk entries hnodup =>
      rw [hmap] at hentries
      subst hentries
      rfl

theorem isMappingOf_claimsFields (claims : SignedQRCodeClaims) :
    IsMappingOf (OrderedMap.ofList (claimsFields claims)) claims := by
  rw [entries_claimsFields]
  exact ⟨fun _ => Iff.rfl, rfl, rfl, rfl, rfl, rfl⟩

/-- The envelope as the decoder returns it. -/
def normalized (envelope : SignedQRCodeEnvelope) : SignedQRCodeEnvelope :=
  { envelope with
    signature := PyString.strip envelope.signature
    codeAlgorithmId := normalizedHint envelope.codeAlgorithmId }

theorem extras_envelopeFields (envelope : SignedQRCodeEnvelope) :
    ((envelopeFields envelope).map Prod.fst).filter (fun key => key ∉ allowedKeys) = [] := by
  obtain ⟨claims, signature, _ | hint⟩ := envelope <;> rfl

theorem codeAlgorithmIdOf_envelopeFields (envelope : SignedQRCodeEnvelope) :
    codeAlgorithmIdOf (envelopeFields envelope) = .ok envelope.codeAlgorithmId := by
  obtain ⟨claims, signature, _ | hint⟩ := envelope <;> rfl

/-- **DECODE**: the mapping of an envelope is parsed into it, stripped. -/
theorem envelopeOfMapping_envelopeFields {envelope : SignedQRCodeEnvelope}
    (hclaims : IsNormal py envelope.claims) :
    envelopeOfMapping py (envelopeFields envelope) =
      if PyString.strip envelope.signature = "" then
        .error (.qrArtifactError "QR payload must contain a non-empty 'signature' string")
      else .ok (normalized envelope) := by
  have hparsed := parseClaimsMapping_normal (isMappingOf_claimsFields envelope.claims) hclaims
  have hclaimsOf : claimsOf (envelopeFields envelope)
      = .ok (OrderedMap.ofList (claimsFields envelope.claims)) := rfl
  have hsignature : signatureOf (envelopeFields envelope)
      = if PyString.strip envelope.signature = "" then
          .error (.qrArtifactError "QR payload must contain a non-empty 'signature' string")
        else .ok envelope.signature := rfl
  rw [envelopeOfMapping, extras_envelopeFields]
  dsimp only
  rw [if_neg (by simp), hclaimsOf, hsignature, codeAlgorithmIdOf_envelopeFields]
  by_cases hblank : PyString.strip envelope.signature = ""
  · rw [if_pos hblank, if_pos hblank]
    rfl
  · rw [if_neg hblank, if_neg hblank]
    refine bind_eq_ok_iff.mpr ⟨_, rfl, bind_eq_ok_iff.mpr ⟨_, rfl, bind_eq_ok_iff.mpr
      ⟨_, rfl, bind_eq_ok_iff.mpr ⟨envelope.claims, ?_, rfl⟩⟩⟩⟩
    rw [hparsed]
    rfl

/-- **ROUND TRIP**: an emitted payload is decoded into the envelope, stripped. -/
theorem decode_encode {envelope : SignedQRCodeEnvelope} {payload : String}
    (hclaims : IsNormal py envelope.claims)
    (hpayload : encodeEnvelopeAsQrPayload maxQrPayloadChars envelope = .ok payload) :
    decodeEnvelopeFromQrPayload py number maxQrPayloadChars payload =
      if PyString.strip envelope.signature = "" then
        .error (.qrArtifactError "QR payload must contain a non-empty 'signature' string")
      else .ok (normalized envelope) := by
  obtain ⟨rfl, hvalid⟩ := validateQrPayloadSize_ok hpayload
  have hloads : loads number (jsonObject (payloadMapping envelope))
      = some (.dict (envelopeFields envelope)) := loads_of_reads (reads_envelope envelope)
  rw [decodeEnvelopeFromQrPayload, hvalid, ok_bind, hloads]
  exact envelopeOfMapping_envelopeFields hclaims

/-! ## What survives -/

/-- The payload brings the envelope back, the text that was signed, and every
    verification of it. -/
structure Survives (py : PyRuntime) (number : List Char → Option (PyJson × List Char))
    (maxQrPayloadChars : Nat) (envelope : SignedQRCodeEnvelope) (payload : String) : Prop where
  returned : decodeEnvelopeFromQrPayload py number maxQrPayloadChars payload = .ok envelope
  message : ∀ decoded,
    decodeEnvelopeFromQrPayload py number maxQrPayloadChars payload = .ok decoded →
      canonicalizeClaims decoded.claims = canonicalizeClaims envelope.claims
  verified : ∀ decoded config certificate,
    decodeEnvelopeFromQrPayload py number maxQrPayloadChars payload = .ok decoded →
      verifySignedEnvelope py config decoded certificate
        = verifySignedEnvelope py config envelope certificate

theorem normalizedHint_eq_self_iff {hint : Option String} :
    normalizedHint hint = hint ↔ ∀ text, hint = some text → IsKept text := by
  cases hint with
  | none => exact ⟨fun _ text h => (nomatch h), fun _ => rfl⟩
  | some text =>
      by_cases hempty : text = ""
      · subst hempty
        exact ⟨fun h => (nomatch h), fun h => absurd rfl (h "" rfl).nonempty⟩
      · have hkept : normalizedHint (some text) = some (PyString.strip text) := by
          rw [normalizedHint, Option.filter_some, if_pos (by simpa using hempty), Option.map_some]
        rw [hkept]
        constructor
        · intro h text' htext
          obtain rfl := Option.some.inj htext
          exact ⟨Option.some.inj h, hempty⟩
        · intro h
          exact congrArg some (h text rfl).stripped

/-- **SURVIVAL**: of the envelopes whose claims were parsed, those survive whose
    signature and hint have nothing to strip and are not empty. -/
theorem survives_iff {data : OrderedMap String PyJson} {envelope : SignedQRCodeEnvelope}
    {payload : String} (hclaims : parseClaimsMapping py data = .ok envelope.claims)
    (hpayload : encodeEnvelopeAsQrPayload maxQrPayloadChars envelope = .ok payload) :
    Survives py number maxQrPayloadChars envelope payload ↔
      IsKept envelope.signature ∧
        ∀ hint, envelope.codeAlgorithmId = some hint → IsKept hint := by
  have hnormal := isNormal_of_parsed hclaims
  constructor
  · intro h
    have hsame := @decode_encode py number maxQrPayloadChars _ _ hnormal hpayload
    rw [h.returned] at hsame
    split at hsame
    · cases hsame
    · rename_i hblank
      have hsame := Except.ok.inj hsame
      have hsignature : envelope.signature = PyString.strip envelope.signature :=
        congrArg SignedQRCodeEnvelope.signature hsame
      have hhint : envelope.codeAlgorithmId = normalizedHint envelope.codeAlgorithmId :=
        congrArg SignedQRCodeEnvelope.codeAlgorithmId hsame
      exact ⟨⟨hsignature.symm, hsignature ▸ hblank⟩, normalizedHint_eq_self_iff.mp hhint.symm⟩
  · rintro ⟨hsignature, hhint⟩
    have hsame : normalized envelope = envelope := by
      rw [normalized, hsignature.stripped, normalizedHint_eq_self_iff.mpr hhint]
    have hreturned : decodeEnvelopeFromQrPayload py number maxQrPayloadChars payload
        = .ok envelope := by
      rw [decode_encode hnormal hpayload, hsignature.stripped, if_neg hsignature.nonempty, hsame]
    refine ⟨hreturned, ?_, ?_⟩
    · intro decoded hdecoded
      obtain rfl := Except.ok.inj (hreturned.symm.trans hdecoded)
      rfl
    · intro decoded config certificate hdecoded
      obtain rfl := Except.ok.inj (hreturned.symm.trans hdecoded)
      rfl

/-! ## What the encoder emits -/

/-- A mapping of short texts has a short text. -/
theorem length_jsonObject_le {members : List (String × String)} {names texts : Nat}
    (hmembers : ∀ member ∈ members, (PyString.jsonString member.1).toList.length ≤ names ∧
      member.2.toList.length ≤ texts) :
    (jsonObject members).toList.length ≤ members.length * (names + texts + 2) + 2 := by
  have hle : (jsonMembers members).toList.length ≤ members.length * (names + texts + 2) := by
    induction members with
    | nil => exact Nat.zero_le _
    | cons member members ih =>
        obtain ⟨name, text⟩ := member
        obtain ⟨hname, htext⟩ := hmembers _ List.mem_cons_self
        dsimp only at hname htext
        have hrest := ih fun member hmember => hmembers member (List.mem_cons_of_mem _ hmember)
        rw [List.length_cons, Nat.add_mul, Nat.one_mul]
        cases members with
        | nil =>
            rw [toList_jsonMembers_singleton, List.length_append, List.length_cons]
            omega
        | cons next members =>
            rw [toList_jsonMembers_cons, List.length_append, List.length_cons, List.length_append,
              List.length_cons]
            omega
  rw [toList_jsonObject, List.length_cons, List.length_append, List.length_singleton]
  omega

theorem strip_jsonObject_ne (members : List (String × String)) :
    PyString.strip (jsonObject members) ≠ "" := by
  have hstripped : PyString.strip (jsonObject members) = jsonObject members := by
    refine DestinationCanonicalization.strip_eq_self_iff.mpr ⟨?_, ?_⟩
    · intro c hc
      rw [toList_jsonObject, List.head?_cons] at hc
      obtain rfl := Option.some.inj hc
      decide
    · intro c hc
      rw [toList_jsonObject, ← List.cons_append, List.getLast?_concat] at hc
      obtain rfl := Option.some.inj hc
      decide
  rw [hstripped]
  intro hempty
  have hlist := congrArg String.toList hempty
  rw [toList_jsonObject] at hlist
  cases hlist

/-- The encoder refuses nothing but what is too long. -/
theorem encode_of_short {envelope : SignedQRCodeEnvelope}
    (hshort : PyString.len (jsonObject (payloadMapping envelope)) ≤ maxQrPayloadChars) :
    encodeEnvelopeAsQrPayload maxQrPayloadChars envelope
      = .ok (jsonObject (payloadMapping envelope)) := by
  rw [encodeEnvelopeAsQrPayload, validateQrPayloadSize, if_neg (strip_jsonObject_ne _),
    if_neg (Nat.not_lt.mpr hshort)]

/-! ## Samples -/

/-- An envelope of the January claims with this hint. -/
def januaryEnvelope (hint : String) : SignedQRCodeEnvelope :=
  ⟨januaryClaims, "c2lnbmF0dXJl", some hint⟩

/-- The certificate it refers to. -/
def januaryCertificate : CertificateAuthorityRecord :=
  ⟨"issuer-key-1", "Issuer", supportedAlgorithmId, some "pem"⟩

/-- The texts of the January envelopes. -/
def januaryTexts : List String :=
  ["version", "certificate_ref", "issued_at", "expires_at", "payload", "claims", "signature",
    "code_algorithm_id", "2", "issuer-key-1", "2026-01-01T00:00:00Z", "https://acme.example/",
    "c2lnbmF0dXJl", "", "rsa-pss-sha256-v1"]

theorem encode_january {hint : String} (hhint : hint = "" ∨ hint = "rsa-pss-sha256-v1") :
    encodeEnvelopeAsQrPayload 8192 (januaryEnvelope hint)
      = .ok (jsonObject (payloadMapping (januaryEnvelope hint))) := by
  have hshort : ∀ text ∈ januaryTexts, (PyString.jsonString text).toList.length ≤ 40 := by
    decide +kernel
  have hclaims : (jsonObject (claimsMapping januaryClaims)).toList.length ≤ 412 := by
    refine @length_jsonObject_le (claimsMapping januaryClaims) 40 40 ?_
    intro member hmember
    simp only [claimsMapping, januaryClaims, List.mem_cons, List.not_mem_nil, or_false] at hmember
    rcases hmember with rfl | rfl | rfl | rfl | rfl
    all_goals refine ⟨hshort _ (by decide), ?_⟩
    · exact hshort _ (by decide)
    · exact hshort _ (by decide)
    · exact hshort _ (by decide)
    · decide
    · exact hshort _ (by decide)
  have hhint' : hint ∈ januaryTexts := by
    rcases hhint with rfl | rfl
    · decide
    · decide
  have hpayload := @length_jsonObject_le (payloadMapping (januaryEnvelope hint)) 40 412 (by
    intro member hmember
    simp only [payloadMapping, januaryEnvelope, Option.map_some, Option.toList_some,
      List.cons_append, List.nil_append, List.mem_cons, List.not_mem_nil, or_false] at hmember
    rcases hmember with rfl | rfl | rfl
    · exact ⟨hshort _ (by decide), hclaims⟩
    · exact ⟨hshort _ (by decide), (hshort _ (by decide)).trans (by decide)⟩
    · exact ⟨hshort "code_algorithm_id" (by decide), (hshort _ hhint').trans (by decide)⟩)
  exact encode_of_short (hpayload.trans (by decide : 3 * (40 + 412 + 2) + 2 ≤ 8192))

/-- An empty hint conflicts with the certificate; after the codec it is gone, and the
    envelope is accepted. -/
theorem survives_empty_hint :
    parseClaimsMapping januaryRuntime januaryData = .ok (januaryEnvelope "").claims ∧
      ∃ payload decoded, encodeEnvelopeAsQrPayload 8192 (januaryEnvelope "") = .ok payload ∧
        decodeEnvelopeFromQrPayload januaryRuntime (fun _ => none) 8192 payload = .ok decoded ∧
        (verifySignedEnvelope januaryRuntime ⟨"", 30, 60⟩ (januaryEnvelope "")
          januaryCertificate).map VerificationDecision.allowed = .ok false ∧
        (verifySignedEnvelope januaryRuntime ⟨"", 30, 60⟩ decoded
          januaryCertificate).map VerificationDecision.allowed = .ok true ∧
        ¬ Survives januaryRuntime (fun _ => none) 8192 (januaryEnvelope "") payload := by
  have hencoded := encode_january (.inl rfl)
  have hkept : PyString.strip "c2lnbmF0dXJl" = "c2lnbmF0dXJl" := by decide +kernel
  have hdecoded : decodeEnvelopeFromQrPayload januaryRuntime (fun _ => none) 8192
      (jsonObject (payloadMapping (januaryEnvelope "")))
      = .ok { januaryEnvelope "" with codeAlgorithmId := none } := by
    rw [decode_encode (isNormal_of_parsed parse_januaryData) hencoded, normalized]
    show (if PyString.strip "c2lnbmF0dXJl" = "" then _ else Except.ok
      (⟨januaryClaims, PyString.strip "c2lnbmF0dXJl", none⟩ : SignedQRCodeEnvelope)) = _
    rw [hkept, if_neg (by decide)]
    rfl
  refine ⟨parse_januaryData, _, _, hencoded, hdecoded, ?_, ?_, fun h => ?_⟩
  · rfl
  · rfl
  · have hsame := Except.ok.inj (hdecoded.symm.trans h.returned)
    exact (nomatch congrArg SignedQRCodeEnvelope.codeAlgorithmId hsame)

theorem survives_january :
    Survives januaryRuntime (fun _ => none) 8192 (januaryEnvelope "rsa-pss-sha256-v1")
      (jsonObject (payloadMapping (januaryEnvelope "rsa-pss-sha256-v1"))) :=
  (survives_iff parse_januaryData (encode_january (.inr rfl))).mpr
    ⟨⟨by decide +kernel, by decide⟩, fun hint hhint =>
      Option.some.inj hhint ▸ ⟨by decide +kernel, by decide⟩⟩

end QrArtifact
