import QrTrust.Network.GovernancePublicationSource
import QrTrust.Network.SigningCustodyProofs
import QrTrust.Network.SyncAcceptanceProofs

/-! # Sign, store, verify

    A body is signed, its publication metadata realigned, and the result stored
    and read back.  Nothing of that touches what the signature covers, so a
    stored body is accepted exactly when the first key its lookup offers is the
    public half of the key that signed it (`accepts_stored_iff`,
    `roundTrips_iff`). -/

namespace SignedPublication

open JsonValue KeyedSort TrustKeys SignatureVerification SignatureAcceptance CanonicalJson
  SigningCustody GovernancePublication GovernancePublicationSource VerifierSync SyncAcceptance
  Fallible

variable {host : SigningHost} {pair : String → String → Prop}

/-- **ED25519**: `pair` relates the two halves of a key.  A private half signs
    every payload, and a signature is accepted under its public half, for the
    payload that was signed, and never otherwise. -/
structure Ed25519 (host : SigningHost) (pair : String → String → Prop) : Prop where
  signs : ∀ {privatePem publicPem}, pair privatePem publicPem → ∀ payload,
    ∃ signature, host.signEd25519 privatePem payload = some signature
  nonempty : ∀ {privatePem payload signature},
    host.signEd25519 privatePem payload = some signature → privatePem ≠ "" ∧ signature ≠ ""
  verifies : ∀ {privatePem publicPem payload payload' signature},
    host.signEd25519 privatePem payload = some signature →
    (host.verifyEd25519 publicPem payload' (.str signature) = true ↔
      pair privatePem publicPem ∧ payload' = payload)

/-! ## One body, signed and realigned -/

/-- A body before it is signed: its publication already names the signer. -/
structure Publishable (body : JsonValue) (signer : String) : Prop where
  distinct : Distinct body
  publication : ∃ publication, body.prop "publication" = some (.obj publication)
    ∧ (obj publication).prop "signed_by" = some (.str signer)

/-- **SIGNED**: what holds of a published body, against the body that was signed. -/
structure Signed (host : SigningHost) (unsigned : JsonValue) (signer signature : String)
    (body : JsonValue) : Prop where
  distinct : Distinct body
  covered : signedForm host.localeLess body = signedForm host.localeLess unsigned
  algorithm : body.prop "signature_algorithm_id" = some (.str "ed25519")
  input : body.prop "signature_input" = some (.str trustSignatureInput)
  signature : body.prop "signature" = some (.str signature)
  status : body.prop "signature_status" = some (.str trustSignatureStatus)
  publication : ∃ publication, body.prop "publication" = some publication
    ∧ publication.stringField "signed_by" = some signer
    ∧ publication.stringField "signature_status" = some trustSignatureStatus
  other : ∀ key, isSignatureMetadata key = false → key ≠ "publication" →
    body.prop key = unsigned.prop key

theorem stringField_of_prop {v : JsonValue} {key s : String} (h : v.prop key = some (.str s)) :
    v.stringField key = some s := by
  rw [stringField, h]
  rfl

/-- What the realignment writes into the publication of a body. -/
def alignmentFields (signer : String) : List (String × String) :=
  [("signed_by", signer), ("signature_status", trustSignatureStatus)]

/-- The realigned publication: the signer it names already, and a status that no
    signature covers. -/
theorem realigned_publication (hless : StrictTotal host.localeLess) {signer : String}
    {publication : List (String × JsonValue)} (hdistinct : Distinct (obj publication))
    (hnamed : (obj publication).prop "signed_by" = some (.str signer)) :
    ∃ written, (obj publication).withStrings (alignmentFields signer) = obj written
      ∧ Distinct (obj written)
      ∧ signedForm host.localeLess (obj written) = signedForm host.localeLess (obj publication)
      ∧ (obj written).stringField "signed_by" = some signer
      ∧ (obj written).stringField "signature_status" = some trustSignatureStatus := by
  obtain ⟨written, hwritten, hwrittenDistinct⟩ :=
    exists_withStrings hdistinct (alignmentFields signer)
  have hread := prop_withStrings hdistinct (alignmentFields signer)
  rw [hwritten] at hread
  refine ⟨written, hwritten, hwrittenDistinct, ?_, ?_, ?_⟩
  · refine signedForm_eq_of_prop hless hwrittenDistinct.1 hdistinct.1 fun key hkey => ?_
    by_cases hsignedBy : key = "signed_by"
    · rw [hsignedBy, hread, hnamed]
      rfl
    · have hunwritten : (alignmentFields signer).reverse.find? (fun write => write.1 = key)
          = none := by
        refine List.find?_eq_none.mpr fun write hwrite heq => ?_
        simp only [alignmentFields, List.mem_reverse, List.mem_cons, List.not_mem_nil,
          or_false] at hwrite
        rcases hwrite with rfl | rfl
        · exact hsignedBy (of_decide_eq_true heq).symm
        · -- a covered key is no signature status
          rw [← of_decide_eq_true heq] at hkey
          cases hkey
      rw [hread, hunwritten]
      rfl
  · refine stringField_of_prop ?_
    rw [hread]
    rfl
  · refine stringField_of_prop ?_
    rw [hread]
    rfl

/-- **REALIGNED**: signing a body and realigning its publication. -/
theorem signed_aligned (hless : StrictTotal host.localeLess) {unsigned : JsonValue}
    {signer : String} (h : Publishable unsigned signer)
    (hsigner : unsigned.prop "signed_by" = some (.str signer))
    {signature : SigningCustodySignature} (halgorithm : signature.algorithmId = "ed25519") :
    Signed host unsigned signer signature.signature
      (signatureAlignedPublicationBody (signedBody unsigned signature)) := by
  obtain ⟨publication, hpublication, hnamed⟩ := h.publication
  obtain ⟨fields, rfl⟩ := exists_obj_of_prop hpublication
  -- the body with its signature fields, and how it reads
  obtain ⟨fields', hsigned, hsignedDistinct⟩ :=
    exists_withStrings h.distinct (signatureFields signature)
  have hread := prop_withStrings h.distinct (signatureFields signature)
  have hcovered := signedForm_signedBody hless h.distinct signature
  have hother := prop_signedBody h.distinct signature
  rw [← signedBody_eq] at hsigned hread
  rw [hsigned] at hread hcovered hother ⊢
  have hstatus : (obj fields').prop "signature_status" = some (.str trustSignatureStatus) := by
    rw [hread]
    rfl
  have hpub' : (obj fields').prop "publication" = some (.obj publication) :=
    (hother _ (by decide)).trans hpublication
  have hsigner' : (obj fields').prop "signed_by" = some (.str signer) :=
    (hother _ (by decide)).trans hsigner
  -- the publication that is written back
  obtain ⟨written, hwritten, hwrittenDistinct, hwrittenCovered, hwrittenSigner, hwrittenStatus⟩ :=
    realigned_publication hless (h.distinct.prop hpublication) hnamed
  have hwrites : signatureAlignedPublicationBody (obj fields')
      = (obj fields').withField "publication" (some (obj written)) := by
    rw [signatureAlignedPublicationBody, hpub', hsigner', hstatus, ← hwritten]
    rfl
  have hbody : ∀ key, ((obj fields').withField "publication" (some (obj written))).prop key
      = if key = "publication" then some (obj written) else (obj fields').prop key :=
    prop_withField hsignedDistinct
  have hdistinct : Distinct ((obj fields').withField "publication" (some (obj written))) :=
    distinct_withField hsignedDistinct hwrittenDistinct
  rw [hwrites]
  rw [withField_obj] at hbody hdistinct ⊢
  exact
    { distinct := hdistinct
      covered := by
        rw [← hcovered]
        refine signedForm_eq_of_prop hless hdistinct.1 hsignedDistinct.1 fun key _ => ?_
        rw [hbody]
        by_cases hkey : key = "publication"
        · rw [if_pos hkey, hkey, hpub', Option.map_some, Option.map_some, hwrittenCovered]
        · rw [if_neg hkey]
      algorithm := by
        rw [hbody, if_neg (by decide), hread, ← halgorithm]
        rfl
      input := by
        rw [hbody, if_neg (by decide), hread]
        rfl
      signature := by
        rw [hbody, if_neg (by decide), hread]
        rfl
      status := by
        rw [hbody, if_neg (by decide)]
        exact hstatus
      publication := ⟨obj written, by rw [hbody, if_pos rfl], hwrittenSigner, hwrittenStatus⟩
      other := by
        intro key hkey hne
        rw [hbody, if_neg hne]
        exact hother key hkey }

/-! ## One signer -/

/-- The request a signer's artifacts lead to, apart from the payload. -/
def signerRequest (payload signer root : String) (authority : Option String) :
    SigningCustodyRequest where
  payload := payload
  signedBy := signer
  rootProgramId := root
  acceptedAlgorithmIds := some ["ed25519"]
  delegatedAuthorityId := authority
  keyId := none

/-- The lookup of a signer's Ed25519 keys. -/
def ed25519Lookup (signer root : String) (authority : Option String) : TrustKeyLookupInput where
  signedBy := signer
  rootProgramId := root
  acceptedAlgorithmIds := ["ed25519"]
  delegatedAuthorityId := authority

variable {signingKeys : List SigningKeyRecord} {materialByRef : String → Option String}
  {trustKeys : List TrustKeyRecord} {keyMaterial : KeyMaterialProvider}

/-- **ONE KEY EACH**: the signer has exactly one active Ed25519 signing key in
    scope and exactly one active Ed25519 trust key in scope, two halves of one
    pair. -/
structure SignerKeys (pair : String → String → Prop) (signingKeys : List SigningKeyRecord)
    (materialByRef : String → Option String) (trustKeys : List TrustKeyRecord)
    (keyMaterial : KeyMaterialProvider) (signer root : String) (authority : Option String)
    (privatePem : String) : Prop where
  signing : ∃ key, signingKeys.filter (usableSigningKey (signerRequest "" signer root authority))
      = [key] ∧ materialByRef key.privateKeyMaterialRef = some privatePem
  trust : ∃ key publicPem, trustKeys.filter (usableKey (ed25519Lookup signer root authority))
      = [key] ∧ keyMaterial key = .ok (some publicPem) ∧ pair privatePem publicPem

/-- The only element that passes is the first that passes. -/
theorem find?_of_filter_eq {α : Type} {l : List α} {p : α → Bool} {a : α}
    (h : l.filter p = [a]) : l.find? p = some a := by
  rw [← List.head?_filter, h]
  rfl

/-- The document `makeTrustArtifactSigner` signs for a publication. -/
def unsignedBody (body : JsonValue) (identity : SigningIdentity) : JsonValue :=
  normalizeSigningBody
    { body, signedBy := identity.signedBy, rootProgramId := identity.rootProgramId
      delegatedAuthorityId := JsString.truthy identity.delegatedAuthorityId }

theorem truthy_truthy (value : Option String) :
    JsString.truthy (JsString.truthy value) = JsString.truthy value := by
  rw [JsString.truthy, JsString.truthy, Option.filter_filter]
  simp only [Bool.and_self]

/-- How the signed document reads: the fields of the identity, then the body. -/
theorem prop_unsignedBody {fields : List (String × JsonValue)} (h : Distinct (obj fields))
    (identity : SigningIdentity) (key : String) :
    (unsignedBody (obj fields) identity).prop key
      = if key = "signed_by" then some (.str identity.signedBy)
        else if key = "root_program_id" then some (.str identity.rootProgramId)
        else if key = "delegated_authority_id" then
          ((JsString.truthy identity.delegatedAuthorityId).map JsonValue.str).or
            ((obj fields).prop key)
        else (obj fields).prop key := by
  rw [unsignedBody, normalizeSigningBody_eq, prop_withStrings h, identityFields, truthy_truthy]
  -- the last write under the key, whether or not there is a delegated authority
  cases JsString.truthy identity.delegatedAuthorityId with
  | none =>
      by_cases hsigned : key = "signed_by"
      · simp [hsigned]
      · by_cases hroot : key = "root_program_id"
        · simp [hroot]
        · simp [Ne.symm hsigned, Ne.symm hroot, hsigned, hroot]
  | some authority =>
      by_cases hsigned : key = "signed_by"
      · simp [hsigned]
      · by_cases hroot : key = "root_program_id"
        · simp [hroot]
        · by_cases hauthority : key = "delegated_authority_id"
          · simp [hauthority]
          · simp [Ne.symm hsigned, Ne.symm hroot, Ne.symm hauthority, hsigned, hroot, hauthority]

theorem publishable_unsignedBody {body : JsonValue} {identity : SigningIdentity}
    (h : Publishable body identity.signedBy) :
    Publishable (unsignedBody body identity) identity.signedBy := by
  obtain ⟨publication, hpublication, hnamed⟩ := h.publication
  obtain ⟨fields, rfl⟩ := exists_obj_of_prop hpublication
  have hread := prop_unsignedBody h.distinct identity
  have heq : unsignedBody (obj fields) identity = (obj fields).withStrings (identityFields _) :=
    normalizeSigningBody_eq _
  obtain ⟨fields', hfields', hdistinct⟩ := exists_withStrings h.distinct (identityFields _)
  rw [heq, hfields'] at hread
  rw [heq, hfields']
  refine ⟨hdistinct, publication, ?_, hnamed⟩
  rw [hread, if_neg (by decide), if_neg (by decide), if_neg (by decide)]
  exact hpublication

/-- **SIGN ONE**: a signer with its keys signs a publishable body. -/
theorem signPublicationInput_ok (laws : Ed25519 host pair) (hless : StrictTotal host.localeLess)
    {source : SigningMaterialSource} {input : ArtifactPublicationInput}
    {identity : SigningIdentity} {privatePem : String}
    (hbody : Publishable input.body identity.signedBy)
    (hkeys : SignerKeys pair signingKeys materialByRef trustKeys keyMaterial identity.signedBy
      identity.rootProgramId (JsString.truthy identity.delegatedAuthorityId) privatePem) :
    ∃ body signature,
      signPublicationInput input (makeTrustArtifactSigner host
          (makeStaticSigningCustodyProvider host signingKeys materialByRef source)) identity
        = .ok { input with body }
      ∧ host.signEd25519 privatePem
          (trustSignaturePayload host.toSignatureHost (unsignedBody input.body identity))
        = some signature
      ∧ Signed host (unsignedBody input.body identity) identity.signedBy signature body := by
  obtain ⟨key, hkey, hmaterial⟩ := hkeys.signing
  obtain ⟨_, publicPem, -, -, hpair⟩ := hkeys.trust
  obtain ⟨signature, hsigns⟩ := laws.signs hpair
    (trustSignaturePayload host.toSignatureHost (unsignedBody input.body identity))
  have husable := (List.mem_filter.mp (hkey ▸ List.mem_singleton_self key)).2
  have halgorithm : key.algorithmId = "ed25519" := by
    simp only [usableSigningKey, Bool.and_eq_true] at husable
    obtain ⟨-, -, hcontains, -⟩ := husable
    simpa [signerRequest] using hcontains
  have hfind : signingKeys.find? (usableSigningKey (signerRequest
      (trustSignaturePayload host.toSignatureHost (unsignedBody input.body identity))
      identity.signedBy identity.rootProgramId (JsString.truthy identity.delegatedAuthorityId)))
        = some key := find?_of_filter_eq hkey
  obtain ⟨custody, hanswer, rfl, hcustody⟩ :=
    static_signs hfind halgorithm hmaterial (laws.nonempty hsigns).1 hsigns
  have hsigner : (unsignedBody input.body identity).prop "signed_by"
      = some (.str identity.signedBy) := by
    obtain ⟨publication, hpublication, -⟩ := hbody.publication
    obtain ⟨fields, hfields⟩ := exists_obj_of_prop hpublication
    rw [hfields, prop_unsignedBody (hfields ▸ hbody.distinct), if_pos rfl]
  refine ⟨_, custody.signature, ?_, hsigns,
    signed_aligned hless (publishable_unsignedBody hbody) hsigner hcustody⟩
  have hsigned : makeTrustArtifactSigner host
        (makeStaticSigningCustodyProvider host signingKeys materialByRef source)
        { body := input.body, signedBy := identity.signedBy
          rootProgramId := identity.rootProgramId
          delegatedAuthorityId := JsString.truthy identity.delegatedAuthorityId }
      = .ok
        { body := signedBody (unsignedBody input.body identity) custody
          signerId := custody.signerId, keyId := custody.keyId
          algorithmId := custody.algorithmId
          privateKeyMaterialRef := custody.privateKeyMaterialRef, source := custody.source } := by
    show (makeStaticSigningCustodyProvider host signingKeys materialByRef source _ >>= _) = _
    rw [truthy_truthy]
    refine (congrArg (· >>= _) hanswer).trans ?_
    rfl
  show (makeTrustArtifactSigner host _ _ >>= _) = _
  rw [hsigned]
  rfl

/-! ## One body, stored and verified -/

variable {unsigned body stored : JsonValue} {signer signature : String}

/-- **STORED, THEN VERIFIED**: a stored body is accepted exactly when the first
    key its lookup offers is the public half of the key that signed it. -/
theorem accepts_stored_iff (laws : Ed25519 host pair) (hless : StrictTotal host.localeLess)
    {privatePem : String}
    (hsigns : host.signEd25519 privatePem
      (trustSignaturePayload host.toSignatureHost unsigned) = some signature)
    (h : Signed host unsigned signer signature body) (hstored : StoredAs body stored)
    {input : TrustKeyLookupInput}
    (hinput : (acceptedAlgorithmIds stored).bind (lookupInput stored) = some input) :
    Accepts host.toSignatureHost trustKeys keyMaterial stored ↔
      ∃ key publicPem, trustKeys.find? (usableKey input) = some key
        ∧ keyMaterial key = .ok (some publicPem) ∧ pair privatePem publicPem := by
  have hpayload : trustSignaturePayload host.toSignatureHost stored
      = trustSignaturePayload host.toSignatureHost unsigned := by
    rw [trustSignaturePayload_stored hless hstored h.distinct, trustSignaturePayload_eq,
      trustSignaturePayload_eq, h.covered]
  have hsupported : Supported stored := by
    constructor
    · rw [hstored.stringField h.distinct, stringField_of_prop h.algorithm]
    · rw [hstored.stringField h.distinct, stringField_of_prop h.input]
  have hsignature : (stored.prop "signature").filter truthyValue = some (.str signature) := by
    obtain ⟨copy, hcopy, hsame⟩ := hstored.prop_some h.distinct h.signature
    cases hsame
    have htruthy : truthyValue (.str signature) = true :=
      decide_eq_true (laws.nonempty hsigns).2
    rw [hcopy, Option.filter_some, if_pos htruthy]
  rw [accepts_iff, and_iff_right hsupported, usableFor_eq hinput]
  refine exists_congr fun key => ?_
  rw [Verifies, hsignature, hpayload]
  constructor
  · rintro ⟨hkey, signature', publicPem, hsame, hmaterial, hverified⟩
    obtain rfl := Option.some.inj hsame
    exact ⟨publicPem, hkey, hmaterial, ((laws.verifies hsigns).mp hverified).1⟩
  · rintro ⟨publicPem, hkey, hmaterial, hpair⟩
    exact ⟨hkey, _, publicPem, rfl, hmaterial, (laws.verifies hsigns).mpr ⟨hpair, rfl⟩⟩

/-- The publication of a stored body names the body's signer and signature
    status. -/
theorem stored_publication (h : Signed host unsigned signer signature body)
    (hstored : StoredAs body stored) :
    ∃ publication, stored.prop "publication" = some publication
      ∧ publication.stringField "signed_by" = some signer
      ∧ publication.stringField "signature_status" = some trustSignatureStatus := by
  obtain ⟨publication, hpublication, hsigner, hstatus⟩ := h.publication
  obtain ⟨copy, hcopy, hsame⟩ := hstored.prop_some h.distinct hpublication
  have hdistinct := h.distinct.prop hpublication
  exact ⟨copy, hcopy, (hsame.stringField hdistinct _).trans hsigner,
    (hsame.stringField hdistinct _).trans hstatus⟩

/-- The publication metadata a guard reads is that of the body. -/
theorem publicationMetadata_eq {publication : JsonValue} {metadata : PublicationMetadata}
    (hpublication : body.prop "publication" = some publication)
    (h : VerifierSync.publicationMetadata body = some metadata) :
    publication.stringField "signed_by" = some metadata.signedBy
      ∧ publication.stringField "signature_status" = some metadata.signatureStatus := by
  obtain ⟨publication', hpublication', h⟩ := Option.bind_eq_some_iff.mp h
  obtain rfl := Option.some.inj (hpublication.symm.trans hpublication')
  obtain ⟨_, -, h⟩ := Option.bind_eq_some_iff.mp h
  obtain ⟨_, -, h⟩ := Option.bind_eq_some_iff.mp h
  obtain ⟨signedBy, hsignedBy, h⟩ := Option.bind_eq_some_iff.mp h
  obtain ⟨signatureStatus, hstatus, h⟩ := Option.bind_eq_some_iff.mp h
  obtain rfl := Option.some.inj h
  exact ⟨hsignedBy, hstatus⟩

theorem rootManifest_signer {manifest : RootManifestArtifactBody}
    (h : rootManifestArtifactBody body = some manifest) :
    VerifierSync.publicationMetadata body = some manifest.publication
      ∧ body.stringField "signed_by" = some manifest.signedBy := by
  simp only [rootManifestArtifactBody, Option.bind_eq_bind, Option.bind_eq_some_iff] at h
  obtain ⟨_, -, _, -, _, -, _, -, _, -, _, -, _, -, _, -, _, -, _, -, _, -, publication,
    hpublication, signedBy, hsignedBy, h⟩ := h
  obtain rfl := Option.some.inj h
  exact ⟨hpublication, hsignedBy⟩

theorem authorityManifest_signer {manifest : DelegatedAuthorityManifestArtifactBody}
    (h : delegatedAuthorityManifestArtifactBody body = some manifest) :
    VerifierSync.publicationMetadata body = some manifest.publication
      ∧ body.stringField "signed_by" = some manifest.signedBy := by
  simp only [delegatedAuthorityManifestArtifactBody, Option.bind_eq_bind,
    Option.bind_eq_some_iff] at h
  obtain ⟨_, -, _, -, _, -, _, -, _, -, _, -, _, -, _, -, _, -, _, -, _, -, _, -, _, -,
    publication, hpublication, signedBy, hsignedBy, h⟩ := h
  obtain rfl := Option.some.inj h
  exact ⟨hpublication, hsignedBy⟩

theorem issuerRecord_namespace {record : IssuerRecordArtifactBody}
    (h : issuerRecordArtifactBody body = some record) :
    ∃ ns, body.prop "issuer_namespace" = some ns
      ∧ ns.stringField "root_program_id" = some record.issuerNamespace.rootProgramId
      ∧ ns.stringField "delegated_authority_id"
        = some record.issuerNamespace.delegatedAuthorityId := by
  obtain ⟨_, -, h⟩ := Option.bind_eq_some_iff.mp h
  obtain ⟨ns, hns, h⟩ := Option.bind_eq_some_iff.mp h
  obtain ⟨root, hroot, h⟩ := Option.bind_eq_some_iff.mp h
  obtain ⟨authority, hauthority, h⟩ := Option.bind_eq_some_iff.mp h
  obtain ⟨_, -, h⟩ := Option.bind_eq_some_iff.mp h
  obtain ⟨_, -, h⟩ := Option.bind_eq_some_iff.mp h
  obtain ⟨_, -, h⟩ := Option.bind_eq_some_iff.mp h
  obtain ⟨_, -, h⟩ := Option.bind_eq_some_iff.mp h
  obtain ⟨_, -, h⟩ := Option.bind_eq_some_iff.mp h
  obtain ⟨_, -, h⟩ := Option.bind_eq_some_iff.mp h
  obtain ⟨_, -, h⟩ := Option.bind_eq_some_iff.mp h
  obtain ⟨_, -, h⟩ := Option.bind_eq_some_iff.mp h
  obtain ⟨_, -, h⟩ := Option.bind_eq_some_iff.mp h
  obtain ⟨_, -, h⟩ := Option.bind_eq_some_iff.mp h
  obtain ⟨_, -, h⟩ := Option.bind_eq_some_iff.mp h
  obtain ⟨_, -, h⟩ := Option.bind_eq_some_iff.mp h
  obtain ⟨_, -, h⟩ := Option.bind_eq_some_iff.mp h
  obtain rfl := Option.some.inj h
  exact ⟨ns, hns, hroot, hauthority⟩

/-- **SCOPE**: a stored body passes the scope check; an issuer record has to
    repeat its namespace, and no other issuer, at the top. -/
theorem scope_stored (h : Signed host unsigned signer signature body)
    (hstored : StoredAs body stored) (hsigner : stored.stringField "signed_by" = some signer)
    (hrecord : ∀ ns, stored.prop "issuer_namespace" = some ns →
      ns.stringField "root_program_id" = stored.stringField "root_program_id"
        ∧ ns.stringField "delegated_authority_id" = stored.stringField "delegated_authority_id"
        ∧ stored.prop "issuer_id" = none) :
    trustArtifactScopeMatchesBody stored = true := by
  obtain ⟨publication, hpublication, hnamed, hstatus⟩ := stored_publication h hstored
  have hbodyStatus : stored.stringField "signature_status" = some trustSignatureStatus := by
    rw [hstored.stringField h.distinct, stringField_of_prop h.status]
  have hmatches : ∀ {metadata : PublicationMetadata} {signedBy : String},
      VerifierSync.publicationMetadata stored = some metadata →
      stored.stringField "signed_by" = some signedBy →
      publicationSignerMatches stored metadata signedBy = true := by
    intro metadata signedBy hmetadata hsignedBy
    obtain ⟨hmetadataSigner, hmetadataStatus⟩ := publicationMetadata_eq hpublication hmetadata
    rw [publicationSignerMatches, Bool.and_eq_true, decide_eq_true_eq, decide_eq_true_eq]
    constructor
    · exact Option.some.inj (hmetadataSigner.symm.trans
        (hnamed.trans (hsigner.symm.trans hsignedBy)))
    · rw [hbodyStatus, ← hmetadataStatus, hstatus]
  rw [trustArtifactScopeMatchesBody]
  cases hroot : rootManifestArtifactBody stored with
  | some manifest => exact hmatches (rootManifest_signer hroot).1 (rootManifest_signer hroot).2
  | none =>
      cases hauthority : delegatedAuthorityManifestArtifactBody stored with
      | some manifest =>
          exact hmatches (authorityManifest_signer hauthority).1
            (authorityManifest_signer hauthority).2
      | none =>
          cases hissuer : issuerRecordArtifactBody stored with
          | none => rfl
          | some record =>
              obtain ⟨ns, hns, hnsRoot, hnsAuthority⟩ := issuerRecord_namespace hissuer
              obtain ⟨hroot', hauthority', hissuerId⟩ := hrecord ns hns
              dsimp only
              rw [← hroot', hnsRoot, ← hauthority', hnsAuthority, hissuerId]
              simp

/-! ## The lookup of a stored body -/

theorem acceptedAlgorithmIds_stored {accepted : List String} (hdistinct : Distinct body)
    (hstored : StoredAs body stored)
    (h : body.prop "accepted_algorithm_ids" = some (stringsValue accepted)) :
    acceptedAlgorithmIds stored = some accepted := by
  obtain ⟨copy, hcopy, hsame⟩ := hstored.prop_some hdistinct h
  cases hsame with
  | @arr _ items hitems =>
      have hread : items.filterMap JsonValue.asString = accepted := by
        rw [hitems.filterMap_asString, List.filterMap_map]
        exact List.filterMap_some
      rw [acceptedAlgorithmIds, nonNull, hcopy]
      exact congrArg some hread

theorem acceptedAlgorithmIds_default (h : stored.prop "accepted_algorithm_ids" = none) :
    acceptedAlgorithmIds stored = some ["ed25519"] := by
  rw [acceptedAlgorithmIds, nonNull, h]

theorem lookupInput_eq {accepted : List String} {signer root : String}
    (hsigner : stored.stringField "signed_by" = some signer)
    (hroot : stored.stringField "root_program_id" = some root) :
    lookupInput stored accepted = some
      { signedBy := signer, rootProgramId := root, acceptedAlgorithmIds := accepted
        delegatedAuthorityId := JsString.truthy (stored.stringField "delegated_authority_id") } := by
  rw [lookupInput, hsigner, hroot]
  rfl

/-- **ROUND TRIP**: every stored copy of the body is accepted by the verifier and
    passes the scope check of the sync service. -/
def RoundTrips (host : SigningHost) (trustKeys : List TrustKeyRecord)
    (keyMaterial : KeyMaterialProvider) (body : JsonValue) : Prop :=
  ∀ stored, StoredAs body stored →
    Accepts host.toSignatureHost trustKeys keyMaterial stored
      ∧ trustArtifactScopeMatchesBody stored = true

/-- The covered fields of a signed body are those of the body before, with the
    identity it is signed as. -/
theorem prop_signed {before : JsonValue} {identity : SigningIdentity}
    (hbefore : Publishable before identity.signedBy)
    (h : Signed host (unsignedBody before identity) identity.signedBy signature body) {key : String}
    (hcovered : isSignatureMetadata key = false) (hpublication : key ≠ "publication") :
    body.prop key
      = if key = "signed_by" then some (.str identity.signedBy)
        else if key = "root_program_id" then some (.str identity.rootProgramId)
        else if key = "delegated_authority_id" then
          ((JsString.truthy identity.delegatedAuthorityId).map JsonValue.str).or (before.prop key)
        else before.prop key := by
  obtain ⟨_, hprop, -⟩ := hbefore.publication
  obtain ⟨fields, rfl⟩ := exists_obj_of_prop hprop
  rw [h.other key hcovered hpublication, prop_unsignedBody hbefore.distinct]

/-- The delegated authority a signed body names. -/
def signedAuthority (before : JsonValue) (identity : SigningIdentity) : Option String :=
  (JsString.truthy identity.delegatedAuthorityId).or (before.stringField "delegated_authority_id")

/-- The lookup of a signed body, for the algorithms it accepts. -/
def signedLookup (before : JsonValue) (identity : SigningIdentity) (accepted : List String) :
    TrustKeyLookupInput where
  signedBy := identity.signedBy
  rootProgramId := identity.rootProgramId
  acceptedAlgorithmIds := accepted
  delegatedAuthorityId := JsString.truthy (signedAuthority before identity)

/-- The strings of a signed body that the lookup and the scope check read. -/
theorem stringField_signed {before : JsonValue} {identity : SigningIdentity}
    (hbefore : Publishable before identity.signedBy)
    (h : Signed host (unsignedBody before identity) identity.signedBy signature body) :
    body.stringField "signed_by" = some identity.signedBy
      ∧ body.stringField "root_program_id" = some identity.rootProgramId
      ∧ body.stringField "delegated_authority_id" = signedAuthority before identity := by
  refine ⟨stringField_of_prop ?_, stringField_of_prop ?_, ?_⟩
  · rw [prop_signed hbefore h (by decide) (by decide), if_pos rfl]
  · rw [prop_signed hbefore h (by decide) (by decide), if_neg (by decide), if_pos rfl]
  · rw [stringField, prop_signed hbefore h (by decide) (by decide), if_neg (by decide),
      if_neg (by decide), if_pos rfl, signedAuthority]
    cases JsString.truthy identity.delegatedAuthorityId with
    | none => rfl
    | some authority => rfl

/-- The lookup that a stored copy of a signed body leads to. -/
theorem lookup_stored {before : JsonValue} {identity : SigningIdentity} {accepted : List String}
    (hbefore : Publishable before identity.signedBy)
    (h : Signed host (unsignedBody before identity) identity.signedBy signature body)
    (haccepted : before.prop "accepted_algorithm_ids" = some (stringsValue accepted)
      ∨ before.prop "accepted_algorithm_ids" = none ∧ accepted = ["ed25519"])
    (hstored : StoredAs body stored) :
    (acceptedAlgorithmIds stored).bind (lookupInput stored)
      = some (signedLookup before identity accepted) := by
  obtain ⟨hsigner, hroot, hauthority⟩ := stringField_signed hbefore h
  have hprop : body.prop "accepted_algorithm_ids" = before.prop "accepted_algorithm_ids" := by
    rw [prop_signed hbefore h (by decide) (by decide), if_neg (by decide), if_neg (by decide),
      if_neg (by decide)]
  have halgorithms : acceptedAlgorithmIds stored = some accepted := by
    rcases haccepted with hsome | ⟨hnone, rfl⟩
    · exact acceptedAlgorithmIds_stored h.distinct hstored (hprop.trans hsome)
    · exact acceptedAlgorithmIds_default (hstored.prop_none (hprop.trans hnone))
  rw [halgorithms, Option.bind_some,
    lookupInput_eq ((hstored.stringField h.distinct _).trans hsigner)
      ((hstored.stringField h.distinct _).trans hroot),
    hstored.stringField h.distinct, hauthority]
  rfl

/-- **ONE BODY**: a published body round-trips exactly when its lookup offers the
    signing key's public half first. -/
theorem roundTrips_iff (laws : Ed25519 host pair) (hless : StrictTotal host.localeLess)
    {before : JsonValue} {identity : SigningIdentity} {privatePem : String}
    {accepted : List String} (hbefore : Publishable before identity.signedBy)
    (hsigns : host.signEd25519 privatePem
      (trustSignaturePayload host.toSignatureHost (unsignedBody before identity)) = some signature)
    (h : Signed host (unsignedBody before identity) identity.signedBy signature body)
    (haccepted : before.prop "accepted_algorithm_ids" = some (stringsValue accepted)
      ∨ before.prop "accepted_algorithm_ids" = none ∧ accepted = ["ed25519"])
    (hrecord : ∀ ns, before.prop "issuer_namespace" = some ns →
      ns.stringField "root_program_id" = some identity.rootProgramId
        ∧ ns.stringField "delegated_authority_id" = signedAuthority before identity
        ∧ before.prop "issuer_id" = none) :
    RoundTrips host trustKeys keyMaterial body ↔
      ∃ key publicPem,
        trustKeys.find? (usableKey (signedLookup before identity accepted)) = some key
          ∧ keyMaterial key = .ok (some publicPem) ∧ pair privatePem publicPem := by
  obtain ⟨hsigner, hroot, hauthority⟩ := stringField_signed hbefore h
  have hplain : ∀ {key : String}, key ∈ ["issuer_namespace", "issuer_id"] →
      body.prop key = before.prop key := by
    intro key hkey
    have hcases : key = "issuer_namespace" ∨ key = "issuer_id" := by simpa using hkey
    rcases hcases with rfl | rfl
    all_goals
      rw [prop_signed hbefore h (by decide) (by decide), if_neg (by decide), if_neg (by decide),
        if_neg (by decide)]
  have hscope : ∀ stored, StoredAs body stored → trustArtifactScopeMatchesBody stored = true := by
    intro stored hstored
    refine scope_stored h hstored ((hstored.stringField h.distinct _).trans hsigner) ?_
    intro copy hcopy
    cases hns : body.prop "issuer_namespace" with
    | none =>
        rw [hstored.prop_none hns] at hcopy
        cases hcopy
    | some ns =>
        obtain ⟨copy', hcopy', hsame⟩ := hstored.prop_some h.distinct hns
        obtain rfl := Option.some.inj (hcopy'.symm.trans hcopy)
        have hnsDistinct := h.distinct.prop hns
        rw [hplain (by simp)] at hns
        obtain ⟨hnsRoot, hnsAuthority, hissuer⟩ := hrecord ns hns
        rw [hsame.stringField hnsDistinct, hsame.stringField hnsDistinct,
          hstored.stringField h.distinct, hstored.stringField h.distinct, hroot, hauthority]
        exact ⟨hnsRoot, hnsAuthority, hstored.prop_none ((hplain (by simp)).trans hissuer)⟩
  have hlookup : ∀ stored, StoredAs body stored →
      (Accepts host.toSignatureHost trustKeys keyMaterial stored ↔
        ∃ key publicPem,
          trustKeys.find? (usableKey (signedLookup before identity accepted)) = some key
            ∧ keyMaterial key = .ok (some publicPem) ∧ pair privatePem publicPem) :=
    fun stored hstored => accepts_stored_iff laws hless hsigns h hstored
      (lookup_stored hbefore h haccepted hstored)
  constructor
  · intro htrips
    exact (hlookup body (StoredAs.refl body)).mp (htrips body (StoredAs.refl body)).1
  · intro hkey stored hstored
    exact ⟨(hlookup stored hstored).mpr hkey, hscope stored hstored⟩

end SignedPublication
