import Mathlib.Data.Finset.Basic
import QrTrust.Network.SignerConfinementProofs
import QrTrust.Network.StatusEventRows

/-! # Whom a row of a status event is about

    The service reads of a target the identifiers of its type; a row keeps the
    first identifier the target names.  So two rows of one target type and id are
    about one object for whatever values exactly where each identifier of the type
    is left out of both targets or leads in both (`rows_identify_iff`). -/

namespace StatusEventRows

open ArtifactPublication (SignedArtifact stringValue recordProp)
open VerifierSync (RevocationTargetType RevocationStatusArtifactBody revocationStatusArtifactBody
  SyncState)
open SyncAcceptance SignerConfinement Fallible

/-! ## Targets -/

/-- The identifiers by which the service knows an object of the type; it reads an
    authority from the body itself. -/
def identifying : RevocationTargetType → List TargetField
  | .issuerRecord => [.issuerId]
  | .issuer => [.issuerId]
  | .certificate => [.certificateRef]
  | .destinationPolicy => [.issuerId, .destinationPolicyId]
  | .delegatedAuthority => []
  | .trustKey => [.keyId]

/-- What the target of an artifact names. -/
def named (artifact : SignedArtifact) (field : TargetField) : Option String :=
  namedBy (recordProp artifact.body "target") field

/-- A revocation that the sync service accepts, over some keys and store. -/
structure AcceptedEvent (artifact : SignedArtifact) (revocation : RevocationStatusArtifactBody) :
    Prop where
  accepted : ∃ (w : VerifierWiring) (s : SyncState) (event : VerifierSync.NetworkEvent),
    Accepted w.service s event ⟨artifact.artifactHash, artifact.body⟩
  reads : revocationStatusArtifactBody artifact.body = some revocation

/-- The revocations are of one object: of one root, one authority and one type, and
    with the same identifiers of the type. -/
structure SameObject (artifact artifact' : SignedArtifact)
    (revocation revocation' : RevocationStatusArtifactBody) : Prop where
  root : revocation.rootProgramId = revocation'.rootProgramId
  authority : revocation.delegatedAuthorityId = revocation'.delegatedAuthorityId
  targetType : revocation.targetType = revocation'.targetType
  identifiers : ∀ field ∈ identifying revocation.targetType,
    named artifact field = named artifact' field

/-- The rows say that they are about one object. -/
structure SameRowTarget (row row' : StatusEventRow) : Prop where
  root : row.rootProgramId = row'.rootProgramId
  authority : row.delegatedAuthorityId = row'.delegatedAuthorityId
  targetType : row.targetType = row'.targetType
  targetId : row.targetId = row'.targetId

/-- The target names these identifiers and no other. -/
def NamesExactly (artifact : SignedArtifact) (names : Finset TargetField) : Prop :=
  ∀ field, (named artifact field).isSome ↔ field ∈ names

/-- The first of the identifiers. -/
def leading (names : Finset TargetField) : Option TargetField :=
  TargetField.order.find? (· ∈ names)

theorem findSome?_eq_find? {α β : Type} {value : α → Option β} {p : α → Bool}
    (h : ∀ a, (value a).isSome ↔ p a = true) (l : List α) :
    l.findSome? value = (l.find? p).bind value := by
  induction l with
  | nil => rfl
  | cons a rest ih =>
      cases hvalue : value a with
      | none =>
          have hp : ¬ p a = true := fun hp => by
            rw [← h a, hvalue] at hp
            cases hp
          rw [List.findSome?_cons_of_isNone (by rw [hvalue]; rfl), List.find?_cons_of_neg hp, ih]
      | some b =>
          have hp : p a = true := (h a).mp (by rw [hvalue]; rfl)
          rw [List.find?_cons_of_pos hp, List.findSome?_cons_of_isSome (by rw [hvalue]; rfl)]
          rfl

/-- The id of a row is the identifier that leads. -/
theorem targetId_eq {artifact : SignedArtifact} {names : Finset TargetField}
    (hnames : NamesExactly artifact names) :
    targetIdFromStatusTarget (recordProp artifact.body "target")
      = (leading names).bind (named artifact) :=
  findSome?_eq_find? (fun field => (hnames field).trans decide_eq_true_iff.symm) _

/-! ## What a row keeps -/

theorem requireString_eq_ok {value : Option String} {message s : String}
    (h : requireString value message = .ok s) : value = some s := by
  rw [requireString] at h
  split at h
  · rename_i found hfound
    obtain rfl := Except.ok.inj h
    exact (Option.filter_eq_some_iff.mp hfound).1
  · cases h

/-- The columns that say what a row is about. -/
structure RowOf (artifact : SignedArtifact) (row : StatusEventRow) : Prop where
  root : stringValue (artifact.body.prop "root_program_id") = some row.rootProgramId
  authority : stringValue (artifact.body.prop "delegated_authority_id") = row.delegatedAuthorityId
  targetType : stringValue ((recordProp artifact.body "target").bind (·.prop "target_type"))
    = some row.targetType
  targetId : targetIdFromStatusTarget (recordProp artifact.body "target") = some row.targetId

theorem rowOf_of_command {artifact : SignedArtifact} {row : StatusEventRow}
    (h : statusEventCommand artifact = .ok (some row)) : RowOf artifact row := by
  rw [statusEventCommand] at h
  split at h
  · cases h
  · obtain ⟨_, htype, h⟩ := bind_eq_ok_iff.mp h
    obtain ⟨_, hid, h⟩ := bind_eq_ok_iff.mp h
    obtain ⟨_, -, h⟩ := bind_eq_ok_iff.mp h
    obtain ⟨_, hroot, h⟩ := bind_eq_ok_iff.mp h
    obtain ⟨_, -, h⟩ := bind_eq_ok_iff.mp h
    obtain ⟨_, -, h⟩ := bind_eq_ok_iff.mp h
    obtain rfl := Option.some.inj (Except.ok.inj h)
    exact ⟨requireString_eq_ok hroot, rfl, requireString_eq_ok htype, requireString_eq_ok hid⟩

theorem stringValue_prop (v : JsonValue) (key : String) :
    stringValue (v.prop key) = (v.stringField key).filter (· ≠ "") := rfl

/-- An empty name leaves no column, so the column tells the names apart. -/
theorem eq_of_filter_nonempty {a b : String}
    (h : (some a).filter (· ≠ "") = (some b).filter (· ≠ "")) : a = b := by
  by_cases ha : a = ""
  · by_cases hb : b = ""
    · rw [ha, hb]
    · simp [Option.filter_some, ha, hb] at h
  · by_cases hb : b = ""
    · simp [Option.filter_some, ha, hb] at h
    · simpa [Option.filter_some, ha, hb] using h

/-- The type of the target that a revocation reads. -/
theorem revocation_targetType {body : JsonValue} {revocation : RevocationStatusArtifactBody}
    (h : revocationStatusArtifactBody body = some revocation) :
    ∃ target text, body.prop "target" = some target ∧ target.stringField "target_type" = some text
      ∧ RevocationTargetType.ofText text = some revocation.targetType := by
  obtain ⟨target, htarget, h⟩ := Option.bind_eq_some_iff.mp h
  obtain ⟨_, -, h⟩ := Option.bind_eq_some_iff.mp h
  obtain ⟨_, -, h⟩ := Option.bind_eq_some_iff.mp h
  obtain ⟨_, -, h⟩ := Option.bind_eq_some_iff.mp h
  obtain ⟨_, htype, h⟩ := Option.bind_eq_some_iff.mp h
  obtain ⟨text, htext, htype⟩ := Option.bind_eq_some_iff.mp htype
  obtain ⟨_, -, h⟩ := Option.bind_eq_some_iff.mp h
  obtain ⟨_, -, h⟩ := Option.bind_eq_some_iff.mp h
  obtain ⟨_, -, h⟩ := Option.bind_eq_some_iff.mp h
  obtain ⟨_, -, h⟩ := Option.bind_eq_some_iff.mp h
  obtain ⟨_, -, h⟩ := Option.bind_eq_some_iff.mp h
  obtain ⟨_, -, h⟩ := Option.bind_eq_some_iff.mp h
  obtain ⟨_, -, h⟩ := Option.bind_eq_some_iff.mp h
  obtain ⟨_, -, h⟩ := Option.bind_eq_some_iff.mp h
  obtain ⟨_, -, h⟩ := Option.bind_eq_some_iff.mp h
  obtain ⟨_, -, h⟩ := Option.bind_eq_some_iff.mp h
  obtain rfl := Option.some.inj h
  exact ⟨target, text, htarget, htext, htype⟩

/-- Rows about one object by their columns are of one root, authority and type. -/
theorem scope_of_rows {artifact artifact' : SignedArtifact}
    {revocation revocation' : RevocationStatusArtifactBody} {row row' : StatusEventRow}
    (hreads : revocationStatusArtifactBody artifact.body = some revocation)
    (hreads' : revocationStatusArtifactBody artifact'.body = some revocation')
    (hrow : RowOf artifact row) (hrow' : RowOf artifact' row') (hsame : SameRowTarget row row') :
    revocation.rootProgramId = revocation'.rootProgramId
      ∧ revocation.delegatedAuthorityId = revocation'.delegatedAuthorityId
      ∧ revocation.targetType = revocation'.targetType := by
  obtain ⟨hroot, hauthority⟩ := revocation_names hreads
  obtain ⟨hroot', hauthority'⟩ := revocation_names hreads'
  refine ⟨?_, ?_, ?_⟩
  · have hkept := hrow.root
    have hkept' := hrow'.root
    rw [stringValue_prop, hroot] at hkept
    rw [stringValue_prop, hroot'] at hkept'
    have heq := (Option.filter_eq_some_iff.mp hkept).1
    have heq' := (Option.filter_eq_some_iff.mp hkept').1
    rw [Option.some.inj heq, Option.some.inj heq', hsame.root]
  · have hkept := hrow.authority
    have hkept' := hrow'.authority
    rw [stringValue_prop, hauthority] at hkept
    rw [stringValue_prop, hauthority', ← hsame.authority, ← hkept] at hkept'
    exact (eq_of_filter_nonempty hkept').symm
  · have htext : ∀ {a : SignedArtifact} {r : RevocationStatusArtifactBody} {s : StatusEventRow},
        revocationStatusArtifactBody a.body = some r → RowOf a s →
          RevocationTargetType.ofText s.targetType = some r.targetType := by
      intro a r s hreads hrow
      obtain ⟨target, text, htarget, htext, htype⟩ := revocation_targetType hreads
      have hkept := hrow.targetType
      have hrecord : recordProp a.body "target" = some target := by
        rw [recordProp, htarget]
        cases target with
        | obj fields => rfl
        | _ => cases htext
      rw [hrecord] at hkept
      have heq := (Option.filter_eq_some_iff.mp hkept).1
      rw [Option.bind_some, ← JsonValue.stringField, htext] at heq
      rw [← Option.some.inj heq]
      exact htype
    have htype := htext hreads hrow
    rw [hsame.targetType] at htype
    exact Option.some.inj (htype.symm.trans (htext hreads' hrow'))

/-! ## Rows that tell objects apart -/

/-- Each identifier of the type is left out of both targets, or leads in both. -/
def IdentifiedByRow (type : RevocationTargetType) (names names' : Finset TargetField) : Prop :=
  ∀ field ∈ identifying type,
    field ∉ names ∧ field ∉ names' ∨ leading names = some field ∧ leading names' = some field

/-- Where each identifier is left out or leads, the id of the row gives it. -/
theorem identifiers_of_rows {artifact artifact' : SignedArtifact} {row row' : StatusEventRow}
    {type : RevocationTargetType} {names names' : Finset TargetField}
    (hnames : NamesExactly artifact names) (hnames' : NamesExactly artifact' names')
    (hrow : RowOf artifact row) (hrow' : RowOf artifact' row') (hsame : SameRowTarget row row')
    (hidentified : IdentifiedByRow type names names') :
    ∀ field ∈ identifying type, named artifact field = named artifact' field := by
  intro field hfield
  rcases hidentified field hfield with ⟨habsent, habsent'⟩ | ⟨hleads, hleads'⟩
  · have hnone : named artifact field = none :=
      Option.not_isSome_iff_eq_none.mp fun h => habsent ((hnames field).mp h)
    have hnone' : named artifact' field = none :=
      Option.not_isSome_iff_eq_none.mp fun h => habsent' ((hnames' field).mp h)
    rw [hnone, hnone']
  · have hid := hrow.targetId
    have hid' := hrow'.targetId
    rw [targetId_eq hnames, hleads, Option.bind_some] at hid
    rw [targetId_eq hnames', hleads', Option.bind_some] at hid'
    rw [hid, hid', hsame.targetId]

/-! ## An event for every target -/

/-- The text of a target type. -/
def typeText : RevocationTargetType → String
  | .issuerRecord => "issuer_record"
  | .issuer => "issuer"
  | .certificate => "certificate"
  | .destinationPolicy => "destination_policy"
  | .delegatedAuthority => "delegated_authority"
  | .trustKey => "trust_key"

/-- The identifiers that have a value, as fields of a target. -/
def identifierFields (value : TargetField → Option String) : List (String × JsonValue) :=
  TargetField.order.filterMap fun field => (value field).map fun text => (field.key, .str text)

/-- A target of a type with the identifiers that have a value. -/
def builtTarget (type : RevocationTargetType) (value : TargetField → Option String) : JsonValue :=
  .obj (("target_type", .str (typeText type)) :: identifierFields value)

/-- A revocation of that target, signed with the key of an authority. -/
def builtBody (type : RevocationTargetType) (value : TargetField → Option String) : JsonValue :=
  .obj
    [ ("artifact_type", .str "revocation_status_event"),
      ("status_event_id", .str "status:demo:v1"), ("root_program_id", .str "root:demo"),
      ("delegated_authority_id", .str "authority:demo"), ("target", builtTarget type value),
      ("status", .str "revoked"), ("reason", .str "compromised"),
      ("effective_at", .str "2026-01-01T00:00:00Z"), ("signed_by", .str "authority:demo"),
      ("signature_status", .str SignatureVerification.trustSignatureStatus),
      ("signature_algorithm_id", .str "ed25519"),
      ("signature_input", .str SignatureVerification.trustSignatureInput),
      ("signature", .str "pem:v1") ]

/-- The artifact of that revocation. -/
def builtArtifact (type : RevocationTargetType) (value : TargetField → Option String) :
    SignedArtifact where
  artifactId := "artifact:revocation"
  artifactHash := "sha256:digest"
  artifactType := "revocation_status_event"
  version := 1
  body := builtBody type value

theorem find?_filterMap_key {value : TargetField → Option String} {field : TargetField}
    {l : List TargetField} (hnodup : l.Nodup) (hfield : field ∈ l) :
    (l.filterMap fun g => (value g).map fun text => (g.key, JsonValue.str text)).find?
        (fun entry => entry.1 = field.key)
      = (value field).map fun text => (field.key, JsonValue.str text) := by
  have hkey : ∀ {f g : TargetField}, f.key = g.key → f = g := by
    intro f g h
    cases f <;> cases g <;> first | rfl | exact absurd h (by decide)
  induction l with
  | nil => cases hfield
  | cons g rest ih =>
      obtain ⟨hg, hrest⟩ := List.nodup_cons.mp hnodup
      by_cases heq : g = field
      · subst heq
        cases hvalue : value g with
        | none =>
            rw [List.filterMap_cons_none (by rw [hvalue]; rfl), List.find?_eq_none.mpr]
            · rfl
            · intro entry hentry
              obtain ⟨f, hf, hfentry⟩ := List.mem_filterMap.mp hentry
              obtain ⟨text, -, rfl⟩ := Option.map_eq_some_iff.mp hfentry
              simp only [decide_eq_true_eq]
              exact fun h => hg (hkey h ▸ hf)
        | some text =>
            rw [List.filterMap_cons_some (by rw [hvalue]; rfl), List.find?_cons_of_pos (by simp)]
            rfl
      · have hmem : field ∈ rest := (List.mem_cons.mp hfield).resolve_left (Ne.symm heq)
        cases hvalue : value g with
        | none => rw [List.filterMap_cons_none (by rw [hvalue]; rfl), ih hrest hmem]
        | some text =>
            rw [List.filterMap_cons_some (by rw [hvalue]; rfl), List.find?_cons_of_neg, ih hrest hmem]
            simp only [decide_eq_true_eq]
            exact fun h => heq (hkey h)

theorem prop_builtTarget (type : RevocationTargetType) (value : TargetField → Option String)
    (field : TargetField) :
    (builtTarget type value).prop field.key = (value field).map JsonValue.str := by
  have hother : ("target_type" : String) ≠ field.key := by cases field <;> decide
  show ((("target_type", JsonValue.str (typeText type)) :: identifierFields value).find?
    fun entry => entry.1 = field.key).map Prod.snd = _
  rw [List.find?_cons_of_neg (by simpa using hother), identifierFields,
    find?_filterMap_key (by decide) (by cases field <;> decide), Option.map_map]
  rfl

theorem optionalStringField_builtTarget (type : RevocationTargetType)
    (value : TargetField → Option String) (field : TargetField) :
    (builtTarget type value).optionalStringField field.key = some (value field) := by
  rw [JsonValue.optionalStringField, prop_builtTarget]
  cases value field <;> rfl

/-- What the guard reads from the revocation. -/
def builtRevocation (type : RevocationTargetType) (value : TargetField → Option String) :
    RevocationStatusArtifactBody where
  rootProgramId := "root:demo"
  delegatedAuthorityId := "authority:demo"
  targetType := type
  targetIssuerId := value .issuerId
  targetDestinationPolicyId := value .destinationPolicyId
  targetKeyId := value .keyId
  status := .revoked
  signedBy := "authority:demo"
  signatureAlgorithmId := "ed25519"

theorem builtBody_reads (type : RevocationTargetType) (value : TargetField → Option String) :
    revocationStatusArtifactBody (builtBody type value) = some (builtRevocation type value) := by
  have hbody : ∀ {key : String} {text : String},
      (builtBody type value).prop key = some (.str text) →
        (builtBody type value).stringField key = some text := by
    intro key text h
    rw [JsonValue.stringField, h]
    rfl
  have htype : ((builtTarget type value).stringField "target_type").bind RevocationTargetType.ofText
      = some type := by
    show RevocationTargetType.ofText (typeText type) = some type
    cases type <;> rfl
  have hstatus : VerifierSync.statusField (builtBody type value) "status" = some .revoked := by
    rw [VerifierSync.statusField, hbody rfl]
    rfl
  have hguard : VerifierSync.hasArtifactType (builtBody type value) "revocation_status_event"
      = true := by
    rw [VerifierSync.hasArtifactType, hbody rfl]
    rfl
  have hfield := optionalStringField_builtTarget type value
  rw [revocationStatusArtifactBody,
    show (builtBody type value).prop "target" = some (builtTarget type value) from rfl]
  simp only [Option.bind_eq_bind, Option.bind_some, hguard, guard_true, htype,
    show (builtTarget type value).optionalStringField "issuer_id" = _ from hfield .issuerId,
    show (builtTarget type value).optionalStringField "destination_policy_id" = _ from
      hfield .destinationPolicyId,
    show (builtTarget type value).optionalStringField "certificate_ref" = _ from
      hfield .certificateRef,
    show (builtTarget type value).optionalStringField "key_id" = _ from hfield .keyId, hstatus,
    @hbody "root_program_id" _ rfl, @hbody "delegated_authority_id" _ rfl, @hbody "signed_by" _ rfl,
    @hbody "signature_status" _ rfl, @hbody "signature_algorithm_id" _ rfl,
    @hbody "signature_input" _ rfl, @hbody "signature" _ rfl]
  rfl

/-- A service that knows the key of the authority, and whose store holds the
    revocation. -/
def builtWiring (type : RevocationTargetType) (value : TargetField → Option String) :
    VerifierWiring where
  js :=
    { parseUrl := fun _ => none
      toLowerCase := fun text => text
      toISOString := fun _ => none
      hashJson := fun _ => "digest" }
  store := .ofList [("artifact:revocation", ⟨"sha256:digest", builtBody type value⟩)]
  host := KeyRotation.namingHost
  keyMaterial := KeyRotation.inlineMaterial
  keysOf := fun _ => [KeyRotation.authorityKey "v1"]

/-- The event that brings the revocation. -/
def builtEvent : VerifierSync.NetworkEvent where
  type := "issuer.status.changed"
  occurredAt := "2026-01-01T00:00:00Z"
  rootProgramId := "root:demo"
  delegatedAuthorityId := some "authority:demo"
  issuerId := none
  destinationPolicyId := none
  artifactId := "artifact:revocation"
  artifactHash := "sha256:digest"

/-- Whatever its target, a signed revocation is accepted. -/
theorem builtArtifact_accepted (type : RevocationTargetType) (value : TargetField → Option String) :
    AcceptedEvent (builtArtifact type value) (builtRevocation type value) := by
  refine ⟨⟨builtWiring type value, ⟨.empty, none⟩, builtEvent, ?_⟩, builtBody_reads type value⟩
  have hrecognized : VerifierSync.isRecognizedTrustArtifact (builtBody type value) = true := by
    rw [VerifierSync.isRecognizedTrustArtifact, builtBody_reads]
    simp
  have htype := revocation_type (builtBody_reads type value)
  have hscope : VerifierSync.trustArtifactScopeMatchesBody (builtBody type value) = true := by
    rw [VerifierSync.trustArtifactScopeMatchesBody, rootManifest_none htype (by decide),
      authorityManifest_none htype (by decide), issuerRecord_none htype (by decide)]
  have haccepts : SignatureAcceptance.Accepts KeyRotation.namingHost [KeyRotation.authorityKey "v1"]
      KeyRotation.inlineMaterial (builtBody type value) :=
    SignatureAcceptance.accepts_iff.mpr ⟨⟨rfl, rfl⟩, KeyRotation.authorityKey "v1", rfl,
      .str "pem:v1", "pem:v1", rfl, rfl, rfl⟩
  exact ⟨⟨by decide, rfl, rfl⟩, hrecognized, verified_iff.mpr haccepts, hscope⟩

/-- Every value is a string with something in it. -/
def Filled (value : TargetField → Option String) : Prop := ∀ field, value field ≠ some ""

theorem named_builtArtifact {type : RevocationTargetType} {value : TargetField → Option String}
    (hfilled : Filled value) (field : TargetField) :
    named (builtArtifact type value) field = value field := by
  show stringValue ((builtTarget type value).prop field.key) = _
  rw [prop_builtTarget]
  cases hvalue : value field with
  | none => rfl
  | some text =>
      show (some text).filter (· ≠ "") = _
      have hne : text ≠ "" := fun h => hfilled field (by rw [hvalue, h])
      rw [Option.filter_some, if_pos (by simpa using hne)]

/-- The row of the revocation. -/
def builtRow (type : RevocationTargetType) (value : TargetField → Option String)
    (targetId : String) : StatusEventRow where
  statusEventId := "status:demo:v1"
  rootProgramId := "root:demo"
  delegatedAuthorityId := some "authority:demo"
  issuerId := value .issuerId
  destinationPolicyId := value .destinationPolicyId
  targetType := typeText type
  targetId := targetId
  status := "revoked"
  reasonCode := "compromised"
  effectiveAt := "2026-01-01T00:00:00Z"

theorem command_builtArtifact {type : RevocationTargetType} {value : TargetField → Option String}
    (hfilled : Filled value) {targetId : String}
    (hid : TargetField.order.findSome? value = some targetId) :
    statusEventCommand (builtArtifact type value) = .ok (some (builtRow type value targetId)) := by
  have hnamed : namedBy (recordProp (builtBody type value) "target") = value :=
    funext fun field => named_builtArtifact hfilled field
  have htarget : targetIdFromStatusTarget (recordProp (builtBody type value) "target")
      = some targetId := by rw [targetIdFromStatusTarget, hnamed, hid]
  have hne : targetId ≠ "" := by
    rintro rfl
    obtain ⟨field, -, hfield⟩ := List.exists_of_findSome?_eq_some hid
    exact hfilled field hfield
  have hrequired : ∀ message, requireString (some targetId) message = .ok targetId := by
    intro message
    rw [requireString, Option.filter_some, if_pos (by simpa using hne)]
  have htype : ∀ message, requireString
      (stringValue ((recordProp (builtBody type value) "target").bind (·.prop "target_type"))) message
        = .ok (typeText type) := by
    intro message
    show requireString (stringValue (some (.str (typeText type)))) message = _
    cases type <;> rfl
  have hbody : (builtArtifact type value).body = builtBody type value := rfl
  have hartifactType : (builtBody type value).stringField "artifact_type"
      = some "revocation_status_event" := rfl
  rw [statusEventCommand, hbody, if_neg (not_not_intro hartifactType)]
  simp only [htype, htarget, hrequired, hnamed]
  rfl

/-- Identifiers that all have the value `first`, but for a marked one. -/
def markedValue (names : Finset TargetField) (marked : Option TargetField) (field : TargetField) :
    Option String :=
  if field ∈ names then some (if marked = some field then "other" else "first") else none

theorem filled_markedValue (names : Finset TargetField) (marked : Option TargetField) :
    Filled (markedValue names marked) := by
  intro field
  rw [markedValue]
  split_ifs <;> decide

theorem isSome_markedValue {names : Finset TargetField} {marked : Option TargetField}
    (field : TargetField) : (markedValue names marked field).isSome ↔ field ∈ names := by
  rw [markedValue]
  by_cases hfield : field ∈ names
  · rw [if_pos hfield]
    exact iff_of_true rfl hfield
  · rw [if_neg hfield]
    exact iff_of_false Bool.false_ne_true hfield

/-- Where the leading identifier is not the marked one, the id is `first`. -/
theorem targetId_markedValue {names : Finset TargetField} {marked : Option TargetField}
    (hne : names.Nonempty) (hmarked : ∀ field, leading names = some field → marked ≠ some field) :
    TargetField.order.findSome? (markedValue names marked) = some "first" := by
  have hsome : (leading names).isSome := by
    obtain ⟨field, hfield⟩ := hne
    rw [leading, List.find?_isSome]
    exact ⟨field, by cases field <;> decide, decide_eq_true hfield⟩
  obtain ⟨first, hfirst⟩ := Option.isSome_iff_exists.mp hsome
  have hmem : first ∈ names := by
    rw [leading] at hfirst
    simpa using List.find?_some hfirst
  rw [findSome?_eq_find? (fun field => (isSome_markedValue field).trans decide_eq_true_iff.symm)]
  show (leading names).bind _ = _
  rw [hfirst, Option.bind_some, markedValue, if_pos hmem, if_neg (hmarked first hfirst)]

/-- **STATUS ROWS**: whatever the values, any two accepted events of the type whose
    targets name these identifiers are about one object as soon as their rows say
    so, exactly where each identifier of the type is left out of both targets or
    leads in both. -/
theorem rows_identify_iff (type : RevocationTargetType) (names names' : Finset TargetField) :
    (∀ artifact artifact' revocation revocation' row row',
      AcceptedEvent artifact revocation → AcceptedEvent artifact' revocation' →
      revocation.targetType = type → revocation'.targetType = type →
      NamesExactly artifact names → NamesExactly artifact' names' →
      statusEventCommand artifact = .ok (some row) →
      statusEventCommand artifact' = .ok (some row') → SameRowTarget row row' →
        SameObject artifact artifact' revocation revocation')
      ↔ (names.Nonempty → names'.Nonempty → IdentifiedByRow type names names') := by
  constructor
  · intro hidentify hne hne' field hfield
    -- two events that agree on what leads, and on the identifier only if it leads in both
    let marked := if leading names = some field then none else some field
    let marked' := if leading names = some field ∧ leading names' ≠ some field then some field
      else none
    have hid : TargetField.order.findSome? (markedValue names marked) = some "first" := by
      refine targetId_markedValue hne fun first hfirst => ?_
      simp only [marked]
      split_ifs with hleads
      · exact fun h => by cases h
      · exact fun h => hleads (hfirst.trans h.symm)
    have hid' : TargetField.order.findSome? (markedValue names' marked') = some "first" := by
      refine targetId_markedValue hne' fun first hfirst => ?_
      simp only [marked']
      split_ifs with hleads
      · exact fun h => hleads.2 (hfirst.trans h.symm)
      · exact fun h => by cases h
    have hfilled := filled_markedValue names marked
    have hfilled' := filled_markedValue names' marked'
    have hsame := hidentify _ _ _ _ _ _ (builtArtifact_accepted type (markedValue names marked))
      (builtArtifact_accepted type (markedValue names' marked')) rfl rfl
      (fun f => by rw [named_builtArtifact hfilled]; exact isSome_markedValue f)
      (fun f => by rw [named_builtArtifact hfilled']; exact isSome_markedValue f)
      (command_builtArtifact hfilled hid) (command_builtArtifact hfilled' hid') ⟨rfl, rfl, rfl, rfl⟩
    have hvalue := hsame.identifiers field hfield
    rw [named_builtArtifact hfilled, named_builtArtifact hfilled', markedValue, markedValue] at hvalue
    by_cases hmem : field ∈ names
    · by_cases hmem' : field ∈ names'
      · rw [if_pos hmem, if_pos hmem'] at hvalue
        refine .inr ?_
        by_cases hleads : leading names = some field
        · refine ⟨hleads, by_contra fun hother => ?_⟩
          have htexts : some "first" = some "other" := by
            simpa only [marked, marked', if_pos hleads, if_pos (And.intro hleads hother),
              reduceCtorEq, if_false, if_true] using hvalue
          exact absurd htexts (by decide)
        · have hneither : ¬ (leading names = some field ∧ leading names' ≠ some field) :=
            fun h => hleads h.1
          have htexts : some "other" = some "first" := by
            simpa only [marked, marked', if_neg hleads, if_neg hneither, reduceCtorEq, if_false,
              if_true] using hvalue
          exact absurd htexts (by decide)
      · rw [if_pos hmem, if_neg hmem'] at hvalue
        cases hvalue
    · by_cases hmem' : field ∈ names'
      · rw [if_neg hmem, if_pos hmem'] at hvalue
        cases hvalue
      · exact .inl ⟨hmem, hmem'⟩
  · intro hcondition artifact artifact' revocation revocation' row row' haccepted haccepted' htype
      htype' hnames hnames' hcommand hcommand' hsame
    have hrow := rowOf_of_command hcommand
    have hrow' := rowOf_of_command hcommand'
    have hnonempty : ∀ {a : SignedArtifact} {s : StatusEventRow} {ns : Finset TargetField},
        RowOf a s → NamesExactly a ns → ns.Nonempty := by
      intro a s ns hrow hnames
      obtain ⟨field, -, hfield⟩ := List.exists_of_findSome?_eq_some hrow.targetId
      exact ⟨field, (hnames field).mp (by rw [named, hfield]; rfl)⟩
    obtain ⟨hroot, hauthority, htypes⟩ :=
      scope_of_rows haccepted.reads haccepted'.reads hrow hrow' hsame
    refine ⟨hroot, hauthority, htypes, ?_⟩
    rw [htype]
    exact identifiers_of_rows hnames hnames' hrow hrow' hsame
      (hcondition (hnonempty hrow hnames) (hnonempty hrow' hnames'))

/-- The values of a target of a destination policy of the issuer. -/
def policyOf (policyId : String) : TargetField → Option String
  | .issuerId => some "issuer:acme"
  | .destinationPolicyId => some policyId
  | _ => none

/-- **TWO POLICIES, ONE ROW**: the revocations of two policies of an issuer are
    accepted, and their rows are about one target. -/
theorem policies_share_row_target :
    ∃ artifact artifact' revocation revocation' row row',
      AcceptedEvent artifact revocation ∧ AcceptedEvent artifact' revocation'
        ∧ statusEventCommand artifact = .ok (some row)
        ∧ statusEventCommand artifact' = .ok (some row') ∧ SameRowTarget row row'
        ∧ ¬ SameObject artifact artifact' revocation revocation' := by
  have hfilled : ∀ policyId, policyId ≠ "" → Filled (policyOf policyId) := by
    intro policyId hne field
    cases field with
    | issuerId => exact (by decide : some "issuer:acme" ≠ some "")
    | destinationPolicyId => exact fun h => hne (Option.some.inj h)
    | _ => exact fun h => by cases h
  have hpay := hfilled "policy:pay" (by decide)
  have hlogin := hfilled "policy:login" (by decide)
  refine ⟨_, _, _, _, _, _, builtArtifact_accepted .destinationPolicy (policyOf "policy:pay"),
    builtArtifact_accepted .destinationPolicy (policyOf "policy:login"),
    command_builtArtifact hpay rfl, command_builtArtifact hlogin rfl, ⟨rfl, rfl, rfl, rfl⟩, ?_⟩
  intro hsame
  have hpolicy := hsame.identifiers .destinationPolicyId (by decide)
  rw [named_builtArtifact hpay, named_builtArtifact hlogin] at hpolicy
  exact absurd hpolicy (by decide)

end StatusEventRows
