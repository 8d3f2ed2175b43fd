import QrTrust.Backend.GovernanceBuilders
import QrTrust.Network.JsStringProofs
import QrTrust.Network.NatsPropagationProofs

/-! # Management events on the network

    The envelope that the management plane stores with a mutation, as the network
    reads it:

    * `decodeEventEnvelope_iff`: when it decodes, and to what;
    * `propagatable_iff`: which mutations the network can propagate.  The table of
      subjects has no entry for the two certificate events, and the root program
      `control-plane`, which the management plane admits for every mutation, is
      refused for all that name one. -/

/-! ## Documents across the two languages -/

namespace PyJson

mutual

/-- The document that the other side parses from the text of a value. -/
def toJsonValue : PyJson → JsonValue
  | .none => .null
  | .bool b => .bool b
  | .int n => .num n
  | .float x => .num x
  | .str s => .str s
  | .list items => .arr (toJsonItems items)
  | .dict fields => .obj (toJsonFields fields)

/-- The items of a list. -/
def toJsonItems : List PyJson → List JsonValue
  | [] => []
  | item :: rest => toJsonValue item :: toJsonItems rest

/-- The fields of a dict. -/
def toJsonFields : List (String × PyJson) → List (String × JsonValue)
  | [] => []
  | (key, value) :: rest => (key, toJsonValue value) :: toJsonFields rest

end

theorem toJsonFields_eq (fields : List (String × PyJson)) :
    toJsonFields fields = fields.map fun field => (field.1, field.2.toJsonValue) := by
  induction fields with
  | nil => rfl
  | cons field rest ih => rw [toJsonFields, List.map_cons, ih]

theorem prop_toJsonValue (fields : List (String × PyJson)) (key : String) :
    (dict fields).toJsonValue.prop key
      = (fields.find? fun field => field.1 = key).map fun field => field.2.toJsonValue := by
  rw [toJsonValue, toJsonFields_eq, JsonValue.prop, List.find?_map, Option.map_map]
  rfl

end PyJson

namespace ManagementEvents

open GovernanceMutations hiding controlPlaneSubjectRoot
open NatsPropagation

/-! ## Decoding -/

section Decoding

variable {α β : Type} {document : JsonValue} {key s t : String} {admits : String → Bool}

/-- **BIND**: a step that succeeds under one condition, with one value. -/
theorem bind_iff {x : Option α} {a : α} {b : β} {P : Prop} {f : α → Option β}
    (hx : ∀ {t : α}, x = some t ↔ P ∧ a = t) : (x >>= f) = some b ↔ P ∧ f a = some b := by
  rw [Option.bind_eq_bind, Option.bind_eq_some_iff]
  constructor
  · rintro ⟨t, ht, h⟩
    obtain ⟨hP, rfl⟩ := hx.mp ht
    exact ⟨hP, h⟩
  · rintro ⟨hP, h⟩
    exact ⟨a, hx.mpr ⟨hP, rfl⟩, h⟩

theorem requiredString_iff (hs : document.prop key = some (.str s)) :
    requiredString document key admits = some t ↔ admits s = true ∧ s = t := by
  rw [requiredString, hs]
  show Option.filter (fun s => admits s) (some s) = some t ↔ _
  rw [Option.filter_eq_some_iff, Option.some.injEq]
  constructor
  · rintro ⟨rfl, h⟩
    exact ⟨h, rfl⟩
  · rintro ⟨h, rfl⟩
    exact ⟨rfl, h⟩

theorem optionalProp_iff {value decoded : Option String}
    (hvalue : document.prop key = value.map .str) :
    optionalProp document key (stringWhere admits) = some decoded
      ↔ (∀ s ∈ value, admits s = true) ∧ value = decoded := by
  rw [optionalProp, hvalue]
  cases value with
  | none => simp
  | some s =>
      show (Option.filter (fun s => admits s) (some s)).map some = some decoded ↔ _
      by_cases hs : admits s = true
      · simp [Option.filter, hs]
      · simp [Option.filter, hs]

end Decoding

section Envelopes

variable {js : JsRuntime} {mutation : GovernanceMutation} {eventId hash utcNowIso : String}

/-- What the envelope of a mutation decodes to. -/
def storedEnvelope (mutation : GovernanceMutation) (eventId artifactHash utcNowIso : String) :
    EventEnvelope where
  eventId := eventId
  type := mutation.eventType
  occurredAt := utcNowIso
  rootProgramId := eventRootProgramId mutation
  delegatedAuthorityId := mutation.delegatedAuthorityId
  issuerId := mutation.issuerId
  destinationPolicyId := (destinationPolicyId mutation).filter (· ≠ "")
  artifactId := mutation.targetId
  artifactHash := artifactHash
  artifactRef := some (artifactRef mutation)
  version := 1
  previousVersion := none
  reason := some mutation.action

/-- The contract, apart from what every stored envelope meets by its form. -/
def MeetsContract (js : JsRuntime) (envelope : EventEnvelope) : Prop :=
  envelope.eventId ≠ ""
    ∧ envelope.type ≠ ""
    ∧ (js.toISOString envelope.occurredAt).isSome = true
    ∧ isRootProgramId envelope.rootProgramId = true
    ∧ (∀ id ∈ envelope.delegatedAuthorityId, JsString.startsWith id "authority:" = true)
    ∧ (∀ id ∈ envelope.issuerId, JsString.startsWith id "issuer:" = true)
    ∧ (∀ id ∈ envelope.destinationPolicyId, JsString.startsWith id "policy:" = true)
    ∧ envelope.artifactId ≠ ""
    ∧ JsString.startsWith envelope.artifactHash "sha256:" = true

/-- The document of a stored envelope. -/
def envelopeDocument (mutation : GovernanceMutation) (eventId artifactHash utcNowIso : String) :
    JsonValue :=
  (PyJson.dict (outboxEnvelope mutation eventId artifactHash utcNowIso)).toJsonValue

theorem find?_optional (name key : String) (value : Option String) :
    ((value.map fun id => (name, PyJson.str id)).toList.find? fun field => field.1 = key)
      = if name = key then value.map fun id => (name, PyJson.str id) else none := by
  by_cases h : name = key
  · cases value <;> simp [h]
  · cases value <;> simp [h]

theorem prop_envelopeDocument (key : String) :
    (envelopeDocument mutation eventId hash utcNowIso).prop key
      = ((outboxEnvelope mutation eventId hash utcNowIso).find? fun field => field.1 = key).map
          fun field => field.2.toJsonValue :=
  PyJson.prop_toJsonValue _ key

/-- **ENVELOPE**: the stored envelope decodes when its ids are the ones of the
    contract. -/
theorem decodeEventEnvelope_iff {envelope : EventEnvelope} :
    decodeEventEnvelope js (envelopeDocument mutation eventId hash utcNowIso) = some envelope
      ↔ MeetsContract js (storedEnvelope mutation eventId hash utcNowIso)
        ∧ storedEnvelope mutation eventId hash utcNowIso = envelope := by
  let document := envelopeDocument mutation eventId hash utcNowIso
  have hprop (key : String) : document.prop key = _ := prop_envelopeDocument key
  have hid : document.prop "event_id" = some (.str eventId) := by
    simp [hprop, outboxEnvelope, PyJson.toJsonValue]
  have htype : document.prop "type" = some (.str mutation.eventType) := by
    simp [hprop, outboxEnvelope, PyJson.toJsonValue]
  have hat : document.prop "occurred_at" = some (.str utcNowIso) := by
    simp [hprop, outboxEnvelope, PyJson.toJsonValue]
  have hroot : document.prop "root_program_id" = some (.str (eventRootProgramId mutation)) := by
    simp [hprop, outboxEnvelope, PyJson.toJsonValue]
  have hartifact : document.prop "artifact_id" = some (.str mutation.targetId) := by
    simp [hprop, outboxEnvelope, PyJson.toJsonValue]
  have hhash : document.prop "artifact_hash" = some (.str hash) := by
    simp [hprop, outboxEnvelope, PyJson.toJsonValue]
  have href : document.prop "artifact_ref" = some (.str (artifactRef mutation)) := by
    simp [hprop, outboxEnvelope, PyJson.toJsonValue]
  have hversion : document.prop "version" = some (.num 1) := by
    simp [hprop, outboxEnvelope, PyJson.toJsonValue]
  have hreason : document.prop "reason" = some (.str mutation.action) := by
    simp [hprop, outboxEnvelope, PyJson.toJsonValue]
  -- the three ids are there only where the mutation has them
  have hauthority : document.prop "delegated_authority_id"
      = mutation.delegatedAuthorityId.map .str := by
    simp [hprop, outboxEnvelope, find?_optional, Option.map_map, Function.comp_def,
      PyJson.toJsonValue]
  have hissuer : document.prop "issuer_id" = mutation.issuerId.map .str := by
    simp [hprop, outboxEnvelope, find?_optional, Option.map_map, Function.comp_def,
      PyJson.toJsonValue]
  have hpolicy : document.prop "destination_policy_id"
      = ((destinationPolicyId mutation).filter (· ≠ "")).map .str := by
    simp [hprop, outboxEnvelope, find?_optional, Option.map_map, Function.comp_def,
      PyJson.toJsonValue]
  have hprevious : document.prop "previous_version" = none := by
    simp [hprop, outboxEnvelope, find?_optional]
  have hrefText : optionalProp document "artifact_ref" JsonValue.asString
      = some (some (artifactRef mutation)) := by
    rw [optionalProp, href]
    rfl
  have hreasonText : optionalProp document "reason" JsonValue.asString
      = some (some mutation.action) := by
    rw [optionalProp, hreason]
    rfl
  have hone : (document.prop "version").bind positiveIntegerValue = some 1 := by
    rw [hversion]
    rfl
  have hnoPrevious : optionalProp document "previous_version" positiveIntegerValue
      = some none := by
    rw [optionalProp, hprevious]
  show decodeEventEnvelope js document = some envelope ↔ _
  rw [decodeEventEnvelope, MeetsContract]
  simp only [and_assoc]
  refine (bind_iff (requiredString_iff hid)).trans (and_congr decide_eq_true_iff ?_)
  refine (bind_iff (requiredString_iff htype)).trans (and_congr decide_eq_true_iff ?_)
  refine (bind_iff (requiredString_iff hat)).trans (and_congr Iff.rfl ?_)
  refine (bind_iff (requiredString_iff hroot)).trans (and_congr Iff.rfl ?_)
  refine (bind_iff (optionalProp_iff hauthority)).trans (and_congr Iff.rfl ?_)
  refine (bind_iff (optionalProp_iff hissuer)).trans (and_congr Iff.rfl ?_)
  refine (bind_iff (optionalProp_iff hpolicy)).trans (and_congr Iff.rfl ?_)
  refine (bind_iff (requiredString_iff hartifact)).trans (and_congr decide_eq_true_iff ?_)
  refine (bind_iff (requiredString_iff hhash)).trans (and_congr Iff.rfl ?_)
  rw [hrefText, hone, hnoPrevious, hreasonText]
  exact Option.some_inj

end Envelopes

/-! ## Mutations -/

section Mutations

variable {js : JsRuntime} {host : Host} {dates : DateTexts} {mutation : GovernanceMutation}
  {call : Call}

/-- A stored event that the network can publish: its envelope decodes, and becomes a
    message under the subject root of the program, with the event's id to tell
    copies by. -/
def Propagatable (js : JsRuntime) (row : OutboxRow) (eventId rootProgramId : String) : Prop :=
  ∃ document envelope message,
    row.payload.toJsonValue.prop "envelope" = some document
      ∧ decodeEventEnvelope js document = some envelope
      ∧ jetStreamMessageFromEvent js envelope = .succeed message
      ∧ JsString.startsWith message.subject
          ("qrtrust." ++ normalizeSubjectToken js rootProgramId ++ ".") = true
      ∧ ("Nats-Msg-Id", eventId) ∈ message.headers

/-- The envelope of the event of a call, as the network decodes it. -/
def eventEnvelope (host : Host) (call : Call) : EventEnvelope :=
  storedEnvelope call.mutation (call.eventId host)
    (GovernanceMutations.artifactHash host (outboxBody call.mutation)) call.utcNowIso

/-- **PROPAGATION**: what a stored event needs of its envelope. -/
theorem propagatable_iff_message :
    Propagatable js (call.outboxRow host) (call.eventId host)
        (eventRootProgramId call.mutation)
      ↔ MeetsContract js (eventEnvelope host call)
        ∧ ∃ message, jetStreamMessageFromEvent js (eventEnvelope host call) = .succeed message := by
  have hdocument : (call.outboxRow host).payload.toJsonValue.prop "envelope"
      = some (envelopeDocument call.mutation (call.eventId host)
          (GovernanceMutations.artifactHash host (outboxBody call.mutation)) call.utcNowIso) := by
    show (outboxPayload call.mutation (call.eventId host)
      (GovernanceMutations.artifactHash host (outboxBody call.mutation)) call.utcNowIso
      (outboxBody call.mutation)).toJsonValue.prop "envelope" = _
    rw [outboxPayload, PyJson.prop_toJsonValue]
    rfl
  constructor
  · rintro ⟨document, envelope, message, hprop, hdecode, hmessage, -⟩
    rw [hdocument] at hprop
    obtain rfl := Option.some.inj hprop
    obtain ⟨hmeets, rfl⟩ := decodeEventEnvelope_iff.mp hdecode
    exact ⟨hmeets, message, hmessage⟩
  · rintro ⟨hmeets, message, hmessage⟩
    obtain ⟨hsubject, hid⟩ := subject_of_message hmessage
    exact ⟨_, eventEnvelope host call, message, hdocument,
      decodeEventEnvelope_iff.mpr ⟨hmeets, rfl⟩, hmessage, hsubject, hid⟩

/-- A mutation whose event the network knows, in a program that may publish it. -/
def ReachesNetwork (mutation : GovernanceMutation) : Prop :=
  mutation.targetType ≠ "issuer_certificate"
    ∧ ∀ rootProgramId ∈ mutation.rootProgramId, PyString.startswith rootProgramId "root:" = true

/-- The ids of a mutation, as the schemas admit them. -/
structure Identified (mutation : GovernanceMutation) : Prop where
  target : mutation.targetId ≠ ""
  authority : ∀ id ∈ mutation.delegatedAuthorityId, IsDelegatedAuthorityId id
  issuer : ∀ id ∈ mutation.issuerId, IsIssuerId id
  policy : ∀ id ∈ (destinationPolicyId mutation).filter (· ≠ ""), IsDestinationPolicyId id

theorem rootProgramId_ne_empty {s : String} (h : IsRootProgramId s) : s ≠ "" := by
  rintro rfl
  obtain h | h | h := h
  · exact absurd h (by simp [PyString.startswith])
  · exact absurd h (by decide)
  · exact absurd h (by decide)

/-- The contract holds of an event with admitted ids whose root is one of the
    network's. -/
theorem meetsContract_iff (hdate : (js.toISOString call.utcNowIso).isSome = true)
    (hidentified : Identified call.mutation) (htype : call.mutation.eventType ≠ "") :
    MeetsContract js (eventEnvelope host call)
      ↔ isRootProgramId (eventRootProgramId call.mutation) = true := by
  constructor
  · intro h
    exact h.2.2.2.1
  · intro hroot
    refine ⟨?_, htype, hdate, hroot, hidentified.authority, hidentified.issuer, hidentified.policy,
      hidentified.target, ?_⟩
    · intro hid
      have hempty : ("evt_mgmt_" ++ _ : String).toList = "".toList := congrArg String.toList hid
      rw [String.toList_append] at hempty
      cases hempty
    · show JsString.startsWith ("sha256:" ++ _) "sha256:" = true
      rw [JsString.startsWith, List.isPrefixOf_iff_prefix, String.toList_append]
      exact List.prefix_append ..

/-- The types of the table, and the two of the control plane among them. -/
theorem type_ne_empty {type : String} (h : type ∈ eventTypeToSubjectTail.map Prod.fst) :
    type ≠ "" := by
  rintro rfl
  simp [eventTypeToSubjectTail] at h

/-- **ROOTED**: an event of a root program is published unless the program goes by
    the name of the control plane. -/
theorem propagatable_iff_of_root {root : String} (hjs : LowerCaseKeepsRoots js)
    (hdate : (js.toISOString call.utcNowIso).isSome = true)
    (hidentified : Identified call.mutation)
    (hprogram : call.mutation.rootProgramId = some root)
    (hroot : IsRootProgramId root)
    (htype : call.mutation.eventType ∈ eventTypeToSubjectTail.map Prod.fst)
    (hcontrol : call.mutation.eventType ∉ controlPlaneEventTypes) :
    Propagatable js (call.outboxRow host) (call.eventId host)
        (eventRootProgramId call.mutation)
      ↔ PyString.startswith root "root:" = true := by
  have heventRoot : eventRootProgramId call.mutation = root := by
    rw [eventRootProgramId, hprogram, Option.filter, if_pos (by simpa using rootProgramId_ne_empty hroot)]
  rw [propagatable_iff_message, meetsContract_iff hdate hidentified (type_ne_empty htype),
    message_iff, heventRoot]
  show isRootProgramId root = true ∧ call.mutation.eventType ∈ _
    ∧ normalizeSubjectToken js (eventRootProgramId call.mutation) ≠ ""
    ∧ (normalizeSubjectToken js (eventRootProgramId call.mutation) = controlPlaneSubjectRoot
      ↔ call.mutation.eventType ∈ controlPlaneEventTypes) ↔ _
  rw [heventRoot]
  obtain h | rfl | rfl := hroot
  · have hhead := head_normalizeSubjectToken hjs h
    refine iff_of_true ⟨?_, htype, ?_, iff_of_false ?_ hcontrol⟩ h
    · rw [isRootProgramId, Bool.or_eq_true]
      exact Or.inl h
    · intro hempty
      rw [hempty] at hhead
      cases hhead
    · intro hplane
      rw [hplane] at hhead
      exact absurd hhead (by simp [controlPlaneSubjectRoot])
  · refine iff_of_false ?_ (by simp [PyString.startswith])
    rintro ⟨-, -, -, hboundary⟩
    exact hcontrol (hboundary.mp (normalizeSubjectToken_controlPlane hjs))
  · exact iff_of_false (fun h => absurd h.1 (by simp [isRootProgramId, JsString.startsWith]))
      (by simp [PyString.startswith])

/-- **CONTROL PLANE**: an event of the control plane is published. -/
theorem propagatable_of_controlPlane (hjs : LowerCaseKeepsRoots js)
    (hdate : (js.toISOString call.utcNowIso).isSome = true)
    (hidentified : Identified call.mutation)
    (hroot : eventRootProgramId call.mutation = controlPlaneSubjectRoot)
    (hcontrol : call.mutation.eventType ∈ controlPlaneEventTypes) :
    Propagatable js (call.outboxRow host) (call.eventId host)
      (eventRootProgramId call.mutation) := by
  have htable : ∀ type ∈ controlPlaneEventTypes, type ∈ eventTypeToSubjectTail.map Prod.fst := by
    simp [controlPlaneEventTypes, eventTypeToSubjectTail]
  have htoken : normalizeSubjectToken js (eventEnvelope host call).rootProgramId
      = controlPlaneSubjectRoot :=
    (congrArg (normalizeSubjectToken js) hroot).trans (normalizeSubjectToken_controlPlane hjs)
  rw [propagatable_iff_message,
    meetsContract_iff hdate hidentified (type_ne_empty (htable _ hcontrol)), message_iff, htoken,
    hroot]
  exact ⟨by simp [isRootProgramId, controlPlaneSubjectRoot], htable _ hcontrol, by decide, iff_of_true rfl hcontrol⟩

/-- **CERTIFICATE**: the network has no subject for an event that its table does not
    know. -/
theorem not_propagatable_of_type
    (htype : call.mutation.eventType ∉ eventTypeToSubjectTail.map Prod.fst) :
    ¬ Propagatable js (call.outboxRow host) (call.eventId host)
      (eventRootProgramId call.mutation) := by
  intro h
  exact htype (message_iff.mp (propagatable_iff_message.mp h).2).1

theorem ne_empty_of_startswith {s start : String} (h : PyString.startswith s start = true)
    (hstart : start.toList ≠ []) : s ≠ "" := by
  rintro rfl
  exact hstart (List.prefix_nil.mp (List.isPrefixOf_iff_prefix.mp h))

theorem identified_of_issuer {issuer : TrustProjection.IssuerKey} (hissuer : IsIssuerKey issuer)
    (htarget : mutation.targetId ≠ "")
    (hauthority : mutation.delegatedAuthorityId = some issuer.delegatedAuthorityId)
    (hid : mutation.issuerId = some issuer.issuerId)
    (hpolicy : ∀ id ∈ destinationPolicyId mutation, IsDestinationPolicyId id) :
    Identified mutation where
  target := htarget
  authority id h := by
    rw [hauthority] at h
    obtain rfl := Option.some.inj h
    exact hissuer.authority
  issuer id h := by
    rw [hid] at h
    obtain rfl := Option.some.inj h
    exact hissuer.issuer
  policy id h := hpolicy id (Option.mem_filter_iff.mp h).1

/-- A mutation of a destination policy names the policy that it is about. -/
theorem policy_of_target (hpolicy : IsDestinationPolicyId mutation.targetId)
    (hid : mutation.destinationPolicyId = some mutation.targetId)
    (hafter : (PyJson.get mutation.afterJson "destination_policy_id").asStr
      = some mutation.targetId) :
    ∀ id ∈ destinationPolicyId mutation, IsDestinationPolicyId id := by
  intro id h
  rw [destinationPolicyId, hid, hafter, Option.filter,
    if_pos (decide_eq_true (ne_empty_of_startswith hpolicy (by decide)))] at h
  obtain rfl := Option.some.inj h
  exact hpolicy

/-- The type and the target of an event that the network takes from root programs. -/
def IsRootEvent (type target : String) : Prop :=
  type ∈ eventTypeToSubjectTail.map Prod.fst ∧ type ∉ controlPlaneEventTypes
    ∧ target ≠ "issuer_certificate"

instance (type target : String) : Decidable (IsRootEvent type target) := instDecidableAnd

/-- What the builders build: events of root programs, of the control plane, and of
    certificates. -/
theorem built_cases (hbuilt : Built host dates mutation) :
    (∃ root, mutation.rootProgramId = some root ∧ IsRootProgramId root ∧ Identified mutation
        ∧ IsRootEvent mutation.eventType mutation.targetType)
      ∨ (mutation.rootProgramId = none ∧ eventRootProgramId mutation = controlPlaneSubjectRoot
        ∧ Identified mutation ∧ mutation.eventType ∈ controlPlaneEventTypes
        ∧ mutation.targetType ≠ "issuer_certificate")
      ∨ (mutation.targetType = "issuer_certificate"
        ∧ mutation.eventType ∉ eventTypeToSubjectTail.map Prod.fst) := by
  have hnone {P : String → Prop} : ∀ id ∈ (none : Option String), P id := by
    intro id h
    exact absurd h (Option.not_mem_none id)
  cases hbuilt with
  | rootProgram hroot =>
      exact .inl ⟨_, rfl, hroot, ⟨rootProgramId_ne_empty hroot, hnone, hnone, hnone⟩,
        (by decide +kernel : IsRootEvent "root_program.upserted" "root_program")⟩
  | delegatedAuthority hroot hauthority =>
      refine .inl ⟨_, rfl, hroot, ⟨ne_empty_of_startswith hauthority (by decide), ?_, hnone, hnone⟩,
        (by decide +kernel : IsRootEvent "delegated_authority.upserted" "delegated_authority")⟩
      intro id h
      obtain rfl := Option.some.inj h
      exact hauthority
  | issuerEnrollment hissuer =>
      exact .inl ⟨_, rfl, hissuer.root,
        identified_of_issuer hissuer (ne_empty_of_startswith hissuer.issuer (by decide)) rfl rfl
          hnone,
        (by decide +kernel : IsRootEvent "issuer.enrollment.requested" "issuer")⟩
  | domainProof hissuer hdomain =>
      exact .inl ⟨_, rfl, hissuer.root, identified_of_issuer hissuer hdomain rfl rfl hnone,
        (by decide +kernel : IsRootEvent "domain_proof.upserted" "domain_proof")⟩
  | issuerStatus hissuer =>
      exact .inl ⟨_, rfl, hissuer.root,
        identified_of_issuer hissuer (ne_empty_of_startswith hissuer.issuer (by decide)) rfl rfl
          hnone,
        (by decide +kernel : IsRootEvent "issuer.status.changed" "issuer")⟩
  | destinationPolicy hissuer hpolicy =>
      have hne := ne_empty_of_startswith hpolicy (by decide)
      exact .inl ⟨_, rfl, hissuer.root,
        identified_of_issuer hissuer hne rfl rfl (policy_of_target hpolicy rfl rfl),
        (by decide +kernel : IsRootEvent "destination_policy.upserted" "destination_policy")⟩
  | destinationPolicyStatus hissuer hpolicy =>
      have hne := ne_empty_of_startswith hpolicy (by decide)
      exact .inl ⟨_, rfl, hissuer.root,
        identified_of_issuer hissuer hne rfl rfl (policy_of_target hpolicy rfl rfl),
        (by decide +kernel :
          IsRootEvent "destination_policy.status.changed" "destination_policy")⟩
  | trustKey hkey hroot hauthority =>
      exact .inl ⟨_, rfl, hroot, ⟨hkey, hauthority, hnone, hnone⟩,
        (by decide +kernel : IsRootEvent "trust_key.upserted" "trust_key")⟩
  | issuerCertificateEnroll =>
      exact .inr (.inr ⟨rfl, (by decide +kernel :
        "issuer_certificate.enrolled" ∉ eventTypeToSubjectTail.map Prod.fst)⟩)
  | issuerCertificateStatus =>
      exact .inr (.inr ⟨rfl, (by decide +kernel :
        "issuer_certificate.status.changed" ∉ eventTypeToSubjectTail.map Prod.fst)⟩)
  | trustKeyStatus hroot hkey =>
      exact .inl ⟨_, rfl, hroot, ⟨hkey, hnone, hnone, hnone⟩,
        (by decide +kernel : IsRootEvent "trust_key.status.changed" "trust_key")⟩
  | runtimeSafetyProvider hprovider =>
      exact .inr (.inl ⟨rfl, rfl, ⟨hprovider, hnone, hnone, hnone⟩, List.mem_cons_self,
        (by decide : "runtime_safety_provider" ≠ "issuer_certificate")⟩)
  | natsSubscriber hsubscriber =>
      exact .inr (.inl ⟨rfl, rfl, ⟨hsubscriber, hnone, hnone, hnone⟩,
        List.mem_cons_of_mem _ List.mem_cons_self,
        (by decide : "nats_subscriber" ≠ "issuer_certificate")⟩)

/-- **PROPAGATION**: the event of a mutation that the management plane can build is
    published exactly when the mutation is none of an issuer certificate and names
    no root program but one under `root:`. -/
theorem propagatable_iff (hjs : LowerCaseKeepsRoots js)
    (hdate : (js.toISOString call.utcNowIso).isSome = true)
    (hbuilt : Built host dates call.mutation) :
    Propagatable js (call.outboxRow host) (call.eventId host)
        (eventRootProgramId call.mutation)
      ↔ ReachesNetwork call.mutation := by
  obtain ⟨root, hprogram, hroot, hidentified, htype, hcontrol, htarget⟩
    | ⟨hprogram, hroot, hidentified, hcontrol, htarget⟩ | ⟨htarget, htype⟩ := built_cases hbuilt
  · rw [propagatable_iff_of_root hjs hdate hidentified hprogram hroot htype hcontrol,
      ReachesNetwork, hprogram]
    constructor
    · intro h
      refine ⟨htarget, fun id hid => ?_⟩
      obtain rfl := Option.some.inj hid
      exact h
    · intro h
      exact h.2 root rfl
  · refine iff_of_true (propagatable_of_controlPlane hjs hdate hidentified hroot hcontrol)
      ⟨htarget, fun id hid => ?_⟩
    rw [hprogram] at hid
    cases hid
  · exact iff_of_false (not_propagatable_of_type htype) fun h => h.1 htarget

end Mutations

/-! ## A network -/

/-- A runtime with the ASCII case mapping. -/
def eventRuntime : JsRuntime where
  parseUrl _ := none
  toLowerCase := JsString.asciiLowerCase
  toISOString := some
  hashJson _ := ""

theorem lowerCaseKeepsRoots_eventRuntime : LowerCaseKeepsRoots eventRuntime where
  root s h := by
    obtain ⟨rest, hs⟩ := startsWith_root_iff.mp h
    refine startsWith_root_iff.mpr ⟨rest.map Char.toLower, ?_⟩
    show (JsString.asciiLowerCase s).toList = _
    rw [JsString.asciiLowerCase, String.toList_ofList, hs]
    rfl
  controlPlane := rfl

/-- A host without digests. -/
def eventHost : Host where
  sha256 _ := "00"
  reprFloat _ := "0.0"
  intOfNumeric _ := none

/-- A text for every datetime. -/
def eventDates : DateTexts where
  str _ := "2026-05-25 10:08:00+00:00"
  isoformat _ := "2026-05-25T10:08:00+00:00"

/-- The issuer of the demonstration. -/
def acme : TrustProjection.IssuerKey := ⟨"root:demo", "authority:merchant", "issuer:acme-demo"⟩

theorem isIssuerKey_acme : IsIssuerKey acme where
  root := .inl (by simp [acme, PyString.startswith])
  authority := by simp [acme, IsDelegatedAuthorityId, PyString.startswith]
  issuer := by simp [acme, IsIssuerId, PyString.startswith]

/-- A call that records a mutation. -/
def record (mutation : GovernanceMutation) : Call where
  principal := ⟨some "mkey_ops", none, {"issuer:write"}⟩
  mutation := mutation
  requestId := "req-1"
  idempotencyKey := none
  server := ⟨.utc 0, "epoch", 1⟩
  utcNowIso := "2026-05-25T10:08:00Z"
  executes := true

theorem propagatable_iff_enrollment :
    Propagatable eventRuntime
        ((record (buildIssuerEnrollmentMutation acme "Acme" "business" "verified_business")).outboxRow
          eventHost)
        ((record (buildIssuerEnrollmentMutation acme "Acme" "business" "verified_business")).eventId
          eventHost) "root:demo"
      ↔ ReachesNetwork
        (buildIssuerEnrollmentMutation acme "Acme" "business" "verified_business") :=
  @propagatable_iff eventRuntime eventHost eventDates
    (record (buildIssuerEnrollmentMutation acme "Acme" "business" "verified_business"))
    lowerCaseKeepsRoots_eventRuntime rfl (.issuerEnrollment isIssuerKey_acme ..)

/-- **NO SUBJECT**: the enrolment of a certificate of a valid issuer is stored, and
    its event is not published. -/
theorem certificate_not_propagatable :
    Built eventHost eventDates
        (buildIssuerCertificateEnrollMutation eventDates "cert:acme-demo:1" acme "ed25519" "kms:1"
          "pem" (.utc 0) none)
      ∧ ¬ Propagatable eventRuntime
        ((record (buildIssuerCertificateEnrollMutation eventDates "cert:acme-demo:1" acme "ed25519"
          "kms:1" "pem" (.utc 0) none)).outboxRow eventHost)
        ((record (buildIssuerCertificateEnrollMutation eventDates "cert:acme-demo:1" acme "ed25519"
          "kms:1" "pem" (.utc 0) none)).eventId eventHost) "root:demo" :=
  ⟨.issuerCertificateEnroll .., not_propagatable_of_type (by decide +kernel)⟩

end ManagementEvents
