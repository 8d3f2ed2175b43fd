import QrTrust.Lib.Exit
import QrTrust.Network.ArtifactPublication

/-! # Messages for the event stream

    `nats-propagation.ts` with the event contract it rests on: an envelope is
    decoded from a JSON document, and an event becomes a message under a subject
    made of the root program and of the tail that a table gives to its type.

    The table is an object of the host language, so it also answers for the names
    that every object inherits, with something that is no string; the effect then
    dies where the tail is read as one. -/

namespace NatsPropagation

/-! ## Errors -/

/-- `NetworkError`, as far as its readers look: its tag and its message. -/
structure NetworkError where
  tag : String
  message : String
  deriving DecidableEq, Repr

/-- `eventPublicationError`. -/
def eventPublicationError (message : String) : NetworkError := ⟨"EventPublicationError", message⟩

/-- `contractValidationError`. -/
def contractValidationError (message : String) : NetworkError :=
  ⟨"ContractValidationError", message⟩

/-! ## The event contract -/

/-- `EventEnvelope`. -/
structure EventEnvelope where
  eventId : String
  type : String
  occurredAt : String
  rootProgramId : String
  delegatedAuthorityId : Option String
  issuerId : Option String
  destinationPolicyId : Option String
  artifactId : String
  artifactHash : String
  artifactRef : Option String
  version : Rat
  previousVersion : Option Rat
  reason : Option String
  deriving DecidableEq

section Contract

variable (js : JsRuntime)

/-- `Schema.optional`: a property that is absent or admitted. -/
def optionalProp {α : Type} (document : JsonValue) (key : String)
    (decode : JsonValue → Option α) : Option (Option α) :=
  match document.prop key with
  | none => some none
  | some value => (decode value).map some

/-- A string that meets a pattern. -/
def stringWhere (admits : String → Bool) (value : JsonValue) : Option String :=
  value.asString.filter fun s => admits s

/-- A string property that must be there. -/
def requiredString (document : JsonValue) (key : String) (admits : String → Bool) :
    Option String :=
  (document.prop key).bind (stringWhere admits)

/-- `RootProgramIdSchema`. -/
def isRootProgramId (s : String) : Bool :=
  JsString.startsWith s "root:" || s = "control-plane"

/-- `PositiveIntegerSchema`. -/
def positiveIntegerValue (value : JsonValue) : Option Rat :=
  value.asNumber.filter fun n => ArtifactPublication.positiveInteger n

/-- `decodeEventEnvelope`. -/
def decodeEventEnvelope (document : JsonValue) : Option EventEnvelope := do
  let eventId ← requiredString document "event_id" (· ≠ "")
  let type ← requiredString document "type" (· ≠ "")
  let occurredAt ← requiredString document "occurred_at" fun s => (js.toISOString s).isSome
  let rootProgramId ← requiredString document "root_program_id" isRootProgramId
  let delegatedAuthorityId ← optionalProp document "delegated_authority_id"
    (stringWhere (JsString.startsWith · "authority:"))
  let issuerId ← optionalProp document "issuer_id" (stringWhere (JsString.startsWith · "issuer:"))
  let destinationPolicyId ← optionalProp document "destination_policy_id"
    (stringWhere (JsString.startsWith · "policy:"))
  let artifactId ← requiredString document "artifact_id" (· ≠ "")
  let artifactHash ← requiredString document "artifact_hash" (JsString.startsWith · "sha256:")
  let artifactRef ← optionalProp document "artifact_ref" JsonValue.asString
  let version ← (document.prop "version").bind positiveIntegerValue
  let previousVersion ← optionalProp document "previous_version" positiveIntegerValue
  let reason ← optionalProp document "reason" JsonValue.asString
  some
    { eventId, type, occurredAt, rootProgramId, delegatedAuthorityId, issuerId,
      destinationPolicyId, artifactId, artifactHash, artifactRef, version, previousVersion, reason }

end Contract

/-! ## Subjects -/

/-- The characters of a subject token. -/
def isTokenChar (c : Char) : Bool := ('a' ≤ c && c ≤ 'z') || ('0' ≤ c && c ≤ '9')

/-- `replace(/[^a-z0-9]+/g, "-")`: each run of other characters becomes one dash,
    which leaves no two of them together. -/
def dashRuns : List Char → List Char
  | [] => []
  | c :: rest =>
      if isTokenChar c then c :: dashRuns rest
      else
        match dashRuns rest with
        | '-' :: tail => '-' :: tail
        | tail => '-' :: tail

/-- `replace(/^-|-$/g, "")`. -/
def stripDashes (cs : List Char) : List Char :=
  let front := if cs.head? = some '-' then cs.tail else cs
  if front.getLast? = some '-' then front.dropLast else front

section Messages

variable (js : JsRuntime)

/-- `normalizeSubjectToken`. -/
def normalizeSubjectToken (value : String) : String :=
  String.ofList (stripDashes (dashRuns (js.toLowerCase (JsString.trim value)).toList))

/-- `subjectRootFromEnvelope`. -/
def subjectRootFromEnvelope (envelope : EventEnvelope) : Exit NetworkError String :=
  let normalized := normalizeSubjectToken js envelope.rootProgramId
  if normalized ≠ "" then .succeed normalized
  else .fail (eventPublicationError "Event root_program_id cannot form a NATS subject.")

/-- `controlPlaneSubjectRoot`. -/
def controlPlaneSubjectRoot : String := "control-plane"

/-- `controlPlaneEventTypes`. -/
def controlPlaneEventTypes : List String :=
  ["runtime_provider.upserted", "nats.subscriber.authorization.changed"]

/-- `enforceControlPlaneBoundary`. -/
def enforceControlPlaneBoundary (envelope : EventEnvelope) (normalizedRoot : String) :
    Exit NetworkError Unit :=
  let isControlPlaneEvent := envelope.type ∈ controlPlaneEventTypes
  if normalizedRoot = controlPlaneSubjectRoot ∧ ¬ isControlPlaneEvent then
    .fail (eventPublicationError "Control-plane root cannot publish trust-state NATS subjects.")
  else if isControlPlaneEvent ∧ normalizedRoot ≠ controlPlaneSubjectRoot then
    .fail (eventPublicationError
      "Control-plane management events must use the control-plane root.")
  else .succeed ()

/-- `headersFromEnvelope`. -/
def headersFromEnvelope (envelope : EventEnvelope) : List (String × String) :=
  [("Nats-Msg-Id", envelope.eventId), ("QRTrust-Event-Type", envelope.type),
    ("QRTrust-Root-Program-Id", envelope.rootProgramId),
    ("QRTrust-Artifact-Id", envelope.artifactId),
    ("QRTrust-Artifact-Hash", envelope.artifactHash),
    ("QRTrust-Version", toString envelope.version.num)]

/-- `eventTypeToSubjectTail`. -/
def eventTypeToSubjectTail : List (String × String) :=
  [("root_program.upserted", "root.program.upserted"),
    ("root.manifest.published", "root.manifest.published"),
    ("delegated_authority.upserted", "authority.delegated.upserted"),
    ("delegated_authority.manifest.published", "authority.manifest.published"),
    ("issuer.enrollment.requested", "issuer.enrollment.requested"),
    ("domain_proof.upserted", "issuer.domain-proof.upserted"),
    ("issuer.record.published", "issuer.record.published"),
    ("issuer.status.changed", "issuer.status.changed"),
    ("destination_policy.upserted", "destination.policy.upserted"),
    ("destination_policy.status.changed", "destination.policy.status.changed"),
    ("destination.policy.published", "destination.policy.published"),
    ("destination.policy.revoked", "destination.policy.revoked"),
    ("trust_key.upserted", "certificate.trust-key.upserted"),
    ("trust_key.status.changed", "certificate.trust-key.status.changed"),
    ("trust-key.status.changed", "certificate.status.changed"),
    ("certificate.status.changed", "certificate.status.changed"),
    ("verifier.cache.refreshed", "verifier.cache.refreshed"),
    ("runtime_provider.upserted", "runtime.provider.upserted"),
    ("runtime.verdict.observed", "runtime.verdict.observed"),
    ("nats.subscriber.authorization.changed",
      "authority.nats-subscriber.authorization.changed"),
    ("scanner.decision.recorded", "scanner.decision.recorded"),
    ("scanner.spike.detected", "scanner.spike.detected")]

/-- The names that every object of the host language answers for. -/
def inheritedNames : List String :=
  ["constructor", "__defineGetter__", "__defineSetter__", "hasOwnProperty", "__lookupGetter__",
    "__lookupSetter__", "isPrototypeOf", "propertyIsEnumerable", "toString", "valueOf",
    "__proto__", "toLocaleString"]

/-- What the table answers: a text, or what an inherited name stands for. -/
inductive SubjectTail where
  | text (tail : String)
  | inherited
  deriving DecidableEq, Repr

/-- `subjectTailFromEventType`. -/
def subjectTailFromEventType (eventType : String) : Exit NetworkError SubjectTail :=
  match eventTypeToSubjectTail.find? fun entry => entry.1 = eventType with
  | some entry => .succeed (.text entry.2)
  | none =>
      if eventType ∈ inheritedNames then .succeed .inherited
      else
        .fail (eventPublicationError ("Unsupported QR trust network event type: " ++ eventType))

/-- `JetStreamName`. -/
inductive JetStreamName where
  | governance
  | runtime
  | scannerAudit
  deriving DecidableEq, Repr

/-- `streamForSubjectTail`; what is no text has no `startsWith`. -/
def streamForSubjectTail : SubjectTail → Exit NetworkError (String × JetStreamName)
  | .inherited => .die
  | .text tail =>
      let startsWithOneOf := fun starts : List String => starts.any (JsString.startsWith tail ·)
      if startsWithOneOf ["root.", "authority.", "issuer.", "destination.", "certificate."] then
        .succeed (tail, .governance)
      else if startsWithOneOf ["runtime.", "verifier."] then .succeed (tail, .runtime)
      else if startsWithOneOf ["scanner."] then .succeed (tail, .scannerAudit)
      else .fail (eventPublicationError ("Unsupported QR trust network subject tail: " ++ tail))

/-- `JetStreamPublishMessage`; its payload is the text of the envelope. -/
structure JetStreamPublishMessage where
  subject : String
  stream : JetStreamName
  headers : List (String × String)
  payload : EventEnvelope
  deriving DecidableEq

/-- `jetStreamMessageFromEvent`. -/
def jetStreamMessageFromEvent (envelope : EventEnvelope) :
    Exit NetworkError JetStreamPublishMessage :=
  (subjectTailFromEventType envelope.type).bind fun subjectTail =>
  (subjectRootFromEnvelope js envelope).bind fun rootSubject =>
  (enforceControlPlaneBoundary envelope rootSubject).bind fun _ =>
  (streamForSubjectTail subjectTail).bind fun (tail, stream) =>
    .succeed
      { subject := "qrtrust." ++ rootSubject ++ "." ++ tail ++ ".v1"
        stream := stream
        headers := headersFromEnvelope envelope
        payload := envelope }

end Messages

end NatsPropagation
