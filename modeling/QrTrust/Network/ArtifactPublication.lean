import QrTrust.Lib.Runs
import QrTrust.Network.Json

/-! # Publishing an artifact

    A publication is two statements: the artifact goes into
    `qr_trust.published_artifacts`, and an event that names it goes into
    `qr_trust.event_outbox`.  Nothing ties the two together, so a run is any
    interleaving of the statements of any number of calls, and a call may end
    between them. -/

namespace ArtifactPublication

/-! ## Requests, artifacts and events -/

/-- `ArtifactPublicationInput`. -/
structure ArtifactPublicationInput where
  artifactType : String
  artifactId : String
  version : Rat
  rootProgramId : String
  body : JsonValue
  occurredAt : Rat
  eventType : String
  delegatedAuthorityId : Option String := none
  issuerId : Option String := none
  destinationPolicyId : Option String := none
  artifactRef : Option String := none
  previousVersion : Option Rat := none
  reason : Option String := none

/-- `SignedArtifact`. -/
structure SignedArtifact where
  artifactId : String
  artifactHash : String
  artifactType : String
  version : Rat
  body : JsonValue

/-- `EventEnvelopeSchema`. -/
structure EventEnvelope where
  eventId : String
  type : String
  occurredAt : Rat
  rootProgramId : String
  delegatedAuthorityId : Option String
  issuerId : Option String
  destinationPolicyId : Option String
  artifactId : String
  artifactHash : String
  artifactRef : Option String
  version : Rat
  previousVersion : Option Rat
  reason : Option String

/-- `NetworkEvent`, as publications fill it. -/
structure NetworkEvent where
  envelope : EventEnvelope
  body : SignedArtifact

/-- `PositiveIntegerSchema`: a safe integer from one on. -/
def positiveInteger (n : Rat) : Bool := n.isInt && 1 ≤ n && n ≤ 9007199254740991

/-- `decodeEventEnvelope`: does the envelope meet the contract? -/
def decodeEventEnvelope (envelope : EventEnvelope) : Bool :=
  envelope.eventId ≠ ""
    && envelope.type ≠ ""
    && (JsString.startsWith envelope.rootProgramId "root:"
      || envelope.rootProgramId = "control-plane")
    && envelope.delegatedAuthorityId.all (JsString.startsWith · "authority:")
    && envelope.issuerId.all (JsString.startsWith · "issuer:")
    && envelope.destinationPolicyId.all (JsString.startsWith · "policy:")
    && envelope.artifactId ≠ ""
    && JsString.startsWith envelope.artifactHash "sha256:"
    && positiveInteger envelope.version
    && envelope.previousVersion.all positiveInteger

section Requests

variable (js : JsRuntime)

/-- The artifact of a request. -/
def ArtifactPublicationInput.artifact (input : ArtifactPublicationInput) : SignedArtifact where
  artifactId := input.artifactId
  artifactHash := "sha256:" ++ js.hashJson input.body
  artifactType := input.artifactType
  version := input.version
  body := input.body

/-- `eventIdForPublication`. -/
def eventIdForPublication (eventType : String) (artifact : SignedArtifact) : String :=
  "evt_" ++ js.hashJson (.obj
    [("artifact_hash", .str artifact.artifactHash), ("artifact_id", .str artifact.artifactId),
      ("event_type", .str eventType), ("version", .num artifact.version)])

/-- The event of a request. -/
def ArtifactPublicationInput.event (input : ArtifactPublicationInput) : NetworkEvent :=
  let stored := input.artifact js
  { envelope :=
      { eventId := eventIdForPublication js input.eventType stored
        type := input.eventType
        occurredAt := input.occurredAt
        rootProgramId := input.rootProgramId
        delegatedAuthorityId := JsString.truthy input.delegatedAuthorityId
        issuerId := JsString.truthy input.issuerId
        destinationPolicyId := JsString.truthy input.destinationPolicyId
        artifactId := stored.artifactId
        artifactHash := stored.artifactHash
        artifactRef := JsString.truthy input.artifactRef
        version := stored.version
        previousVersion := input.previousVersion.filter (· ≠ 0)
        reason := JsString.truthy input.reason }
    body := stored }

end Requests

/-! ## The statements -/

/-- A row of `qr_trust.published_artifacts`. -/
structure PublishedArtifactRow where
  artifactType : String
  rootProgramId : String
  delegatedAuthorityId : Option String
  issuerId : Option String
  destinationPolicyId : Option String
  canonicalJson : JsonValue
  artifactHash : String
  version : Rat
  publishedAt : Option String

/-- `stringValue`: a string with something in it. -/
def stringValue (value : Option JsonValue) : Option String :=
  (value.bind JsonValue.asString).filter (· ≠ "")

/-- `artifactScopeFromBody`. -/
structure ArtifactScope where
  rootProgramId : Option String
  delegatedAuthorityId : Option String
  issuerId : Option String
  destinationPolicyId : Option String
  publishedAt : Option String

/-- `recordValue` of a property. -/
def recordProp (value : JsonValue) (key : String) : Option JsonValue :=
  (value.prop key).filter JsonValue.isRecord

/-- `artifactScopeFromBody`. -/
def artifactScopeFromBody (body : JsonValue) : ArtifactScope :=
  let issuerNamespace := recordProp body "issuer_namespace"
  let publication := recordProp body "publication"
  let destinationPolicy :=
    ((body.arrayField "destination_policies").bind List.head?).filter JsonValue.isRecord
  let field := fun key (part : Option JsonValue) => stringValue (part.bind (·.prop key))
  { rootProgramId := (field "root_program_id" (some body)).or (field "root_program_id" issuerNamespace)
    delegatedAuthorityId :=
      (field "delegated_authority_id" (some body)).or (field "delegated_authority_id" issuerNamespace)
    issuerId := (field "issuer_id" (some body)).or (field "issuer_id" issuerNamespace)
    destinationPolicyId :=
      (field "destination_policy_id" (some body)).or
        (field "destination_policy_id" destinationPolicy)
    publishedAt := field "published_at" publication }

/-- The types that the table admits. -/
def admittedTypes : List String :=
  ["root_manifest", "delegated_authority_manifest", "issuer_record", "destination_policy",
    "revocation_status_event", "assurance_status_event", "verifier_cache_entry"]

/-- A value of a column of type `bigint`. -/
def fitsBigint (n : Rat) : Bool := n.isInt && -2 ^ 63 ≤ n && n < 2 ^ 63

/-- The published artifacts, by their id. -/
abbrev PublishedArtifacts := OrderedMap String PublishedArtifactRow

/-- `publishedArtifactCommand`: the rows afterwards, unless the statement fails.
    On a conflict the type and the scope of the row stay. -/
def publishedArtifactCommand (artifact : SignedArtifact) (rows : PublishedArtifacts) :
    Option PublishedArtifacts := do
  let scope := artifactScopeFromBody artifact.body
  let rootProgramId ← scope.rootProgramId
  guard (admittedTypes.contains artifact.artifactType)
  guard (fitsBigint artifact.version)
  -- `artifact_hash text not null unique`
  guard (rows.entries.all fun entry =>
    entry.1 = artifact.artifactId || entry.2.artifactHash ≠ artifact.artifactHash)
  let inserted : PublishedArtifactRow :=
    { artifactType := artifact.artifactType
      rootProgramId := rootProgramId
      delegatedAuthorityId := scope.delegatedAuthorityId
      issuerId := scope.issuerId
      destinationPolicyId := scope.destinationPolicyId
      canonicalJson := artifact.body
      artifactHash := artifact.artifactHash
      version := artifact.version
      publishedAt := scope.publishedAt }
  let row := match rows.get? artifact.artifactId with
    | none => inserted
    | some row =>
        { row with
          canonicalJson := inserted.canonicalJson
          artifactHash := inserted.artifactHash
          version := inserted.version
          publishedAt := inserted.publishedAt }
  some (rows.set artifact.artifactId row)

/-- `eventOutboxCommand`: the events in the order they were enqueued; an event
    whose id is taken is dropped. -/
def eventOutboxCommand (event : NetworkEvent) (outbox : List NetworkEvent) : List NetworkEvent :=
  if outbox.any fun other => other.envelope.eventId = event.envelope.eventId then outbox
  else outbox ++ [event]

/-! ## Calls -/

/-- The tables, and the calls that are between their two statements. -/
structure State where
  published : PublishedArtifacts
  outbox : List NetworkEvent
  calls : String → Option ArtifactPublicationInput

/-- A statement of a call, or its end. -/
inductive Action where
  /-- the call starts and stores its artifact -/
  | put (call : String) (input : ArtifactPublicationInput)
  /-- the call goes on and enqueues its event -/
  | announce (call : String)
  /-- the call dies, or its statement fails -/
  | abort (call : String)

namespace State

variable (js : JsRuntime)

/-- One step of `publishArtifact`. -/
def apply (s : State) : Action → State
  | .put call input =>
      match s.calls call, publishedArtifactCommand (input.artifact js) s.published with
      | none, some published =>
          { s with published := published, calls := Function.update s.calls call (some input) }
      | _, _ => s
  | .announce call =>
      match s.calls call with
      | none => s
      | some input =>
          let event := input.event js
          let ended := Function.update s.calls call none
          if decodeEventEnvelope event.envelope then
            { s with outbox := eventOutboxCommand event s.outbox, calls := ended }
          else { s with calls := ended }
  | .abort call => { s with calls := Function.update s.calls call none }

end State

/-- Any number of publications, interleaved. -/
def machine (js : JsRuntime) : Runs.Machine State Action Action where
  plan _ action := [action]
  apply := State.apply js

/-! ## What is stored and what was announced -/

/-- What an artifact says: the hash of its body, and its version. -/
structure Content where
  artifactHash : String
  version : Rat
  deriving DecidableEq, Repr

/-- The content of an artifact. -/
def SignedArtifact.content (artifact : SignedArtifact) : Content :=
  ⟨artifact.artifactHash, artifact.version⟩

/-- The content stored under an id. -/
def State.stored (s : State) (artifactId : String) : Option Content :=
  (s.published.get? artifactId).map fun row => ⟨row.artifactHash, row.version⟩

/-- A consumer takes over the content of an event. -/
def consume (contents : String → Option Content) (event : NetworkEvent) :
    String → Option Content :=
  Function.update contents event.envelope.artifactId (some event.body.content)

/-- What a consumer has after the whole outbox, in order. -/
def State.consumed (s : State) : String → Option Content := s.outbox.foldl consume fun _ => none

end ArtifactPublication
