import QrTrust.Network.EventOutbox
import QrTrust.Network.NatsPropagation
import QrTrust.Network.WorkItems

/-! # The workers of the outbox and of the publication queue

    `event-outbox-worker.ts` with its publisher, and
    `artifact-publication-queue-worker.ts` with the publication service over
    Postgres.  Both claim a batch, decode its rows, process the records one by
    one, catching the failures of each, and report; the statements of the store
    succeed.  What throws while a record is processed is caught by nobody: the
    worker dies and the claim stays. -/

namespace PublicationWorkers

open NatsPropagation WorkQueue

/-! ## The worker -/

/-- `persistenceError`. -/
def persistenceError (message : String) : NetworkError := ⟨"PersistenceError", message⟩

/-- What makes a worker: the protocol of its table, how a row is decoded, where the
    whole claim fails with the first row that does not, and how a record is
    processed. -/
structure Worker (α R ρ : Type) where
  protocol : Protocol
  rowError : String
  decode : String → α → Except String R
  process : R → Exit NetworkError ρ

/-- A claim and the rows it returns, in the order in which the statement does. -/
structure ClaimedBatch {α ρ : Type} (protocol : Protocol) (rows : Table α ρ) where
  input : ClaimInput
  locked : List String
  returned : List String
  perm : returned.Perm (nextRows protocol input locked rows)

namespace ClaimedBatch

variable {α ρ : Type} {protocol : Protocol} {rows : Table α ρ}

/-- The rows after the claim. -/
def claimed (batch : ClaimedBatch protocol rows) : Table α ρ :=
  claimRows protocol batch.input batch.locked rows

/-- The rows that the claim returns. -/
def items (batch : ClaimedBatch protocol rows) : List (String × α) :=
  batch.returned.filterMap fun key => (batch.claimed.get? key).map fun row => (key, row.item)

end ClaimedBatch

/-- What a worker reports; `attempted` is `claimed`. -/
structure WorkerReport (ρ : Type) where
  workerId : String
  claimed : Nat
  successes : List (String × ρ)
  failures : List (String × String)
  markedDone : Nat
  markedFailed : Nat
  deriving DecidableEq, Repr

/-- `emptyWorkerReport`. -/
def emptyWorkerReport (ρ : Type) (workerId : String) : WorkerReport ρ :=
  ⟨workerId, 0, [], [], 0, 0⟩

section Worker

variable {α R ρ : Type} (worker : Worker α R ρ)

/-- The rows of a claim, decoded. -/
def Worker.decodeRows (items : List (String × α)) : Exit NetworkError (List (String × R)) :=
  match items.mapM fun item => (worker.decode item.1 item.2).map fun record => (item.1, record) with
  | .ok records => .succeed records
  | .error _ => .fail (persistenceError worker.rowError)

/-- The records of a batch, processed one by one. -/
def Worker.processRecords (records : List (String × R)) :
    Exit NetworkError (List (String × Except NetworkError ρ)) :=
  (Exit.forEach (fun record => (worker.process record.2).either) records).bind fun outcomes =>
    .succeed ((records.map Prod.fst).zip outcomes)

/-- What `f` makes of the value of an entry, under its key. -/
def keyed {γ β : Type} (f : γ → Option β) (entry : String × γ) : Option (String × β) :=
  (f entry.2).map fun value => (entry.1, value)

/-- The processed records of a batch that succeeded. -/
def successes (processed : List (String × Except NetworkError ρ)) : List (String × ρ) :=
  processed.filterMap (keyed Except.toOption)

/-- `failureReason`, of an outcome that has one. -/
def failureReason : Except NetworkError ρ → Option String
  | .ok _ => none
  | .error error => some error.message

/-- The processed records that failed. -/
def failures (processed : List (String × Except NetworkError ρ)) : List (String × String) :=
  processed.filterMap (keyed failureReason)

/-- The statements that report a batch. -/
def mark (processed : List (String × Except NetworkError ρ)) (completedAt : Rat)
    (rows : Table α ρ) : Table α ρ :=
  let published :=
    if (successes processed).isEmpty then rows else markDone (successes processed) completedAt rows
  if (failures processed).isEmpty then published else markFailed (failures processed) published

/-- The report on a batch. -/
def workerReport (workerId : String) (processed : List (String × Except NetworkError ρ)) :
    WorkerReport ρ where
  workerId := workerId
  claimed := processed.length
  successes := successes processed
  failures := failures processed
  markedDone := (successes processed).length
  markedFailed := (failures processed).length

/-- `processOnce`: the rows afterwards, and how it ends. -/
def Worker.processOnce {rows : Table α ρ} (batch : ClaimedBatch worker.protocol rows)
    (completedAt : Rat) : Table α ρ × Exit NetworkError (WorkerReport ρ) :=
  match worker.decodeRows batch.items with
  | .fail error => (batch.claimed, .fail error)
  | .die => (batch.claimed, .die)
  | .succeed records =>
      if records.isEmpty then (batch.claimed, .succeed (emptyWorkerReport ρ batch.input.workerId))
      else
        match worker.processRecords records with
        | .fail error => (batch.claimed, .fail error)
        | .die => (batch.claimed, .die)
        | .succeed processed =>
            (mark processed completedAt batch.claimed,
              .succeed (workerReport batch.input.workerId processed))

end Worker

/-! ## Rows -/

/-- What the workers need of their host: the network's runtime, and `JSON.parse`
    with the text of its exception. -/
structure WorkerHost where
  js : JsRuntime
  parseJson : String → Except String JsonValue

section Rows

variable (host : WorkerHost)

/-- `jsonbValue`: a string of the column is parsed once more. -/
def jsonbValue (value : JsonValue) : Except String JsonValue :=
  match value with
  | .str text => host.parseJson text
  | value => .ok value

/-- `requireStringField` of a text column; `row` names the row in the message. -/
def requireStringField (row : String) (value field : String) : Except String String :=
  if value ≠ "" then .ok value else .error (row ++ " is missing " ++ field ++ ".")

/-! ## Events -/

/-- `EventOutboxRecord`. -/
structure EventOutboxRecord where
  outboxId : String
  eventId : String
  payload : JsonValue

/-- `postgresEventOutboxRecordFromRow`. -/
def postgresEventOutboxRecordFromRow (key : String) (event : EventOutbox.OutboxEvent) :
    Except String EventOutboxRecord := do
  let required := requireStringField "Postgres event outbox row"
  let outboxId ← required key "outbox_id"
  let eventId ← required event.eventId "event_id"
  let payload ← jsonbValue host event.payload
  .ok { outboxId, eventId, payload }

/-- `payloadObject`: the envelope of a payload. -/
def payloadEnvelope (payload : JsonValue) : Exit NetworkError JsonValue :=
  match payload.prop "envelope" with
  | some envelope => .succeed envelope
  | none => .fail ⟨"Error", "Outbox payload must contain an event envelope."⟩

/-- `networkEventFromOutboxRecord`, without the body, which no message has. -/
def networkEventFromOutboxRecord (record : EventOutboxRecord) : Exit NetworkError EventEnvelope :=
  (payloadEnvelope record.payload).bind fun document =>
    match decodeEventEnvelope host.js document with
    | some envelope => .succeed envelope
    | none => .fail (contractValidationError "Outbox payload envelope is invalid.")

/-- A sink for messages; what it makes of a message it records, or fails. -/
abbrev JetStreamMessageSink := String → JetStreamPublishMessage → Except NetworkError Unit

/-- One record of `publishBatch`. -/
def publishRecord (sink : JetStreamMessageSink) (record : EventOutboxRecord) :
    Exit NetworkError Unit :=
  (networkEventFromOutboxRecord host record).bind fun envelope =>
  (jetStreamMessageFromEvent host.js envelope).bind fun message =>
    match sink record.outboxId message with
    | .ok () => .succeed ()
    | .error error => .fail error

/-- `makeEventOutboxWorker`. -/
def eventOutboxWorker (sink : JetStreamMessageSink) :
    Worker EventOutbox.OutboxEvent EventOutboxRecord Unit where
  protocol := EventOutbox.eventOutbox
  rowError := "Postgres event outbox row decoding failed."
  decode := postgresEventOutboxRecordFromRow host
  process := publishRecord host sink

/-! ## Publications -/

/-- `requireNumberField` of a `bigint` column, which arrives as its digits. -/
def requireNumberField (row : String) (value : Int) (field : String) : Except String Rat :=
  if 0 ≤ value then .ok value else .error (row ++ " is missing " ++ field ++ ".")

/-- `optionalNumberField` of a `bigint` column. -/
def optionalNumberField (row : String) (value : Option Int) (field : String) :
    Except String (Option Rat) :=
  match value with
  | none => .ok none
  | some n =>
      if 0 ≤ n then .ok (some n) else .error (row ++ " " ++ field ++ " must be numeric.")

/-- `ArtifactPublicationQueueRecord`. -/
structure ArtifactPublicationQueueRecord where
  workItemId : String
  input : ArtifactPublication.ArtifactPublicationInput

/-- `postgresArtifactPublicationWorkItemFromRow`; an empty text of an optional column
    counts as none. -/
def postgresArtifactPublicationWorkItemFromRow (key : String)
    (item : WorkItems.ArtifactPublicationItem) :
    Except String ArtifactPublicationQueueRecord := do
  let row := "Postgres artifact-publication work-item row"
  let previousVersion ← optionalNumberField row item.previousVersion "previous_version"
  let workItemId ← requireStringField row key "work_item_id"
  let artifactType ← requireStringField row item.artifactType "artifact_type"
  let artifactId ← requireStringField row item.artifactId "artifact_id"
  let version ← requireNumberField row item.version "version"
  let rootProgramId ← requireStringField row item.rootProgramId "root_program_id"
  let body ← jsonbValue host item.canonicalJson
  let eventType ← requireStringField row item.eventType "event_type"
  .ok
    { workItemId
      input :=
        { artifactType, artifactId, version, rootProgramId, body
          occurredAt := item.occurredAt
          eventType
          delegatedAuthorityId := JsString.truthy item.delegatedAuthorityId
          issuerId := JsString.truthy item.issuerId
          destinationPolicyId := JsString.truthy item.destinationPolicyId
          artifactRef := JsString.truthy item.artifactRef
          previousVersion
          reason := JsString.truthy item.reason } }

/-- A time that a date of the host language can hold, in milliseconds. -/
def isDate (time : Rat) : Bool := -8640000000000000 ≤ time && time ≤ 8640000000000000

/-- `publishArtifact` over `makePostgresArtifactStore`: the command of an artifact
    without a root program throws, and so does the text of an invalid date. -/
def publishArtifact (input : ArtifactPublication.ArtifactPublicationInput) :
    Exit NetworkError WorkItems.PublishedWorkItem :=
  let event := input.event host.js
  match (ArtifactPublication.artifactScopeFromBody input.body).rootProgramId with
  | none => .die
  | some _ =>
      if !isDate input.occurredAt then .die
      else if ArtifactPublication.decodeEventEnvelope event.envelope then
        .succeed
          { artifactId := event.body.artifactId
            artifactHash := event.body.artifactHash
            eventId := event.envelope.eventId }
      else
        .fail (contractValidationError "Artifact publication event failed contract validation.")

/-- `makeArtifactPublicationQueueWorker`. -/
def artifactPublicationQueueWorker :
    Worker WorkItems.ArtifactPublicationItem ArtifactPublicationQueueRecord
      WorkItems.PublishedWorkItem where
  protocol := WorkItems.WorkTable.artifactPublication.protocol
  rowError := "Postgres artifact-publication work-item row decoding failed."
  decode := postgresArtifactPublicationWorkItemFromRow host
  process record := publishArtifact host record.input

end Rows

end PublicationWorkers
