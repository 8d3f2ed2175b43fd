import QrTrust.Backend.TrustKeyEnrolment
import QrTrust.Network.Json
import QrTrust.Network.WorkQueue

/-! # The event outbox

    `qr_trust.event_outbox`: a work queue whose rows are events to publish, whose
    workers hand them to a publisher, and whose operators requeue an event or
    take it out of circulation. -/

namespace EventOutbox

open WorkQueue

/-! ## The workers' statements -/

/-- The columns of an event that the protocol does not touch. -/
structure OutboxEvent where
  eventId : String
  artifactId : String
  artifactHash : String
  payload : JsonValue

/-- Rows of the outbox; a published row has nothing to say about its publication. -/
abbrev OutboxRow := Row OutboxEvent Unit

/-- The outbox, its workers and what they published. -/
abbrev OutboxState := State OutboxEvent Unit

/-- Failed events are retried, and failures are reported. -/
def eventOutbox : Protocol where
  retriesFailed := true
  failureBinding := ⟨1, 1⟩

/-- `claimEventOutboxBatchCommand`. -/
def claimEventOutboxBatchCommand (input : ClaimInput) (locked : List String)
    (rows : Table OutboxEvent Unit) : Table OutboxEvent Unit :=
  claimRows eventOutbox input locked rows

/-- `markEventOutboxPublishedCommand`. -/
def markEventOutboxPublishedCommand (successes : List (String × Unit)) (publishedAt : Rat)
    (rows : Table OutboxEvent Unit) : Table OutboxEvent Unit :=
  markDone successes publishedAt rows

/-- `markEventOutboxFailedCommand`; the time of the failure is not used. -/
def markEventOutboxFailedCommand (failures : List (String × String))
    (rows : Table OutboxEvent Unit) : Table OutboxEvent Unit :=
  markFailed failures rows

/-- `EventOutboxWorkerOptions`, with the defaults of `makeEventOutboxWorker`. -/
structure EventOutboxWorkerOptions where
  workerId : String
  batchSize : Nat := 100
  claimTtlMs : Rat := 30000
  maxRetryAttempts : Nat := 3

/-- What a worker puts into its claim. -/
def EventOutboxWorkerOptions.claimInput (options : EventOutboxWorkerOptions) (now : Rat) :
    ClaimInput where
  workerId := options.workerId
  claimedAt := now
  batchSize := options.batchSize
  claimExpiresAt := now + options.claimTtlMs
  maxRetryAttempts := options.maxRetryAttempts

/-- **STATEMENTS**: the queue runs the statements of the outbox and no others. -/
theorem executes_apply (s : OutboxState) (action : Action OutboxEvent Unit) :
    Executes claimEventOutboxBatchCommand markEventOutboxPublishedCommand
      (some markEventOutboxFailedCommand) s.rows action (s.apply eventOutbox action).rows :=
  WorkQueue.executes_apply eventOutbox s action

/-! ## Remediation -/

/-- `OutboxEventRemediationAction`. -/
inductive OutboxEventRemediationAction where
  | retry
  | quarantine
  deriving DecidableEq, Repr

/-- `ManagementOutboxEventRemediationRequest`. -/
structure ManagementOutboxEventRemediationRequest where
  eventId : String
  action : OutboxEventRemediationAction
  reason : Option String

/-- What `_OUTBOX_EVENT_REMEDIATION_QUERY` makes of a row. -/
def remediatedRow (action : OutboxEventRemediationAction) (reason : Option String)
    (row : OutboxRow) : OutboxRow :=
  let shared := { row with claimedBy := none, claimedAt := none, claimExpiresAt := none }
  match action with
  | .retry =>
      { shared with status := .pending, attempts := 0, lastError := none, doneAt := none }
  | .quarantine =>
      let lastError := (reason.filter (· ≠ "")).getD "quarantined by operator"
      { shared with
        status := .quarantined
        lastError := some (String.ofList (lastError.toList.take 1000)) }

/-- `_OUTBOX_EVENT_REMEDIATION_QUERY`, row by row. -/
def remediateRow (request : ManagementOutboxEventRemediationRequest) (_key : String)
    (row : OutboxRow) : OutboxRow :=
  if row.item.eventId = request.eventId ∧ row.status ≠ .done then
    remediatedRow request.action (TrustKeyEnrolment.optionalCleanText request.reason) row
  else row

/-- `ManagementOutboxEventRemediationResponse`. -/
structure ManagementOutboxEventRemediationResponse where
  eventId : String
  publishStatus : String
  attempts : Nat
  lastError : Option String

/-- The text of `publish_status`. -/
def publishStatus : RowStatus → String
  | .pending => "pending"
  | .inProgress => "publishing"
  | .done => "published"
  | .failed => "failed"
  | .quarantined => "quarantined"

/-- `remediate_outbox_event`: the answer, and the rows afterwards. -/
def remediateOutboxEvent (request : ManagementOutboxEventRemediationRequest)
    (rows : Table OutboxEvent Unit) :
    Except PyError ManagementOutboxEventRemediationResponse × Table OutboxEvent Unit :=
  let named := rows.values.filter fun row => row.item.eventId = request.eventId
  let answer : Except PyError ManagementOutboxEventRemediationResponse :=
    match named.find? fun row => row.status ≠ .done with
    | some row =>
        let row := remediateRow request "" row
        .ok ⟨row.item.eventId, publishStatus row.status, row.attempts, row.lastError⟩
    | none =>
        match named.head? with
        | none => .error (.httpException 404 "outbox event not found")
        | some row =>
            if row.status = .done then
              .error (.httpException 409
                "published outbox events are immutable; publish a correcting event instead")
            else
              .error (.httpException 409 ("outbox events with status "
                ++ publishStatus row.status ++ " cannot be remediated"))
  (answer, rows.update (remediateRow request))

/-- A request that is refused changes no row. -/
theorem remediateOutboxEvent_error {request : ManagementOutboxEventRemediationRequest}
    {rows : Table OutboxEvent Unit} {error : PyError}
    (h : (remediateOutboxEvent request rows).1 = .error error) :
    (remediateOutboxEvent request rows).2 = rows := by
  have hsame : ∀ entry ∈ rows.entries, remediateRow request entry.1 entry.2 = entry.2 := by
    rintro ⟨key, row⟩ hmem
    rw [remediateRow]
    refine if_neg fun ⟨hevent, hstatus⟩ => ?_
    have hnamed : row ∈ rows.values.filter fun row => row.item.eventId = request.eventId :=
      List.mem_filter.mpr ⟨List.mem_map.mpr ⟨(key, row), hmem, rfl⟩, decide_eq_true hevent⟩
    -- the row would have been found, and the answer would be a response
    cases hfind : (rows.values.filter fun row => row.item.eventId = request.eventId).find?
        fun row => row.status ≠ .done with
    | none =>
        have hnone := List.find?_eq_none.mp hfind row hnamed
        exact hnone (decide_eq_true hstatus)
    | some found =>
        rw [remediateOutboxEvent] at h
        dsimp only at h
        rw [hfind] at h
        cases h
  exact OrderedMap.update_eq_self hsame

/-! ## The outbox with its operators -/

/-- A step of a worker, a new event, or a remediation request. -/
inductive Step where
  | queue (action : Action OutboxEvent Unit) (worker : action.isOperator = false)
  | remediate (request : ManagementOutboxEventRemediationRequest)

/-- The step, as one of the queue. -/
def Step.action : Step → Action OutboxEvent Unit
  | .queue action _ => action
  | .remediate request => .operator (remediateRow request)

/-- Is it a request to retry the event? -/
def Step.retries (eventId : String) : Step → Bool
  | .queue .. => false
  | .remediate request => request.eventId = eventId && request.action = .retry

/-- The outbox as a machine. -/
def machine : Runs.Machine OutboxState Step Step where
  plan _ step := [step]
  apply s step := s.apply eventOutbox step.action

end EventOutbox
