import QrTrust.Backend.ManagementPlane
import QrTrust.Lib.Runs
import Mathlib.Data.Finset.Sort
import Mathlib.Data.String.Basic

/-! # Recording a governance mutation

    `record_governance_mutation` with all its tables: the idempotency keys, the
    governed state, the audit log and the event outbox.  A call is one
    transaction, so it changes all of them or none; what its state statement
    does to the governed tables is in `ManagementPlane`. -/

/-! ## JSON texts -/

namespace PyJson

mutual

/-- `json.dumps(value, sort_keys=True, separators=(",", ":"))`; `reprFloat`
    prints a float. -/
def dumps (reprFloat : Rat → String) : PyJson → String
  | none => "null"
  | bool true => "true"
  | bool false => "false"
  | int n => toString n
  | float x => reprFloat x
  | str s => PyString.jsonString s
  | list items => "[" ++ PyString.join "," (dumpsItems reprFloat items) ++ "]"
  | dict fields =>
      "\x7b" ++ PyString.join ","
        (((dumpsFields reprFloat fields).mergeSort fun a b => a.1 ≤ b.1).map fun field =>
          PyString.jsonString field.1 ++ ":" ++ field.2) ++ "\x7d"

/-- The texts of the items of a list. -/
def dumpsItems (reprFloat : Rat → String) : List PyJson → List String
  | [] => []
  | item :: rest => dumps reprFloat item :: dumpsItems reprFloat rest

/-- The texts of the values of a dict, under their keys. -/
def dumpsFields (reprFloat : Rat → String) : List (String × PyJson) → List (String × String)
  | [] => []
  | (key, value) :: rest => (key, dumps reprFloat value) :: dumpsFields reprFloat rest

end

/-- A text or `None`. -/
def ofOption : Option String → PyJson
  | some s => str s
  | Option.none => none

end PyJson

namespace GovernanceMutations

open TrustProjection (Database)
open ManagementPlane (MutationError ServerValues)

/-! ## Mutations and tables -/

/-- `ManagementPrincipal`; a bootstrap token has no key and no operator. -/
structure ManagementPrincipal where
  keyId : Option String
  operatorId : Option String
  scopes : Finset String
  deriving DecidableEq

/-- `GovernanceMutation`; `statement` has its SQL, what it requires of it, and the
    bump, and `stateValues` are as `_json_safe` leaves them. -/
structure GovernanceMutation where
  action : String
  targetType : String
  targetId : String
  rootProgramId : Option String
  delegatedAuthorityId : Option String
  issuerId : Option String
  statement : ManagementPlane.GovernanceMutation
  stateValues : List PyJson
  afterJson : List (String × PyJson)
  eventType : String
  destinationPolicyId : Option String := none

/-- `GovernanceMutationResult`. -/
structure GovernanceMutationResult where
  stateRows : Int
  auditRows : Int
  outboxRows : Int
  deriving DecidableEq, Repr

/-- A row of `qr_trust.governance_audit_log`. -/
structure AuditRow where
  actorOperatorId : Option String
  actorKeyId : Option String
  action : String
  targetType : String
  targetId : String
  rootProgramId : Option String
  delegatedAuthorityId : Option String
  issuerId : Option String
  afterJson : PyJson
  requestId : String
  idempotencyKey : Option String

/-- A row of `qr_trust.event_outbox`, apart from its `event_id`. -/
structure OutboxRow where
  eventType : String
  aggregateType : String
  aggregateId : String
  artifactId : String
  artifactHash : String
  rootProgramId : Option String
  delegatedAuthorityId : Option String
  issuerId : Option String
  destinationPolicyId : Option String
  payload : PyJson

/-- The values `idempotency_keys.status` admits. -/
inductive IdempotencyStatus where
  | processing
  | completed
  | failed
  deriving DecidableEq, Repr

/-- A row of `qr_trust.idempotency_keys`, apart from its key. -/
structure IdempotencyRow where
  requestHash : String
  responseJson : Option PyJson
  status : IdempotencyStatus
  createdAt : Int
  expiresAt : Int

/-- The tables that a call reads and writes. -/
structure Tables where
  governed : Database
  auditLog : List AuditRow
  outbox : OrderedMap String OutboxRow
  idempotencyKeys : OrderedMap String IdempotencyRow

/-- A call of `record_governance_mutation`, with what its server supplies: the
    clock and the like, the text of `_utc_now_iso()`, and whether the statements
    that apply the mutation execute. -/
structure Call where
  principal : ManagementPrincipal
  mutation : GovernanceMutation
  requestId : String
  idempotencyKey : Option String
  server : ServerValues
  utcNowIso : String
  executes : Bool

/-- The time of the transaction. -/
def Call.now (call : Call) : Int := call.server.now.instant

/-- What a call returns: the result of a mutation it applied, or the stored one. -/
inductive Outcome where
  | applied (result : GovernanceMutationResult)
  | replayed (result : GovernanceMutationResult)
  deriving DecidableEq, Repr

/-- What a call raises. -/
inductive RecordError where
  | idempotencyConflict (text : String)
  | idempotencyInProgress (text : String)
  | runtimeError (text : String)
  | mutation (error : MutationError)
  | persistence
  deriving DecidableEq, Repr

/-- What the service takes from its host: SHA-256 of a text in hexadecimal, the
    text of a float, and the value of a numeric text. -/
structure Host where
  sha256 : String → String
  reprFloat : Rat → String
  intOfNumeric : String → Option Int

/-! ## Hashes and events -/

section Events

variable (host : Host)

/-- `_json_dumps`. -/
def jsonDumps (payload : PyJson) : String := payload.dumps host.reprFloat

/-- What `_request_hash` hashes. -/
def requestPayload (principal : ManagementPrincipal) (mutation : GovernanceMutation) : PyJson :=
  .dict
    [("principal", .dict
        [("key_id", .ofOption principal.keyId), ("operator_id", .ofOption principal.operatorId),
          ("scopes", .list ((principal.scopes.sort (· ≤ ·)).map .str))]),
      ("mutation", .dict
        [("action", .str mutation.action), ("target_type", .str mutation.targetType),
          ("target_id", .str mutation.targetId),
          ("root_program_id", .ofOption mutation.rootProgramId),
          ("delegated_authority_id", .ofOption mutation.delegatedAuthorityId),
          ("issuer_id", .ofOption mutation.issuerId),
          ("state_values", .list mutation.stateValues), ("after_json", .dict mutation.afterJson),
          ("event_type", .str mutation.eventType)])]

/-- `_request_hash`. -/
def requestHash (principal : ManagementPrincipal) (mutation : GovernanceMutation) : String :=
  "sha256:" ++ host.sha256 (jsonDumps host (requestPayload principal mutation))

/-- `_event_deduplication_key`. -/
def eventDeduplicationKey (requestId : String) (idempotencyKey : Option String)
    (requestHash : String) : String :=
  match idempotencyKey.filter (· ≠ "") with
  | some key => key ++ ":" ++ requestHash ++ ":" ++ requestId
  | none => requestId

/-- What `_event_id` hashes. -/
def eventText (requestId : String) (mutation : GovernanceMutation) : String :=
  requestId ++ ":" ++ mutation.action ++ ":" ++ mutation.targetType ++ ":" ++ mutation.targetId

/-- The first 24 characters of a digest. -/
def shortDigest (text : String) : String :=
  String.ofList ((host.sha256 text).toList.take 24)

/-- `_event_id`. -/
def eventId (requestId : String) (mutation : GovernanceMutation) : String :=
  "evt_mgmt_" ++ shortDigest host (eventText requestId mutation)

/-- `_artifact_hash`. -/
def artifactHash (payload : PyJson) : String := "sha256:" ++ host.sha256 (jsonDumps host payload)

/-- `CONTROL_PLANE_SUBJECT_ROOT`. -/
def controlPlaneSubjectRoot : String := "control-plane"

/-- `_event_root_program_id`. -/
def eventRootProgramId (mutation : GovernanceMutation) : String :=
  match mutation.rootProgramId.filter (· ≠ "") with
  | some rootProgramId => rootProgramId
  | none =>
      ((PyJson.get mutation.afterJson "root_program_id").asStr.filter (· ≠ "")).getD
        controlPlaneSubjectRoot

/-- `_artifact_ref`. -/
def artifactRef (mutation : GovernanceMutation) : String :=
  "postgres://qr_trust." ++ mutation.targetType ++ "/" ++ mutation.targetId

/-- `mutation.destination_policy_id or mutation.after_json.get(…)`, where it is a
    text. -/
def destinationPolicyId (mutation : GovernanceMutation) : Option String :=
  (mutation.destinationPolicyId.filter (· ≠ "")).or
    (PyJson.get mutation.afterJson "destination_policy_id").asStr

/-- The envelope of `_outbox_payload`. -/
def outboxEnvelope (mutation : GovernanceMutation) (eventId artifactHash utcNowIso : String) :
    List (String × PyJson) :=
  [("event_id", .str eventId), ("type", .str mutation.eventType),
    ("occurred_at", .str utcNowIso), ("root_program_id", .str (eventRootProgramId mutation)),
    ("artifact_id", .str mutation.targetId), ("artifact_hash", .str artifactHash),
    ("artifact_ref", .str (artifactRef mutation)), ("version", .int 1),
    ("reason", .str mutation.action)]
  ++ (mutation.delegatedAuthorityId.map fun id => ("delegated_authority_id", .str id)).toList
  ++ (mutation.issuerId.map fun id => ("issuer_id", .str id)).toList
  ++ (((destinationPolicyId mutation).filter (· ≠ "")).map fun id =>
      ("destination_policy_id", .str id)).toList

/-- The body of an event. -/
def outboxBody (mutation : GovernanceMutation) : PyJson :=
  .dict
    [("action", .str mutation.action), ("target_type", .str mutation.targetType),
      ("target_id", .str mutation.targetId), ("after", .dict mutation.afterJson)]

/-- `_outbox_payload`. -/
def outboxPayload (mutation : GovernanceMutation) (eventId artifactHash utcNowIso : String)
    (body : PyJson) : PyJson :=
  .dict [("envelope", .dict (outboxEnvelope mutation eventId artifactHash utcNowIso)),
    ("body", body)]

/-- The event id of a call. -/
def Call.eventId (call : Call) : String :=
  GovernanceMutations.eventId host
    (eventDeduplicationKey call.requestId call.idempotencyKey
      (requestHash host call.principal call.mutation)) call.mutation

/-- The row that a call inserts into the outbox. -/
def Call.outboxRow (call : Call) : OutboxRow :=
  let mutation := call.mutation
  let body := outboxBody mutation
  let hash := artifactHash host body
  { eventType := mutation.eventType
    aggregateType := mutation.targetType
    aggregateId := mutation.targetId
    artifactId := mutation.targetId
    artifactHash := hash
    rootProgramId := mutation.rootProgramId
    delegatedAuthorityId := mutation.delegatedAuthorityId
    issuerId := mutation.issuerId
    destinationPolicyId := destinationPolicyId mutation
    payload := outboxPayload mutation (call.eventId host) hash call.utcNowIso body }

end Events

/-- The row that a call inserts into the audit log. -/
def Call.auditRow (call : Call) : AuditRow where
  actorOperatorId := call.principal.operatorId
  actorKeyId := call.principal.keyId
  action := call.mutation.action
  targetType := call.mutation.targetType
  targetId := call.mutation.targetId
  rootProgramId := call.mutation.rootProgramId
  delegatedAuthorityId := call.mutation.delegatedAuthorityId
  issuerId := call.mutation.issuerId
  afterJson := .dict call.mutation.afterJson
  requestId := call.requestId
  idempotencyKey := call.idempotencyKey

/-! ## Results -/

/-- `_result_to_json`. -/
def resultToJson (result : GovernanceMutationResult) : PyJson :=
  .dict [("state_rows", .int result.stateRows), ("audit_rows", .int result.auditRows),
    ("outbox_rows", .int result.outboxRows)]

/-- `_json_int`. -/
def jsonInt (host : Host) (value : PyJson) : Except RecordError Int :=
  let notInteger := RecordError.runtimeError
    "idempotency response_json contains a non-integer field"
  match value with
  | .int n => .ok n
  | .bool b => .ok (if b then 1 else 0)
  | .float x => .ok (if 0 ≤ x then x.floor else x.ceil)
  | .str s => ((host.intOfNumeric s).map Except.ok).getD (.error notInteger)
  | _ => .error notInteger

/-- `_result_from_json`. -/
def resultFromJson (host : Host) (payload : PyJson) : Except RecordError GovernanceMutationResult :=
  match payload with
  | .dict fields => do
      let stateRows ← jsonInt host (PyJson.get fields "state_rows")
      let auditRows ← jsonInt host (PyJson.get fields "audit_rows")
      let outboxRows ← jsonInt host (PyJson.get fields "outbox_rows")
      .ok ⟨stateRows, auditRows, outboxRows⟩
  | _ => .error (.runtimeError "idempotency response_json must be a JSON object")

/-- `_inserted_count` of the state statement: an update counts as none. -/
def insertedCount (server : ServerValues) : ManagementPlane.StateStatement → Nat
  | .updateCertificateStatus .. => 0
  | .revokeCertificate .. => 0
  | .elsewhere _ => server.rowsElsewhere
  | _ => 1

/-- The `state_rows` of a result. -/
def stateRows (server : ServerValues) (governed : Database)
    (statement : ManagementPlane.GovernanceMutation) : Nat :=
  if statement.requireStateRows then
    ManagementPlane.changedRows server governed statement.stateSql
  else insertedCount server statement.stateSql

/-! ## The transaction -/

/-- `interval '24 hours'`. -/
def day : Int := 86400000000

/-- `_begin_idempotent_mutation`: the idempotency keys with the one begun, or the
    stored result. -/
def beginIdempotentMutation (host : Host) (keys : OrderedMap String IdempotencyRow) (now : Int)
    (idempotencyKey requestHash : String) :
    Except RecordError (OrderedMap String IdempotencyRow ⊕ GovernanceMutationResult) :=
  let begun := keys.set idempotencyKey
    { requestHash := requestHash, responseJson := none, status := .processing
      createdAt := now, expiresAt := now + day }
  match keys.get? idempotencyKey with
  | none => .ok (.inl begun)
  | some row =>
      if row.expiresAt ≤ now then .ok (.inl begun)
      else if row.requestHash ≠ requestHash then
        .error (.idempotencyConflict "idempotency key was already used for a different request")
      else
        match row.status, row.responseJson with
        | .completed, some response => (resultFromJson host response).map .inr
        | _, _ =>
            .error (.idempotencyInProgress "idempotency key is currently being processed")

/-- `_complete_idempotent_mutation`. -/
def completeIdempotentMutation (keys : OrderedMap String IdempotencyRow) (idempotencyKey : String)
    (result : GovernanceMutationResult) : OrderedMap String IdempotencyRow :=
  keys.update fun key row =>
    if key = idempotencyKey then
      { row with responseJson := some (resultToJson result), status := .completed }
    else row

/-- The statements that apply a mutation: the state, the audit log, the outbox. -/
def applyMutation (host : Host) (tables : Tables) (call : Call) :
    Except RecordError (Tables × GovernanceMutationResult) :=
  if !call.executes then .error .persistence
  else
    match ManagementPlane.recordGovernanceMutation call.server call.mutation.statement
        tables.governed with
    | .error error => .error (.mutation error)
    | .ok governed =>
        let id := call.eventId host
        -- on conflict (event_id) do nothing
        let known := tables.outbox.contains id
        .ok
          ({ tables with
              governed := governed
              auditLog := tables.auditLog ++ [call.auditRow]
              outbox := if known then tables.outbox else tables.outbox.set id (call.outboxRow host) },
            { stateRows := stateRows call.server tables.governed call.mutation.statement
              auditRows := 1
              outboxRows := if known then 0 else 1 })

/-- `record_governance_mutation`: the tables after the transaction, and what it
    returns. -/
def recordGovernanceMutation (host : Host) (tables : Tables) (call : Call) :
    Except RecordError (Tables × Outcome) :=
  let hash := requestHash host call.principal call.mutation
  match call.idempotencyKey.filter (· ≠ "") with
  | none => do
      let (changed, result) ← applyMutation host tables call
      .ok (changed, .applied result)
  | some idempotencyKey => do
      match ← beginIdempotentMutation host tables.idempotencyKeys call.now idempotencyKey hash with
      | .inr existing => .ok (tables, .replayed existing)
      | .inl begun =>
          let (changed, result) ← applyMutation host { tables with idempotencyKeys := begun } call
          .ok
            ({ changed with
                idempotencyKeys :=
                  completeIdempotentMutation changed.idempotencyKeys idempotencyKey result },
              .applied result)

/-- The tables after a call; the transaction of one that raises is rolled back. -/
def apply (host : Host) (tables : Tables) (call : Call) : Tables :=
  match recordGovernanceMutation host tables call with
  | .ok (changed, _) => changed
  | .error _ => tables

/-- The service, as a machine that serves one call at a time. -/
def machine (host : Host) : Runs.Machine Tables Call Call where
  plan _ call := [call]
  apply := apply host

end GovernanceMutations
