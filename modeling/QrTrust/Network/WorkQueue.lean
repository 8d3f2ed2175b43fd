import Mathlib.Data.List.Sort
import Mathlib.Logic.Function.Basic
import QrTrust.Lib.OrderedMap
import QrTrust.Lib.Runs

/-! # Work queues in a database table

    Three tables hand their rows to workers in the same way.  A worker claims a
    batch of rows for a while, processes them one by one, and then reports the
    batch in two statements, the successes before the failures.  Rows whose
    claim has run out are claimed again, whether or not the worker that claimed
    them before is still at work.  A run is any interleaving of the statements
    of any number of workers; the clock of a statement is whatever its worker
    says it is. -/

namespace WorkQueue

/-- The status of a row; the tables have their own names for the middle three. -/
inductive RowStatus where
  | pending
  | inProgress
  | done
  | failed
  | quarantined
  deriving DecidableEq, Repr

/-- A row: what it asks for, and the columns of the protocol. -/
structure Row (α ρ : Type) where
  item : α
  createdAt : Rat
  status : RowStatus
  attempts : Nat
  claimedBy : Option String
  claimedAt : Option Rat
  claimExpiresAt : Option Rat
  lastError : Option String
  doneAt : Option Rat
  result : Option ρ

/-- A table, by the primary key of its rows. -/
abbrev Table (α ρ : Type) := OrderedMap String (Row α ρ)

/-- The values of a claim statement. -/
structure ClaimInput where
  workerId : String
  claimedAt : Rat
  batchSize : Nat
  claimExpiresAt : Rat
  maxRetryAttempts : Nat

/-- How many placeholders the text of a statement has, and how many values are
    sent with it. -/
structure Binding where
  placeholders : Nat
  values : Nat
  deriving DecidableEq, Repr

/-- The database rejects a statement whose values are not as many as its
    placeholders. -/
def Binding.accepted (binding : Binding) : Bool := binding.placeholders = binding.values

/-- In what the tables differ. -/
structure Protocol where
  /-- a claim takes failed rows again -/
  retriesFailed : Bool
  /-- the statement that reports failures -/
  failureBinding : Binding

/-- Does the report of failures run? -/
def Protocol.marksFailed (protocol : Protocol) : Bool := protocol.failureBinding.accepted

variable {α ρ : Type}

/-! ## The statements -/

/-- The rows a claim may take. -/
def claimable (protocol : Protocol) (input : ClaimInput) (row : Row α ρ) : Bool :=
  match row.status with
  | .pending => true
  | .inProgress => row.claimExpiresAt.all fun expiry => expiry ≤ input.claimedAt
  | .failed => protocol.retriesFailed && row.attempts < input.maxRetryAttempts
  | .done => false
  | .quarantined => false

/-- `order by created_at asc, id asc`. -/
def precedes (a b : String × Row α ρ) : Prop :=
  a.2.createdAt < b.2.createdAt ∨ a.2.createdAt = b.2.createdAt ∧ a.1 ≤ b.1

instance : DecidableRel (@precedes α ρ) := fun _ _ =>
  inferInstanceAs (Decidable (_ ∨ _))

/-- The rows a claim takes: the first ones of those that are claimable and not
    locked by another transaction. -/
def nextRows (protocol : Protocol) (input : ClaimInput) (locked : List String)
    (rows : Table α ρ) : List String :=
  (((rows.entries.filter fun entry =>
        claimable protocol input entry.2 && !locked.contains entry.1).insertionSort
      precedes).take input.batchSize).map Prod.fst

/-- A claimed row. -/
def claimRow (input : ClaimInput) (row : Row α ρ) : Row α ρ :=
  { row with
    status := .inProgress
    attempts := row.attempts + 1
    claimedBy := some input.workerId
    claimedAt := some input.claimedAt
    claimExpiresAt := some input.claimExpiresAt
    lastError := none }

/-- The claim statement: the table afterwards. -/
def claimRows (protocol : Protocol) (input : ClaimInput) (locked : List String)
    (rows : Table α ρ) : Table α ρ :=
  rows.update fun key row =>
    if key ∈ nextRows protocol input locked rows then claimRow input row else row

/-- A row reported as done. -/
def doneRow (now : Rat) (result : ρ) (row : Row α ρ) : Row α ρ :=
  { row with
    status := .done
    doneAt := some now
    claimedBy := none
    claimedAt := none
    claimExpiresAt := none
    lastError := none
    result := some result }

/-- The statement that reports successes. -/
def markDone (successes : List (String × ρ)) (now : Rat) (rows : Table α ρ) : Table α ρ :=
  rows.update fun key row =>
    match successes.find? fun success => success.1 = key with
    | some success => doneRow now success.2 row
    | none => row

/-- A row reported as failed. -/
def failedRow (reason : String) (row : Row α ρ) : Row α ρ :=
  { row with
    status := .failed
    claimedBy := none
    claimedAt := none
    claimExpiresAt := none
    lastError := some (String.ofList (reason.toList.take 1000)) }

/-- The statement that reports failures. -/
def markFailed (failures : List (String × String)) (rows : Table α ρ) : Table α ρ :=
  rows.update fun key row =>
    match failures.find? fun failure => failure.1 = key with
    | some failure => failedRow failure.2 row
    | none => row

/-- The row an insert leaves. -/
def newRow (item : α) (createdAt : Rat) : Row α ρ where
  item := item
  createdAt := createdAt
  status := .pending
  attempts := 0
  claimedBy := none
  claimedAt := none
  claimExpiresAt := none
  lastError := none
  doneAt := none
  result := none

/-! ## The workers -/

/-- A worker in the middle of a batch: the rows still to process, and what it has
    to report.  With nothing of it the worker is between two batches. -/
structure WorkerState (ρ : Type) where
  remaining : List String
  successes : List (String × ρ)
  failures : List (String × String)

namespace WorkerState

/-- Between two batches. -/
def idle : WorkerState ρ := ⟨[], [], []⟩

/-- Is the worker between two batches? -/
def isIdle (worker : WorkerState ρ) : Bool :=
  worker.remaining.isEmpty && worker.successes.isEmpty && worker.failures.isEmpty

/-- The rows the worker still has to process or to report. -/
def inFlight (worker : WorkerState ρ) : List String :=
  worker.remaining ++ (worker.successes.map Prod.fst ++ worker.failures.map Prod.fst)

end WorkerState

/-- The table, the workers by their id, and the rows that were processed with
    success, in order, each with the worker that did it. -/
structure State (α ρ : Type) where
  rows : Table α ρ
  workers : String → WorkerState ρ
  processed : List (String × String)

/-- One statement, or one row processed, or the end of a worker. -/
inductive Action (α ρ : Type) where
  /-- a new row, unless its key is taken -/
  | enqueue (key : String) (item : α) (createdAt : Rat)
  /-- a claim, with the rows that other transactions have locked and the order in
      which the statement returns what it took -/
  | claim (input : ClaimInput) (locked returned : List String)
  /-- the worker processes the next row of its batch -/
  | process (worker : String) (outcome : Except String ρ)
  /-- the worker reports its successes -/
  | reportDone (worker : String) (now : Rat)
  /-- the worker reports its failures -/
  | reportFailed (worker : String)
  /-- the worker dies, or a statement of it fails -/
  | crash (worker : String)
  /-- an operator's statement, row by row -/
  | operator (change : String → Row α ρ → Row α ρ)

namespace Action

/-- Is it a claim? -/
def isClaim : Action α ρ → Bool
  | .claim .. => true
  | _ => false

/-- The worker whose step it is. -/
def worker? : Action α ρ → Option String
  | .claim input .. => some input.workerId
  | .process worker _ => some worker
  | .reportDone worker _ => some worker
  | .reportFailed worker => some worker
  | .crash worker => some worker
  | .enqueue .. => none
  | .operator _ => none

/-- Is it an operator's statement? -/
def isOperator : Action α ρ → Bool
  | .operator _ => true
  | _ => false

end Action

namespace State

variable (s : State α ρ)

/-- The state with another state of one worker. -/
def setWorker (worker : String) (batch : WorkerState ρ) : State α ρ :=
  { s with workers := Function.update s.workers worker batch }

/-- The rows a worker has in its hands. -/
def inFlight (worker : String) : List String := (s.workers worker).inFlight

/-- A worker processes the next row of its batch. -/
def processNext (worker : String) (outcome : Except String ρ) : State α ρ :=
  let batch := s.workers worker
  match batch.remaining with
  | [] => s
  | key :: rest =>
      match outcome with
      | .ok result =>
          { s.setWorker worker
              { batch with remaining := rest, successes := batch.successes ++ [(key, result)] } with
            processed := s.processed ++ [(worker, key)] }
      | .error reason =>
          s.setWorker worker
            { batch with remaining := rest, failures := batch.failures ++ [(key, reason)] }

/-- Processing a row is no statement. -/
theorem rows_processNext (worker : String) (outcome : Except String ρ) :
    (s.processNext worker outcome).rows = s.rows := by
  rw [processNext]
  cases (s.workers worker).remaining with
  | nil => rfl
  | cons next rest =>
      cases outcome with
      | ok result => rfl
      | error reason => rfl

/-- One step; a step that is not due leaves everything. -/
def apply (protocol : Protocol) (s : State α ρ) : Action α ρ → State α ρ
  | .enqueue key item createdAt =>
      if s.rows.contains key then s
      else { s with rows := s.rows.set key (newRow item createdAt) }
  | .claim input locked returned =>
      if (s.workers input.workerId).isIdle
          ∧ returned.Perm (nextRows protocol input locked s.rows) then
        { s.setWorker input.workerId ⟨returned, [], []⟩ with
          rows := claimRows protocol input locked s.rows }
      else s
  | .process worker outcome => s.processNext worker outcome
  | .reportDone worker now =>
      let batch := s.workers worker
      if batch.remaining.isEmpty then
        { s.setWorker worker { batch with successes := [] } with
          rows := markDone batch.successes now s.rows }
      else s
  | .reportFailed worker =>
      let batch := s.workers worker
      if batch.remaining.isEmpty ∧ batch.successes.isEmpty then
        -- a rejected statement ends the batch without a report
        if protocol.marksFailed then
          { s.setWorker worker .idle with rows := markFailed batch.failures s.rows }
        else s.setWorker worker .idle
      else s
  | .crash worker => s.setWorker worker .idle
  | .operator change => { s with rows := s.rows.update change }

end State

/-- The statements that a step may execute on the rows, in the words of a table. -/
inductive Executes (claim : ClaimInput → List String → Table α ρ → Table α ρ)
    (markDone : List (String × ρ) → Rat → Table α ρ → Table α ρ)
    (markFailed : Option (List (String × String) → Table α ρ → Table α ρ)) (rows : Table α ρ) :
    Action α ρ → Table α ρ → Prop
  | nothing {action : Action α ρ} : Executes claim markDone markFailed rows action rows
  | insert {key : String} {item : α} {createdAt : Rat} :
      Executes claim markDone markFailed rows (.enqueue key item createdAt)
        (rows.set key (newRow item createdAt))
  | claim {input : ClaimInput} {locked returned : List String} :
      Executes claim markDone markFailed rows (.claim input locked returned)
        (claim input locked rows)
  | markDone {worker : String} {successes : List (String × ρ)} {now : Rat} :
      Executes claim markDone markFailed rows (.reportDone worker now)
        (markDone successes now rows)
  | markFailed {worker : String} {failures : List (String × String)}
      {statement : List (String × String) → Table α ρ → Table α ρ} :
      markFailed = some statement →
      Executes claim markDone markFailed rows (.reportFailed worker) (statement failures rows)
  | operator {change : String → Row α ρ → Row α ρ} :
      Executes claim markDone markFailed rows (.operator change) (rows.update change)

/-- The statement that reports failures, where it runs. -/
def Protocol.failureStatement (protocol : Protocol) :
    Option (List (String × String) → Table α ρ → Table α ρ) :=
  if protocol.marksFailed then some markFailed else none

/-- **STATEMENTS**: a step executes at most one statement of its table. -/
theorem executes_apply (protocol : Protocol) (s : State α ρ) (action : Action α ρ) :
    Executes (claimRows protocol) markDone protocol.failureStatement s.rows action (s.apply protocol action).rows := by
  cases action with
  | enqueue key item createdAt =>
      rw [State.apply]
      split
      · exact .nothing
      · exact .insert
  | claim input locked returned =>
      rw [State.apply]
      split
      · exact .claim
      · exact .nothing
  | process worker outcome =>
      rw [State.apply, State.rows_processNext]
      exact .nothing
  | reportDone worker now =>
      rw [State.apply]
      dsimp only
      split
      · exact .markDone
      · exact .nothing
  | reportFailed worker =>
      rw [State.apply]
      dsimp only
      split
      · split
        · rename_i hmarks
          exact .markFailed (if_pos hmarks)
        · exact .nothing
      · exact .nothing
  | crash worker => exact .nothing
  | operator change => exact .operator

/-- The queue as a machine that takes one step at a time. -/
def machine (α ρ : Type) (protocol : Protocol) :
    Runs.Machine (State α ρ) (Action α ρ) (Action α ρ) where
  plan _ action := [action]
  apply := State.apply protocol

end WorkQueue
