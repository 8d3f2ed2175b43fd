import QrTrust.Lib.OrderedMap
import QrTrust.Lib.SpacedLog
import Mathlib.Data.Rat.Floor

/-! # The in-memory rate limiter

    `InMemoryRequestRateLimiter` and the runs of calls on it.  Its clock, which
    it reads once a call, is exact. -/

namespace RequestRateLimiter

open SpacedLog

/-- `RateLimitDecision`. -/
structure RateLimitDecision where
  allowed : Bool
  retryAfterSeconds : Option Int
  deriving DecidableEq

/-- `_records`: when checks were allowed, by key, oldest first. -/
abbrev Records := OrderedMap String (List ℚ)

/-- The times of a key. -/
def bucketOf (records : Records) (key : String) : List ℚ := (records.get? key).getD []

/-- `check`, on the times of its key; a full bucket has a first time. -/
def checkBucket (bucket : List ℚ) (limit windowSeconds : Int) (now : ℚ) :
    RateLimitDecision × List ℚ :=
  let kept := since (now - windowSeconds) bucket
  if limit ≤ kept.length then
    (⟨false, some (max 1 ⌈windowSeconds - (now - kept.headD now)⌉)⟩, kept)
  else (⟨true, none⟩, kept ++ [now])

/-- `check`. -/
def check (records : Records) (key : String) (limit windowSeconds : Int) (now : ℚ) :
    RateLimitDecision × Records :=
  if limit ≤ 0 then (⟨false, some windowSeconds⟩, records)
  else
    let (decision, bucket) := checkBucket (bucketOf records key) limit windowSeconds now
    (decision, records.set key bucket)

/-- `remaining`. -/
def remaining (records : Records) (key : String) (limit windowSeconds : Int) (now : ℚ) : Int :=
  max 0 (limit - ((bucketOf records key).filter (now - windowSeconds < ·)).length)

/-! ## Runs -/

/-- The limit and the window that the callers pass with a key. -/
structure Budget where
  limit : Int
  windowSeconds : Int
  limit_pos : 0 < limit
  window_pos : 0 < windowSeconds

/-- A call, with the time its clock shows. -/
inductive Call where
  | check (key : String) (now : ℚ)
  | remaining (key : String) (now : ℚ)
  deriving DecidableEq

namespace Call

def key : Call → String
  | check key _ => key
  | remaining key _ => key

def now : Call → ℚ
  | check _ now => now
  | remaining _ now => now

end Call

/-- What a call returns. -/
inductive Answer where
  | decision (d : RateLimitDecision)
  | left (n : Int)
  deriving DecidableEq

variable (budgets : String → Budget)

/-- `check` with the budget of its key. -/
def checkKey (records : Records) (key : String) (now : ℚ) : RateLimitDecision × Records :=
  check records key (budgets key).limit (budgets key).windowSeconds now

/-- `remaining` with the budget of its key. -/
def remainingKey (records : Records) (key : String) (now : ℚ) : Int :=
  remaining records key (budgets key).limit (budgets key).windowSeconds now

/-- A call on the limiter. -/
def call (records : Records) : Call → Answer × Records
  | .check key now =>
      let (decision, records) := checkKey budgets records key now
      (.decision decision, records)
  | .remaining key now => (.left (remainingKey budgets records key now), records)

/-- The limiter after a run of calls on a new one. -/
def after (calls : List Call) : Records :=
  calls.foldl (fun records c => (call budgets records c).2) .empty

/-- The answer to a call that follows a run. -/
def answerAfter (calls : List Call) (c : Call) : Answer := (call budgets (after budgets calls) c).1

/-- Did a call allow a check of the key? -/
def allows (key : String) : Call → Answer → Bool
  | .check key' _, .decision d => key' = key && d.allowed
  | _, _ => false

/-- The calls of a run, each with its answer. -/
def trace : Records → List Call → List (Call × Answer)
  | _, [] => []
  | records, c :: rest =>
      let (answer, records) := call budgets records c
      (c, answer) :: trace records rest

/-- The times at which a run allowed checks of a key, oldest first. -/
def allowedTimes (key : String) (calls : List Call) : List ℚ :=
  ((trace budgets .empty calls).filter fun entry => allows key entry.1 entry.2).map
    fun entry => entry.1.now

/-- The clock never goes back. -/
def Clocked (calls : List Call) : Prop := (calls.map Call.now).Pairwise (· ≤ ·)

instance (calls : List Call) : Decidable (Clocked calls) :=
  inferInstanceAs (Decidable (List.Pairwise ..))

end RequestRateLimiter
