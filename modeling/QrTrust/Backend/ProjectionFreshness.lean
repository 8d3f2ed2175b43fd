import QrTrust.Backend.ManagementPlane

/-! # Keeping the projection fresh

    `TrustProjectionManager.ensure_fresh`, cut at its awaits: between them other
    transactions commit, other tasks write ephemeral entries, and anything may
    fail.  Calls wait for the manager's lock in their order. -/

namespace ProjectionFreshness

open TrustStore TrustProjection ManagementPlane

variable {Governance : Type}

/-- What `ensure_fresh` returns. -/
inductive Freshness where
  | inert
  | fresh
  | reused
  | staleServed
  | unavailable
  deriving DecidableEq, Repr

/-- `TrustProjectionManager`; times in microseconds. -/
structure TrustProjectionManager where
  maxStalenessSeconds : Int
  token : Option TrustStateToken
  lastSuccess : Option Int
  deriving DecidableEq, Repr

/-- `_degrade`. -/
def degrade (manager : TrustProjectionManager) (now : Int) : Freshness :=
  match manager.token, manager.lastSuccess with
  | some _, some lastSuccess =>
      if now - lastSuccess ≤ manager.maxStalenessSeconds * 1000000 then .staleServed
      else .unavailable
  | _, _ => .unavailable

/-- A call of `ensure_fresh`: its clock, and the number of the newest committed
    state when it was made. -/
structure Call where
  now : Int
  startedAt : Nat
  deriving DecidableEq, Repr

/-- Where the call that holds the lock is. -/
inductive Phase where
  | idle
  /-- Awaiting `connect()`. -/
  | connecting (call : Call)
  /-- Awaiting `probe_trust_state`. -/
  | probing (call : Call)
  /-- The probe saw a new token in state `probe`; awaiting `load_trust_snapshot`. -/
  | loading (call : Call) (probe : Nat)
  /-- The load reads state `loaded` in its transaction. -/
  | reading (call : Call) (probe loaded : Nat)
  /-- The result stands; awaiting `connection.close()`. -/
  | closing (call : Call) (status : Freshness)
  deriving DecidableEq, Repr

/-- A call and the number of the state it saw. -/
structure Sighting where
  time : Int
  state : Nat
  deriving DecidableEq, Repr

/-- The committed states, the manager and its store, and the calls under way.
    `lastProbe` and `lastRefresh` are there to be spoken of: the last probe that
    read a token, and the probe of the last call that completed its refresh. -/
structure System (Governance : Type) where
  history : History trustStates
  manager : TrustProjectionManager
  store : ScannerTrustStore Governance ProjectionDefect
  clock : Int
  waiting : List Call
  phase : Phase
  lastProbe : Option Sighting
  lastRefresh : Option Sighting

/-! ## Projected entries -/

/-- The projected record under an `issuer_id`. -/
def projectedIssuer (store : ScannerTrustStore Governance ProjectionDefect) (issuerId : String) :
    Option IssuerRecord :=
  (store.issuers.get? issuerId).filter fun record => record.source = .projection

/-- The projected key under a reference. -/
def projectedKey (store : ScannerTrustStore Governance ProjectionDefect) (keyRef : String) :
    Option KeyEntry :=
  (store.keys.get? keyRef).filter fun entry => entry.source = .projection

/-- Two stores have the same projected entries. -/
structure SameProjected (a b : ScannerTrustStore Governance ProjectionDefect) : Prop where
  issuers : ∀ issuerId, projectedIssuer a issuerId = projectedIssuer b issuerId
  keys : ∀ keyRef, projectedKey a keyRef = projectedKey b keyRef
  defects : a.projectionDefects = b.projectionDefects

/-- The projected entries of the store are the projection of the database, for
    some order of its rows. -/
def ProjectionOf (py : PyRuntime) (db : Database)
    (store : ScannerTrustStore Governance ProjectionDefect) : Prop :=
  ∃ rows : FetchedRows, rows.Of db ∧ ∃ snapshot,
    loadTrustSnapshot py db.trustState rows = .ok snapshot
      ∧ SameProjected (loadedStore .empty snapshot) store

/-! ## Steps -/

/-- `except Exception`: the result is what `_degrade` says. -/
def System.fail (s : System Governance) (call : Call) : System Governance :=
  { s with phase := .closing call (degrade s.manager call.now) }

/-- One step; a step in which a call returns names the call and its result. -/
inductive Step (py : PyRuntime) :
    System Governance → Option (Call × Freshness) → System Governance → Prop
  /-- A governance mutation commits. -/
  | mutate {s : System Governance} {values : ServerValues} {mutation : GovernanceMutation}
      {db : Database} (hbuilt : Built mutation)
      (hcommit : recordGovernanceMutation values mutation s.history.newest = .ok db) :
      Step py s none
        { s with history := s.history.push db (since_of_recordGovernanceMutation hbuilt hcommit) }
  /-- Something else writes the store, not its projected entries. -/
  | ephemeral {s : System Governance} {store : ScannerTrustStore Governance ProjectionDefect}
      (hsame : SameProjected s.store store) : Step py s none { s with store := store }
  /-- A call without a way to connect. -/
  | inert {s : System Governance} {now : Int} (hclock : s.clock ≤ now) :
      Step py s (some (⟨now, s.history.last⟩, .inert)) { s with clock := now }
  /-- A call queues for the lock. -/
  | call {s : System Governance} {now : Int} (hclock : s.clock ≤ now) :
      Step py s none
        { s with clock := now, waiting := s.waiting ++ [⟨now, s.history.last⟩] }
  /-- The first call of the queue gets the lock. -/
  | acquire {s : System Governance} {call : Call} {rest : List Call} (hphase : s.phase = .idle)
      (hwaiting : s.waiting = call :: rest) :
      Step py s none { s with waiting := rest, phase := .connecting call }
  /-- A waiting call is cancelled. -/
  | withdraw {s : System Governance} (call : Call) :
      Step py s none { s with waiting := s.waiting.erase call }
  /-- The call that holds the lock is cancelled. -/
  | abandon {s : System Governance} : Step py s none { s with phase := .idle }
  | connected {s : System Governance} {call : Call} (hphase : s.phase = .connecting call) :
      Step py s none { s with phase := .probing call }
  | connectFailed {s : System Governance} {call : Call} (hphase : s.phase = .connecting call) :
      Step py s none (s.fail call)
  /-- The probe raises, or finds no row. -/
  | probeFailed {s : System Governance} {call : Call} (hphase : s.phase = .probing call) :
      Step py s none (s.fail call)
  /-- The probe reads the remembered token. -/
  | probeReused {s : System Governance} {call : Call} {token : TrustStateToken}
      (hphase : s.phase = .probing call) (hprobe : s.history.newest.trustState = some token)
      (hsame : s.manager.token = some token) :
      Step py s none
        { s with
          manager := { s.manager with lastSuccess := some call.now }
          phase := .closing call .reused
          lastProbe := some ⟨call.now, s.history.last⟩
          lastRefresh := some ⟨call.now, s.history.last⟩ }
  /-- The probe reads another token. -/
  | probeMoved {s : System Governance} {call : Call} {token : TrustStateToken}
      (hphase : s.phase = .probing call) (hprobe : s.history.newest.trustState = some token)
      (hmoved : s.manager.token ≠ some token) :
      Step py s none
        { s with
          phase := .loading call s.history.last
          lastProbe := some ⟨call.now, s.history.last⟩ }
  | loadFailed {s : System Governance} {call : Call} {probe : Nat}
      (hphase : s.phase = .loading call probe) : Step py s none (s.fail call)
  /-- The repeatable-read transaction of the load takes its snapshot. -/
  | snapshot {s : System Governance} {call : Call} {probe : Nat}
      (hphase : s.phase = .loading call probe) :
      Step py s none { s with phase := .reading call probe s.history.last }
  | readFailed {s : System Governance} {call : Call} {probe loaded : Nat}
      (hphase : s.phase = .reading call probe loaded) : Step py s none (s.fail call)
  /-- The load returns, and the projection is swapped in without an await. -/
  | loaded {s : System Governance} {call : Call} {probe loaded : Nat} {db : Database}
      {rows : FetchedRows} {snapshot : TrustSnapshot}
      (hphase : s.phase = .reading call probe loaded)
      (hdb : s.history.state? loaded = some db) (hrows : rows.Of db)
      (hload : loadTrustSnapshot py db.trustState rows = .ok snapshot) :
      Step py s none
        { s with
          manager := { s.manager with token := some snapshot.token, lastSuccess := some call.now }
          store := loadedStore s.store snapshot
          phase := .closing call .fresh
          lastRefresh := some ⟨call.now, probe⟩ }
  | returned {s : System Governance} {call : Call} {status : Freshness}
      (hphase : s.phase = .closing call status) :
      Step py s (some (call, status)) { s with phase := .idle }

/-- A manager that has never refreshed, its store without projected entries. -/
def System.start (db : Database) (maxStalenessSeconds clock : Int)
    (store : ScannerTrustStore Governance ProjectionDefect) : System Governance where
  history := .start db
  manager := ⟨maxStalenessSeconds, none, none⟩
  store := store
  clock := clock
  waiting := []
  phase := .idle
  lastProbe := none
  lastRefresh := none

/-- The states the steps reach. -/
inductive Reachable (py : PyRuntime) : System Governance → Prop
  | start (db : Database) (maxStalenessSeconds clock : Int)
      {store : ScannerTrustStore Governance ProjectionDefect}
      (hstore : SameProjected .empty store) :
      Reachable py (.start db maxStalenessSeconds clock store)
  | step {s s' : System Governance} {event : Option (Call × Freshness)} (hs : Reachable py s)
      (hstep : Step py s event s') : Reachable py s'

end ProjectionFreshness
