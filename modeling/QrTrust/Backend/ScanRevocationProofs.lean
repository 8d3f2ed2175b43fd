import Mathlib.Logic.Relation
import QrTrust.Backend.ProjectionFreshnessProofs
import QrTrust.Backend.ScanSoundnessProofs

/-! # When a withdrawal reaches the scans

    A scan calls `ensure_fresh` twice: it resolves its record where the first call returns,
    and files the verdict under the token that it finds where the second one does.  Between
    them every step of the projection may fall.

    What was committed when a run stood at some state is behind every refresh of a call
    made later (`Dated`), so a scan that comes later than the staleness budget allows is
    decided by what was committed since (`positive_after_commit`).  That holds of the
    status of the first call; the scan itself looks at that of the second only
    (`unavailable_unnoticed`). -/

namespace ProjectionFreshness

open TrustStore TrustProjection ManagementPlane Fallible

variable {py : PyRuntime} {Governance : Type}

/-! ## Later states -/

variable (py) in
/-- A later state of the same run. -/
def Later (s s' : System Governance) : Prop :=
  Relation.ReflTransGen (fun a b => ∃ event, Step py a event b) s s'

theorem Later.reachable {s s' : System Governance} (h : Later py s s') (hs : Reachable py s) :
    Reachable py s' := by
  induction h with
  | refl => exact hs
  | tail _ hstep ih =>
      obtain ⟨event, hstep⟩ := hstep
      exact ih.step hstep

/-- The call that holds the lock. -/
def Phase.call? : Phase → Option Call
  | .idle => none
  | .connecting call | .probing call | .loading call _ | .reading call _ _ | .closing call _ =>
      some call

/-- The calls under way and the last refresh are no later than the clock. -/
structure Clocked (s : System Governance) : Prop where
  waiting : ∀ call ∈ s.waiting, call.now ≤ s.clock
  phase : ∀ call ∈ s.phase.call?, call.now ≤ s.clock
  refresh : ∀ refresh ∈ s.lastRefresh, refresh.time ≤ s.clock

theorem Clocked.step {s s' : System Governance} {event : Option (Call × Freshness)}
    (hs : Clocked s) (hstep : Step py s event s') : Clocked s' := by
  cases hstep with
  | mutate hbuilt hcommit => exact ⟨hs.waiting, hs.phase, hs.refresh⟩
  | ephemeral hsame => exact ⟨hs.waiting, hs.phase, hs.refresh⟩
  | inert hclock =>
      exact ⟨fun call hcall => (hs.waiting call hcall).trans hclock,
        fun call hcall => (hs.phase call hcall).trans hclock,
        fun refresh hrefresh => (hs.refresh refresh hrefresh).trans hclock⟩
  | @call now hclock =>
      refine ⟨fun call hcall => ?_, fun call hcall => (hs.phase call hcall).trans hclock,
        fun refresh hrefresh => (hs.refresh refresh hrefresh).trans hclock⟩
      rcases List.mem_append.mp hcall with hold | hnew
      · exact (hs.waiting call hold).trans hclock
      · obtain rfl := List.mem_singleton.mp hnew
        exact le_refl now
  | @acquire call rest hphase hwaiting =>
      refine ⟨fun call' hcall => hs.waiting call' (hwaiting ▸ List.mem_cons_of_mem _ hcall),
        fun call' hcall => ?_, hs.refresh⟩
      obtain rfl := Option.some.inj hcall
      exact hs.waiting call (hwaiting ▸ List.mem_cons_self ..)
  | withdraw call =>
      exact ⟨fun call' hcall => hs.waiting call' (List.mem_of_mem_erase hcall), hs.phase,
        hs.refresh⟩
  | abandon => exact ⟨hs.waiting, fun call hcall => (nomatch hcall), hs.refresh⟩
  | connected hphase | connectFailed hphase | probeFailed hphase | probeMoved hphase
  | loadFailed hphase | snapshot hphase | readFailed hphase =>
      refine ⟨hs.waiting, fun call hcall => hs.phase call ?_, hs.refresh⟩
      rw [hphase]
      exact hcall
  | @probeReused call token hphase hprobe hsame =>
      have hnow : call.now ≤ s.clock := hs.phase call (by rw [hphase]; rfl)
      refine ⟨hs.waiting, fun call' hcall => ?_, fun refresh hrefresh => ?_⟩
      · obtain rfl := Option.some.inj hcall
        exact hnow
      · obtain rfl := Option.some.inj hrefresh
        exact hnow
  | @loaded call probe loaded db rows snapshot hphase hdb hrows hload =>
      have hnow : call.now ≤ s.clock := hs.phase call (by rw [hphase]; rfl)
      refine ⟨hs.waiting, fun call' hcall => ?_, fun refresh hrefresh => ?_⟩
      · obtain rfl := Option.some.inj hcall
        exact hnow
      · obtain rfl := Option.some.inj hrefresh
        exact hnow
  | returned hphase => exact ⟨hs.waiting, fun call hcall => (nomatch hcall), hs.refresh⟩

theorem clocked_reachable {s : System Governance} (hs : Reachable py s) : Clocked s := by
  induction hs with
  | start db maxStalenessSeconds clock hstore =>
      exact ⟨fun call hcall => (nomatch hcall), fun call hcall => (nomatch hcall),
        fun refresh hrefresh => (nomatch hrefresh)⟩
  | step hs hstep ih => exact ih.step hstep

/-! ## What was committed before -/

/-- What a run keeps from a state `s₀` on: the calls made after its clock, and their
    refreshes, have its newest commit behind them. -/
structure Dated (s₀ s : System Governance) : Prop where
  last : s₀.history.last ≤ s.history.last
  budget : s.manager.maxStalenessSeconds = s₀.manager.maxStalenessSeconds
  waiting : ∀ call ∈ s.waiting, s₀.clock < call.now → s₀.history.last ≤ call.startedAt
  phase : ∀ call ∈ s.phase.call?, s₀.clock < call.now → s₀.history.last ≤ call.startedAt
  refresh : ∀ refresh ∈ s.lastRefresh, s₀.clock < refresh.time → s₀.history.last ≤ refresh.state

theorem Dated.refl {s : System Governance} (hs : Clocked s) : Dated s s where
  last := le_refl _
  budget := rfl
  waiting := fun call hcall hlate => absurd (hs.waiting call hcall) (not_le.mpr hlate)
  phase := fun call hcall hlate => absurd (hs.phase call hcall) (not_le.mpr hlate)
  refresh := fun refresh hrefresh hlate => absurd (hs.refresh refresh hrefresh) (not_le.mpr hlate)

theorem Dated.step {s₀ s s' : System Governance} {event : Option (Call × Freshness)}
    (hs : Dated s₀ s) (hinv : Inv py s) (hstep : Step py s event s') : Dated s₀ s' := by
  cases hstep with
  | @mutate values mutation db hbuilt hcommit =>
      refine ⟨hs.last.trans ?_, hs.budget, hs.waiting, hs.phase, hs.refresh⟩
      rw [History.last_push]
      exact Nat.le_succ _
  | ephemeral hsame => exact ⟨hs.last, hs.budget, hs.waiting, hs.phase, hs.refresh⟩
  | inert hclock => exact ⟨hs.last, hs.budget, hs.waiting, hs.phase, hs.refresh⟩
  | @call now hclock =>
      refine ⟨hs.last, hs.budget, fun call hcall hlate => ?_, hs.phase, hs.refresh⟩
      rcases List.mem_append.mp hcall with hold | hnew
      · exact hs.waiting call hold hlate
      · obtain rfl := List.mem_singleton.mp hnew
        exact hs.last
  | @acquire call rest hphase hwaiting =>
      refine ⟨hs.last, hs.budget,
        fun call' hcall => hs.waiting call' (hwaiting ▸ List.mem_cons_of_mem _ hcall),
        fun call' hcall => ?_, hs.refresh⟩
      obtain rfl := Option.some.inj hcall
      exact hs.waiting call (hwaiting ▸ List.mem_cons_self ..)
  | withdraw call =>
      exact ⟨hs.last, hs.budget,
        fun call' hcall => hs.waiting call' (List.mem_of_mem_erase hcall), hs.phase, hs.refresh⟩
  | abandon =>
      exact ⟨hs.last, hs.budget, hs.waiting, fun call hcall => (nomatch hcall), hs.refresh⟩
  | connected hphase | connectFailed hphase | probeFailed hphase | probeMoved hphase
  | loadFailed hphase | snapshot hphase | readFailed hphase =>
      refine ⟨hs.last, hs.budget, hs.waiting, fun call hcall => hs.phase call ?_, hs.refresh⟩
      rw [hphase]
      exact hcall
  | @probeReused call token hphase hprobe hsame =>
      refine ⟨hs.last, hs.budget, hs.waiting, fun call' hcall => hs.phase call' ?_,
        fun refresh hrefresh _ => ?_⟩
      · rw [hphase]
        exact hcall
      · obtain rfl := Option.some.inj hrefresh
        exact hs.last
  | @loaded call probe loaded db rows snapshot hphase hdb hrows hload =>
      refine ⟨hs.last, hs.budget, hs.waiting, fun call' hcall => hs.phase call' ?_,
        fun refresh hrefresh hlate => ?_⟩
      · rw [hphase]
        exact hcall
      · obtain rfl := Option.some.inj hrefresh
        have hseen := hinv.phase
        rw [PhaseInv, hphase] at hseen
        exact (hs.phase call (by rw [hphase]; rfl) hlate).trans hseen.1
  | returned hphase =>
      exact ⟨hs.last, hs.budget, hs.waiting, fun call hcall => (nomatch hcall), hs.refresh⟩

theorem Dated.of_later {s₀ s : System Governance} (hs₀ : Reachable py s₀) (h : Later py s₀ s) :
    Dated s₀ s := by
  induction h with
  | refl => exact .refl (clocked_reachable hs₀)
  | tail hlater hstep ih =>
      obtain ⟨event, hstep⟩ := hstep
      exact ih.step (inv_reachable (Later.reachable hlater hs₀)) hstep

/-- A call that returns leaves the lock. -/
theorem Step.closing {s s' : System Governance} {call : Call} {status : Freshness}
    (h : Step py s (some (call, status)) s') (hinert : status ≠ .inert) :
    s.phase = .closing call status ∧ s' = { s with phase := .idle } := by
  cases h with
  | inert hclock => exact absurd rfl hinert
  | returned hphase => exact ⟨hphase, rfl⟩

/-- **LATE CALLS**: a call that is made later than the budget allows, and answers, leaves
    the projection of a state committed since. -/
theorem holdsSince_of_late {s₀ s s₁ : System Governance} {call : Call} {status : Freshness}
    (hs₀ : Reachable py s₀) (hlater : Later py s₀ s) (hstep : Step py s (some (call, status)) s₁)
    (hinert : status ≠ .inert) (havailable : status ≠ .unavailable)
    (hlate : s₀.clock < call.now)
    (hbudget : s₀.clock < call.now - s₀.manager.maxStalenessSeconds * 1000000) :
    HoldsSince py s₁ s₀.history.last := by
  have hs := hlater.reachable hs₀
  have hdated := Dated.of_later hs₀ hlater
  obtain ⟨hphase, rfl⟩ := hstep.closing hinert
  have hpromise := (inv_reachable hs).phase
  rw [PhaseInv, hphase] at hpromise
  have hholds : HoldsSince py s s₀.history.last := by
    cases status with
    | inert => exact absurd rfl hinert
    | unavailable => exact absurd rfl havailable
    | fresh =>
        obtain ⟨n, db, hle, hdb⟩ := hpromise.1 (.inl rfl)
        exact ⟨n, db, (hdated.phase call (by rw [hphase]; rfl) hlate).trans hle, hdb⟩
    | reused =>
        obtain ⟨n, db, hle, hdb⟩ := hpromise.1 (.inr rfl)
        exact ⟨n, db, (hdated.phase call (by rw [hphase]; rfl) hlate).trans hle, hdb⟩
    | staleServed =>
        obtain ⟨refresh, hrefresh, hage, n, db, hle, hdb⟩ := hpromise.2 rfl
        rw [hdated.budget] at hage
        have hseen : s₀.clock < refresh.time := by omega
        exact ⟨n, db, (hdated.refresh refresh hrefresh hseen).trans hle, hdb⟩
  exact hholds

/-! ## Calls from an idle manager -/

theorem Later.step {s s' s'' : System Governance} {event : Option (Call × Freshness)}
    (h : Later py s s') (hstep : Step py s' event s'') : Later py s s'' :=
  Relation.ReflTransGen.tail h ⟨event, hstep⟩

/-- A manager at rest, with its clock moved on. -/
def System.restAt (s : System Governance) (now : Int) : System Governance :=
  { s with clock := now, waiting := [], phase := .idle }

/-- From an idle manager, a call that cannot connect returns what `_degrade` says. -/
theorem exists_failed_call {s : System Governance} (hphase : s.phase = .idle)
    (hwaiting : s.waiting = []) {now : Int} (hclock : s.clock ≤ now) :
    ∃ t, Later py s t
      ∧ Step py t (some (⟨now, s.history.last⟩, degrade s.manager now)) (s.restAt now) := by
  have hcall : Later py s _ := .single ⟨none, .call hclock⟩
  rw [hwaiting] at hcall
  exact ⟨_, ((hcall.step (.acquire hphase rfl)).step (.connectFailed rfl)), .returned rfl⟩

/-- A manager at rest that has just loaded the newest state. -/
def System.loadedAt (s : System Governance) (now : Int) (snapshot : TrustSnapshot) :
    System Governance :=
  { s with
    clock := now
    waiting := []
    phase := .idle
    manager := { s.manager with token := some snapshot.token, lastSuccess := some now }
    store := loadedStore s.store snapshot
    lastProbe := some ⟨now, s.history.last⟩
    lastRefresh := some ⟨now, s.history.last⟩ }

/-- From an idle manager, a call that reads a new token loads. -/
theorem exists_fresh_call {s : System Governance} (hphase : s.phase = .idle)
    (hwaiting : s.waiting = []) {now : Int} (hclock : s.clock ≤ now) {token : TrustStateToken}
    (hprobe : s.history.newest.trustState = some token) (hmoved : s.manager.token ≠ some token)
    {rows : FetchedRows} (hrows : rows.Of s.history.newest) {snapshot : TrustSnapshot}
    (hload : loadTrustSnapshot py s.history.newest.trustState rows = .ok snapshot) :
    ∃ t, Later py s t
      ∧ Step py t (some (⟨now, s.history.last⟩, .fresh)) (s.loadedAt now snapshot) := by
  have hcall : Later py s _ := .single ⟨none, .call hclock⟩
  rw [hwaiting] at hcall
  have hprobed := ((hcall.step (.acquire hphase rfl)).step (.connected rfl)).step
    (.probeMoved rfl hprobe hmoved)
  exact ⟨_, (hprobed.step (.snapshot rfl)).step (.loaded rfl s.history.state?_last hrows hload),
    .returned rfl⟩

/-! ## The record and the token -/

/-- The projection of the state that a load reads. -/
theorem projectionOf_loaded {db : Database} {rows : FetchedRows} {snapshot : TrustSnapshot}
    (store : ScannerTrustStore Governance ProjectionDefect) (hrows : rows.Of db)
    (hload : loadTrustSnapshot py db.trustState rows = .ok snapshot) :
    db.trustState = some snapshot.token ∧ ProjectionOf py db (loadedStore store snapshot) := by
  refine ⟨?_, rows, hrows, snapshot, hload, sameProjected_loadedStore _ store snapshot⟩
  cases htoken : db.trustState with
  | none =>
      rw [htoken] at hload
      exact nomatch hload
  | some token =>
      rw [htoken] at hload
      obtain ⟨rfl, -⟩ := loadTrustSnapshot_eq_ok_iff.mp hload
      rfl

/-- Does the manager hold the projection of the state numbered `n`, and remember its
    token? -/
def Holds (py : PyRuntime) (s : System Governance) (n : Nat) : Prop :=
  ∃ db, s.history.state? n = some db ∧ s.manager.token = db.trustState
    ∧ ProjectionOf py db s.store

/-- The probe of a call that is about to load saw a state past `n`. -/
def PastProbe (s : System Governance) (n probe : Nat) : Prop :=
  n ≤ probe ∧ ∃ db, s.history.state? probe = some db ∧ s.manager.token ≠ db.trustState

/-- What a call has seen that loads while the manager holds number `n`, or that has
    loaded since it held number `n₀`. -/
def PhaseAhead (s : System Governance) (n₀ n : Nat) : Phase → Prop
  | .loading _ probe => PastProbe s n probe
  | .reading _ probe _ => PastProbe s n probe
  | .closing _ .fresh => n₀ < n
  | _ => True

/-- After a state that held number `n₀`, the manager holds a number `n` from there on, and
    a later one where a call has loaded. -/
structure Ahead (py : PyRuntime) (n₀ : Nat) (s : System Governance) (n : Nat) : Prop where
  since : n₀ ≤ n
  holds : Holds py s n
  phase : PhaseAhead s n₀ n s.phase

/-- What no step but a load changes. -/
structure Quiet (s s' : System Governance) : Prop where
  kept : ∀ n db, s.history.state? n = some db → s'.history.state? n = some db
  token : s'.manager.token = s.manager.token
  store : SameProjected s.store s'.store

theorem Holds.of_quiet {s s' : System Governance} {n : Nat} (h : Holds py s n)
    (hquiet : Quiet s s') : Holds py s' n := by
  obtain ⟨db, hdb, htoken, hprojection⟩ := h
  exact ⟨db, hquiet.kept n db hdb, hquiet.token.trans htoken,
    hprojection.of_sameProjected hquiet.store⟩

theorem PastProbe.of_quiet {s s' : System Governance} {n probe : Nat} (h : PastProbe s n probe)
    (hquiet : Quiet s s') : PastProbe s' n probe := by
  obtain ⟨hle, db, hdb, htoken⟩ := h
  exact ⟨hle, db, hquiet.kept probe db hdb, fun heq => htoken (hquiet.token.symm.trans heq)⟩

theorem Holds.lt_probe {s : System Governance} {n probe : Nat} (h : Holds py s n)
    (hprobe : PastProbe s n probe) : n < probe := by
  obtain ⟨db, hdb, htoken, -⟩ := h
  obtain ⟨hle, db', hdb', hmoved⟩ := hprobe
  refine lt_of_le_of_ne hle (fun heq => ?_)
  subst heq
  obtain rfl := Option.some.inj (hdb.symm.trans hdb')
  exact hmoved htoken

theorem Holds.le_last {s : System Governance} {n : Nat} (h : Holds py s n) :
    n ≤ s.history.last := by
  obtain ⟨db, hdb, -⟩ := h
  exact History.le_last_of_state? hdb

/-- A step that changes no more than the clock and the queue keeps what is ahead. -/
theorem Ahead.of_quiet {n₀ n : Nat} {s s' : System Governance} (hs : Ahead py n₀ s n)
    (hquiet : Quiet s s') (hphase : s'.phase = s.phase) : Ahead py n₀ s' n := by
  refine ⟨hs.since, hs.holds.of_quiet hquiet, ?_⟩
  rw [hphase]
  have hseen := hs.phase
  cases hcase : s.phase with
  | loading call probe =>
      rw [hcase] at hseen
      exact PastProbe.of_quiet hseen hquiet
  | reading call probe loaded =>
      rw [hcase] at hseen
      exact PastProbe.of_quiet hseen hquiet
  | closing call status =>
      rw [hcase] at hseen
      cases status with
      | fresh => exact hseen
      | _ => trivial
  | _ => trivial

/-- A failed call does not end fresh. -/
theorem Ahead.fail {n₀ n : Nat} {s : System Governance} (hs : Ahead py n₀ s n) (call : Call) :
    Ahead py n₀ (s.fail call) n := by
  refine ⟨hs.since, hs.holds.of_quiet ⟨fun _ _ h => h, rfl, .refl _⟩, ?_⟩
  show PhaseAhead _ _ _ (.closing call (degrade s.manager call.now))
  have hnot := degrade_ne_fresh s.manager call.now
  cases hstatus : degrade s.manager call.now with
  | fresh => exact absurd (.inl hstatus) hnot
  | _ => trivial

/-- **AHEAD**: a step keeps the number that the manager holds, or loads a later one. -/
theorem Ahead.step {n₀ n : Nat} {s s' : System Governance} {event : Option (Call × Freshness)}
    (hs : Ahead py n₀ s n) (hinv : Inv py s) (hstep : Step py s event s') :
    ∃ n', Ahead py n₀ s' n' := by
  cases hstep with
  | @mutate values mutation db hbuilt hcommit =>
      have hsince := since_of_recordGovernanceMutation hbuilt hcommit
      have hquiet : Quiet s { s with history := s.history.push db hsince } :=
        ⟨fun n db' h => @History.state?_push _ _ _ s.history db hsince n db' h, rfl, .refl _⟩
      exact ⟨n, hs.of_quiet hquiet rfl⟩
  | ephemeral hsame => exact ⟨n, hs.of_quiet ⟨fun _ _ h => h, rfl, hsame⟩ rfl⟩
  | inert hclock => exact ⟨n, hs.of_quiet ⟨fun _ _ h => h, rfl, .refl _⟩ rfl⟩
  | call hclock => exact ⟨n, hs.of_quiet ⟨fun _ _ h => h, rfl, .refl _⟩ rfl⟩
  | withdraw call => exact ⟨n, hs.of_quiet ⟨fun _ _ h => h, rfl, .refl _⟩ rfl⟩
  | acquire hphase hwaiting =>
      exact ⟨n, hs.since, hs.holds.of_quiet ⟨fun _ _ h => h, rfl, .refl _⟩, trivial⟩
  | abandon => exact ⟨n, hs.since, hs.holds.of_quiet ⟨fun _ _ h => h, rfl, .refl _⟩, trivial⟩
  | connected hphase =>
      exact ⟨n, hs.since, hs.holds.of_quiet ⟨fun _ _ h => h, rfl, .refl _⟩, trivial⟩
  | @connectFailed call hphase => exact ⟨n, hs.fail call⟩
  | @probeFailed call hphase => exact ⟨n, hs.fail call⟩
  | @loadFailed call probe hphase => exact ⟨n, hs.fail call⟩
  | @readFailed call probe loaded hphase => exact ⟨n, hs.fail call⟩
  | probeReused hphase hprobe hsame =>
      exact ⟨n, hs.since, hs.holds.of_quiet ⟨fun _ _ h => h, rfl, .refl _⟩, trivial⟩
  | @probeMoved call token hphase hprobe hmoved =>
      refine ⟨n, hs.since, hs.holds.of_quiet ⟨fun _ _ h => h, rfl, .refl _⟩, ?_⟩
      exact ⟨hs.holds.le_last, s.history.newest, s.history.state?_last,
        fun heq => hmoved (heq.trans hprobe)⟩
  | @snapshot call probe hphase =>
      have hseen := hs.phase
      rw [hphase] at hseen
      exact ⟨n, hs.since, hs.holds.of_quiet ⟨fun _ _ h => h, rfl, .refl _⟩, hseen⟩
  | @loaded call probe loaded db rows snapshot hphase hdb hrows hload =>
      have hseen := hs.phase
      rw [hphase] at hseen
      have hread := hinv.phase
      rw [PhaseInv, hphase] at hread
      have hlt : n < loaded := (hs.holds.lt_probe hseen).trans_le hread.2.1
      obtain ⟨htoken, hprojection⟩ := projectionOf_loaded s.store hrows hload
      exact ⟨loaded, hs.since.trans hlt.le, ⟨db, hdb, htoken.symm, hprojection⟩,
        hs.since.trans_lt hlt⟩
  | returned hphase =>
      exact ⟨n, hs.since, hs.holds.of_quiet ⟨fun _ _ h => h, rfl, .refl _⟩, trivial⟩

theorem Ahead.of_later {n₀ n : Nat} {s s' : System Governance} (hs : Reachable py s)
    (hahead : Ahead py n₀ s n) (h : Later py s s') : ∃ n', Ahead py n₀ s' n' := by
  induction h with
  | refl => exact ⟨n, hahead⟩
  | tail hlater hstep ih =>
      obtain ⟨event, hstep⟩ := hstep
      obtain ⟨n', hahead'⟩ := ih
      exact hahead'.step (inv_reachable (Later.reachable hlater hs)) hstep

/-- **RECORD BEFORE TOKEN**: the token under which a scan files its verdict is that of a
    committed state no older than the one its record was resolved from, and that of a
    later one whenever the second call reports a refresh: the verdict on the older record
    is then filed under the newer token. -/
theorem record_before_token {s s₁ s' s₂ : System Governance} {call call' : Call}
    {status status' : Freshness} (hs : Reachable py s)
    (hfirst : Step py s (some (call, status)) s₁) (hinert : status ≠ .inert)
    (hloaded : s₁.manager.token ≠ none) (hlater : Later py s₁ s')
    (hsecond : Step py s' (some (call', status')) s₂) (hinert' : status' ≠ .inert) :
    ∃ n n', Holds py s₁ n ∧ Holds py s₂ n' ∧ n ≤ n' ∧ (status' = .fresh → n < n') := by
  have hs₁ : Reachable py s₁ := hs.step hfirst
  obtain ⟨-, hidle⟩ := hfirst.closing hinert
  obtain ⟨hclosing, hafter⟩ := hsecond.closing hinert'
  rcases (inv_reachable hs₁).loaded with ⟨hnone, -⟩
    | ⟨token, refresh, n, db, htoken, -, -, -, hdb, hdbToken, hprojection⟩
  · exact absurd hnone hloaded
  · have hholds : Holds py s₁ n := ⟨db, hdb, htoken.trans hdbToken.symm, hprojection⟩
    have hahead : Ahead py n s₁ n := by
      refine ⟨le_refl n, hholds, ?_⟩
      rw [hidle]
      trivial
    obtain ⟨n', hahead'⟩ := hahead.of_later hs₁ hlater
    have hseen := hahead'.phase
    rw [hclosing] at hseen
    refine ⟨n, n', hholds, ?_, hahead'.since, fun hfresh => ?_⟩
    · rw [hafter]
      exact hahead'.holds.of_quiet ⟨fun _ _ h => h, rfl, .refl _⟩
    · subst hfresh
      exact hseen

/-- In a run where the issuer is revoked between the calls, the record is older than the
    token. -/
theorem record_before_token_revoked :
    ∃ (s₁ s₂ : System Unit) (n n' : Nat), Holds sampleRuntime s₁ n ∧ Holds sampleRuntime s₂ n'
      ∧ n < n' := by
  have hactive : (loadTrustSnapshot sampleRuntime soleDatabase.trustState
      (fetchInOrder soleDatabase)).toOption.map (fun snapshot => snapshot.token)
        = some ⟨"epoch", 1⟩ := by
    decide +kernel
  obtain ⟨snapshot, hload, htoken⟩ := Option.map_eq_some_iff.mp hactive
  have hcommit : (recordGovernanceMutation sampleValues sampleRevocation
      soleDatabase).toOption.bind (fun db =>
        (loadTrustSnapshot sampleRuntime db.trustState (fetchInOrder db)).toOption.map
          (fun _ => db.trustState)) = some (some ⟨"epoch", 2⟩) := by
    decide +kernel
  obtain ⟨revoked, hrevoked, hreload⟩ := Option.bind_eq_some_iff.mp hcommit
  obtain ⟨snapshot', hload', htoken'⟩ := Option.map_eq_some_iff.mp hreload
  have hcommitted := toOption_eq_some_iff.mp hrevoked
  -- the first call loads
  obtain ⟨s, hlater, hfirst⟩ := @exists_fresh_call sampleRuntime Unit
    (.start soleDatabase 60 0 .empty) rfl rfl 0 (Int.le_refl 0) _ rfl
    (Option.some_ne_none _).symm _ (fetchInOrder_of soleDatabase) _
    (toOption_eq_some_iff.mp hload)
  -- the revocation commits
  obtain ⟨s', hcommits, hphase, hwaiting, hclock, hnewest, hremembered⟩ :
      ∃ s', Later sampleRuntime
          ((System.start soleDatabase 60 0 (.empty : ScannerTrustStore Unit _)).loadedAt 0 snapshot)
          s'
        ∧ s'.phase = .idle ∧ s'.waiting = [] ∧ s'.clock = 0 ∧ s'.history.newest = revoked
        ∧ s'.manager.token = some snapshot.token :=
    ⟨_, .single ⟨none, .mutate (.issuerStatusUpdate _ _) hcommitted⟩, rfl, rfl, rfl, rfl, rfl⟩
  -- and the second call loads again
  rw [← hnewest] at hload' htoken'
  rw [htoken] at hremembered
  obtain ⟨s'', hlater', hsecond⟩ := exists_fresh_call hphase hwaiting (Int.le_of_eq hclock) htoken'
    (by rw [hremembered]; decide) (fetchInOrder_of _) (toOption_eq_some_iff.mp hload')
  have hreachable : Reachable sampleRuntime s :=
    hlater.reachable (.start soleDatabase 60 0 (.refl _))
  obtain ⟨n, n', hholds, hholds', -, hlt⟩ := record_before_token hreachable hfirst (by decide)
    (Option.some_ne_none _) (hcommits.trans hlater') hsecond (by decide)
  exact ⟨_, _, n, n', hholds, hholds', hlt rfl⟩

/-! ## The rows behind the projection -/

/-- The status of a projected key is that of its certificate. -/
theorem projectCertificateRow_state {row : CertificateRow} {entry : KeyEntry}
    (h : (projectCertificateRow py row).1 = some entry) :
    keyProjection row.keyStatus = some entry.state := by
  rw [projectCertificateRow] at h
  cases hstate : keyProjection row.keyStatus with
  | none =>
      rw [hstate] at h
      cases h
  | some state =>
      simp only [hstate] at h
      split at h
      · cases h
      · obtain rfl := Option.some.inj h
        rfl

/-- A projected key of a projection comes from a certificate row. -/
theorem ProjectionOf.key {db : Database} {store : ScannerTrustStore Governance ProjectionDefect}
    (h : ProjectionOf py db store) {keyRef : String} {entry : KeyEntry}
    (hentry : projectedKey store keyRef = some entry) :
    ∃ row ∈ db.certificates, row.certificateId = keyRef ∧ row.issuer.issuerId = entry.issuerId
      ∧ keyProjection row.keyStatus = some entry.state := by
  obtain ⟨rows, hrows, snapshot, hload, hsame⟩ := h
  rw [← hsame.keys keyRef] at hentry
  obtain ⟨hget, -⟩ := Option.filter_eq_some_iff.mp hentry
  cases htoken : db.trustState with
  | none =>
      rw [htoken] at hload
      cases hload
  | some token =>
      rw [htoken] at hload
      obtain ⟨rfl, -⟩ := loadTrustSnapshot_eq_ok_iff.mp hload
      rcases OrderedMap.mem_of_get?_setAll hget with hmem | ⟨hold, -⟩
      · obtain ⟨projected, hprojected, hpair⟩ := List.mem_map.mp hmem
        obtain ⟨href, rfl⟩ := Prod.mk.inj hpair
        obtain ⟨pair, hpairs, hfst⟩ := List.mem_filterMap.mp hprojected
        obtain ⟨row, hrow, rfl⟩ := List.mem_map.mp hpairs
        obtain ⟨hid, hissuer⟩ := projectCertificateRow_some hfst
        exact ⟨row, hrows.certificateRows.mem_iff.mp hrow, hid.symm.trans href, hissuer.symm,
          projectCertificateRow_state hfst⟩
      · cases hold

end ProjectionFreshness

namespace ScannerPipeline

open SignedSchema TrustStore TrustProjection ScannerRecord Fallible
open ProjectionFreshness (System Step Call Freshness Reachable Later ProjectionOf HoldsSince
  projectedIssuer projectedKey holdsSince_of_late)
open VerdictCache (Entries NarrowedVerifierRequest PresentedCode presentedCode)
open NarrowedVerifier (NarrowedVerificationResult TrustContext verifyPresentedCode)

variable {Image Quad ρ Defect : Type} {host : ScannerHost Image Quad ρ} {py : PyRuntime}

/-! ## The record behind a verdict -/

/-- No blocking state is left where a code is allowed. -/
theorem states_of_allowed {config : BackendConfig}
    {policyFile : Option PayloadRevalidation.PolicyFile} {envelope : SignedQRCodeEnvelope}
    {certificate : CertificateAuthorityRecord} {trust : TrustContext} {now : Datetime}
    {result : NarrowedVerificationResult}
    (h : verifyPresentedCode py config policyFile envelope certificate trust now = .ok result)
    (hallowed : result.allowed = true) :
    trust.issuer.status = .active ∧ (trust.key.state = .active ∨ trust.key.state = .retired) := by
  rw [verifyPresentedCode] at h
  cases hblocking : evaluateBlockingStates trust.key trust.issuer with
  | some blocking =>
      rw [hblocking] at h
      obtain rfl := Except.ok.inj h
      exact absurd hallowed Bool.false_ne_true
  | none =>
      rw [evaluateBlockingStates] at hblocking
      cases hstatus : trust.issuer.status with
      | active =>
          simp only [hstatus] at hblocking
          cases hstate : trust.key.state with
          | active => exact ⟨rfl, .inl rfl⟩
          | retired => exact ⟨rfl, .inr rfl⟩
          | revoked =>
              rw [hstate] at hblocking
              cases hblocking
          | suspended =>
              rw [hstate] at hblocking
              cases hblocking
      | suspended =>
          rw [hstatus] at hblocking
          cases hblocking
      | revoked =>
          rw [hstatus] at hblocking
          cases hblocking
      | expired =>
          rw [hstatus] at hblocking
          cases hblocking

/-- The states that a query presents. -/
theorem states_of_presented {config : BackendConfig} {query : NarrowedVerifierRequest}
    {code : PresentedCode} (h : presentedCode py config query = .ok code) :
    code.trust.issuer.status = VerdictCache.legacyIssuerStatus query.issuerState
      ∧ code.trust.key.state = query.issuerState.keyState.getD .active := by
  obtain ⟨claims, -, h⟩ := bind_eq_ok_iff.mp h
  obtain ⟨trust, htrust, h⟩ := bind_eq_ok_iff.mp h
  obtain rfl := Except.ok.inj h
  obtain ⟨issuedAt, -, htrust⟩ := bind_eq_ok_iff.mp htrust
  obtain ⟨expiresAt, -, htrust⟩ := bind_eq_ok_iff.mp htrust
  obtain ⟨_, -, htrust⟩ := bind_eq_ok_iff.mp htrust
  obtain ⟨notBefore, -, htrust⟩ := bind_eq_ok_iff.mp htrust
  obtain ⟨notAfter, -, htrust⟩ := bind_eq_ok_iff.mp htrust
  obtain ⟨_, -, htrust⟩ := bind_eq_ok_iff.mp htrust
  obtain rfl := Except.ok.inj htrust
  exact ⟨rfl, rfl⟩

/-- The record of a reference shows the states that the store holds. -/
theorem states_of_record {isoformat : Datetime → String}
    {store : ScannerTrustStore GovernanceTrustProjection Defect} {keyRef : String}
    {record : ScannerTrustRecord GovernanceTrustProjection}
    (h : scannerRecordFor py isoformat store keyRef = .ok (some record)) :
    ∃ key issuer, store.resolve keyRef = some (key, issuer)
      ∧ record.issuerState.issuerStatus = some issuer.status
      ∧ record.issuerState.keyState = some key.state := by
  rw [scannerRecordFor] at h
  cases hresolve : store.resolve keyRef with
  | none =>
      rw [hresolve] at h
      cases h
  | some pair =>
      obtain ⟨key, issuer⟩ := pair
      rw [hresolve] at h
      obtain ⟨certificate, -, h⟩ := bind_eq_ok_iff.mp h
      obtain ⟨state, hstate, h⟩ := bind_eq_ok_iff.mp h
      obtain rfl := Option.some.inj (Except.ok.inj h)
      obtain ⟨domains, -, hstate⟩ := bind_eq_ok_iff.mp hstate
      obtain ⟨_, -, hstate⟩ := bind_eq_ok_iff.mp hstate
      obtain ⟨_, -, hstate⟩ := bind_eq_ok_iff.mp hstate
      obtain ⟨_, -, hstate⟩ := bind_eq_ok_iff.mp hstate
      obtain ⟨_, -, hstate⟩ := bind_eq_ok_iff.mp hstate
      obtain ⟨_, -, hstate⟩ := bind_eq_ok_iff.mp hstate
      obtain ⟨_, -, hstate⟩ := bind_eq_ok_iff.mp hstate
      obtain rfl := Except.ok.inj hstate
      exact ⟨key, issuer, rfl, rfl, rfl⟩

theorem issuerState_of_query {code : ScannedCode ρ} {query : NarrowedVerifierRequest}
    (h : queryOf host code = .ok query) : query.issuerState = code.record.issuerState := by
  obtain ⟨scanned, hscanned, h⟩ := bind_eq_ok_iff.mp h
  obtain ⟨_, -, hscanned⟩ := bind_eq_ok_iff.mp hscanned
  obtain rfl := Except.ok.inj hscanned
  obtain ⟨envelope, -, h⟩ := bind_eq_ok_iff.mp h
  obtain ⟨input, -, h⟩ := bind_eq_ok_iff.mp h
  obtain rfl := Except.ok.inj h
  rfl

/-! ## A projected issuer -/

/-- The row of the issuer of the signed code. -/
def acmeIssuer : IssuerRow :=
  ⟨⟨"root:demo", "a", "issuer:acme"⟩, "Acme", "active", false, none, .utc 63902822400000000⟩

/-- The row of its key. -/
def acmeCertificate : CertificateRow :=
  ⟨"cert:acme", ⟨"root:demo", "a", "issuer:acme"⟩, "rsa-pss-sha256-v1", some "pem", "active",
    .utc 63902822400000000, none, none, none⟩

/-- The proof of its domain. -/
def acmeDomainProof : DomainProofRow :=
  ⟨⟨"root:demo", "a", "issuer:acme"⟩, "acme.example", "verified", none⟩

theorem acmeIssuer_key : ([acmeIssuer].map IssuerRow.key).Nodup := by decide

theorem acmeCertificate_key : ([acmeCertificate].map CertificateRow.certificateId).Nodup := by
  decide

theorem acmeCertificate_issuer :
    ∀ row ∈ [acmeCertificate], row.issuer ∈ [acmeIssuer].map IssuerRow.key := by decide

theorem acmeDomainProof_issuer :
    ∀ row ∈ [acmeDomainProof], row.issuer ∈ [acmeIssuer].map IssuerRow.key := by decide

theorem acmeDomainProof_current : (([acmeDomainProof].filter DomainProofRow.current).map
    fun row => (row.issuer, row.domain)).Nodup := by decide

/-- A trust database with the issuer of the signed code. -/
def acmeDatabase : Database where
  issuers := [acmeIssuer]
  certificates := [acmeCertificate]
  domainProofs := [acmeDomainProof]
  trustState := some ⟨"epoch", 7⟩
  issuers_key := acmeIssuer_key
  certificates_key := acmeCertificate_key
  certificates_issuer := acmeCertificate_issuer
  domainProofs_issuer := acmeDomainProof_issuer
  domainProofs_current := acmeDomainProof_current

/-- What a load reads there. -/
def acmeSnapshot : TrustSnapshot where
  token := ⟨"epoch", 7⟩
  issuers :=
    [⟨"issuer:acme", "Acme", "root:demo", .active, .utc 63902822400000000, none,
      .ofList [("acme.example", none)], false, .projection⟩]
  keys :=
    [⟨"cert:acme", "issuer:acme", "rsa-pss-sha256-v1", some "pem", .active,
      .utc 63902822400000000, none, none, none, .projection⟩]
  defects := []

theorem load_acme : loadTrustSnapshot sampleHost.ux.py acmeDatabase.trustState
    (fetchInOrder acmeDatabase) = .ok acmeSnapshot := rfl

/-- A verifier that starts over it with the year 2026. -/
def acmeStart : System GovernanceTrustProjection := .start acmeDatabase 60 63902822400000000 .empty

/-- The verifier after its first refresh, a minute and a second later. -/
def acmeLoaded : System GovernanceTrustProjection :=
  acmeStart.loadedAt 63902822461000000 acmeSnapshot

/-- What a scan finds whose record was resolved from that projection. -/
def acmeTrust (seconds : Int) (projectionState : Freshness) (version : Nat) :
    ScanTrust ProjectionDefect where
  store := acmeLoaded.store
  observedAt := 63902822400000000 + seconds * 1000000
  projectionState := projectionState
  token := some ⟨"epoch", version⟩
  now := 63902822400000000 + seconds * 1000000
  envelopeBudget := true
  issuerBudget := true
  cache := .empty

theorem asked_acme (seconds : Int) (projectionState : Freshness) (version : Nat) :
    Asked sampleHost (acmeTrust seconds projectionState version) sampleScan sampleCode where
  profile := rfl
  image := rfl
  samePayload := fun artifact hartifact => absurd hartifact (Option.not_mem_none artifact)
  qrPayload := strip_scanPayload.symm
  envelope := by
    show decodeEnvelope sampleHost (PyString.strip scanPayload) = _
    rw [strip_scanPayload]
    exact decode_scanPayload
  record := rfl
  fresh := fun governance hgovernance => absurd hgovernance (Option.not_mem_none governance)

theorem reachable_acme : Reachable sampleHost.ux.py acmeStart :=
  .start acmeDatabase 60 63902822400000000 (.refl _)

theorem first_call_acme : ∃ s, Later sampleHost.ux.py acmeStart s
    ∧ Step sampleHost.ux.py s (some (⟨63902822461000000, 0⟩, .fresh)) acmeLoaded :=
  ProjectionFreshness.exists_fresh_call rfl rfl (by decide) rfl (Option.some_ne_none _).symm
    (fetchInOrder_of acmeDatabase) load_acme

/-- The verdict on the signed code under that trust. -/
theorem computed_acme :
    (VerdictCache.runNarrowedVerifier sampleHost.ux.py sampleHost.dumpJson
      (surroundings sampleHost (acmeTrust 61 .staleServed 7)) (acmeTrust 61 .staleServed 7).cache
      (presentation (acmeTrust 61 .staleServed 7) sampleQuery)).answer
        = .ok (sampleVerdict .computed) := by
  decide +kernel

/-! ## Scans in a run of the projection -/

/-- What a scan finds in a run of the projection from `s₀` on.  Its record is resolved in
    `s₁`, where its first call of `ensure_fresh` has returned a status; the second call,
    at any later point, gives what the verifier sees. -/
structure Observed (py : PyRuntime) (s₀ s₁ : System GovernanceTrustProjection) (call : Call)
    (status : Freshness) (trust : ScanTrust ProjectionDefect) : Prop where
  first : ∃ s, Later py s₀ s ∧ Step py s (some (call, status)) s₁
  resolved : trust.store = s₁.store
  second : ∃ s call' s₂, Later py s₁ s ∧ Step py s (some (call', trust.projectionState)) s₂
    ∧ trust.token = s₂.manager.token

/-- The rows of a database that admit a key and its issuer, where they are projected. -/
structure Admits (db : Database) (keyRef : String) (key : KeyEntry) (issuer : IssuerRecord) :
    Prop where
  issuer : issuer.source = .projection → ∃ row ∈ db.issuers, row.key.issuerId = key.issuerId
    ∧ row.enrollmentStatus = "active"
  key : key.source = .projection → ∃ row ∈ db.certificates, row.certificateId = keyRef
    ∧ row.issuer.issuerId = key.issuerId ∧ row.keyStatus ∈ ["active", "rotated", "expired"]

theorem enrollment_of_active {status : String} (h : issuerProjection status = some .active) :
    status = "active" := by
  by_contra hne
  rw [issuerProjection.eq_def] at h
  split at h
  · exact hne rfl
  · cases h
  · cases h
  · cases h
  · cases h

theorem keyStatus_of_verifying {status : String} {state : KeyState}
    (h : keyProjection status = some state) (hstate : state = .active ∨ state = .retired) :
    status ∈ ["active", "rotated", "expired"] := by
  rw [keyProjection.eq_def] at h
  split at h
  · simp
  · simp
  · simp
  · obtain rfl := Option.some.inj h
    simp at hstate
  · obtain rfl := Option.some.inj h
    simp at hstate
  · cases h

/-- The database that a store is the projection of admits what the store resolves in a
    verifying state. -/
theorem admits_of_projection {db : Database}
    {store : ScannerTrustStore GovernanceTrustProjection ProjectionDefect} {keyRef : String}
    {key : KeyEntry} {issuer : IssuerRecord} (hprojection : ProjectionOf py db store)
    (hresolve : store.resolve keyRef = some (key, issuer)) (hissuer : issuer.status = .active)
    (hkey : key.state = .active ∨ key.state = .retired) : Admits db keyRef key issuer := by
  have hstored : store.keys.get? keyRef = some key
      ∧ store.issuers.get? key.issuerId = some issuer := by
    cases hget : store.keys.get? keyRef with
    | none =>
        rw [ScannerTrustStore.resolve, hget] at hresolve
        cases hresolve
    | some found =>
        rw [ScannerTrustStore.resolve_of_key hget] at hresolve
        obtain ⟨issuer', hissuer', hpair⟩ := Option.map_eq_some_iff.mp hresolve
        obtain ⟨rfl, rfl⟩ := Prod.mk.inj hpair
        exact ⟨rfl, hissuer'⟩
  constructor
  · intro hsource
    have hprojected : projectedIssuer store key.issuerId = some issuer :=
      Option.filter_eq_some_iff.mpr ⟨hstored.2, decide_eq_true hsource⟩
    obtain ⟨row, hrow, hid, hstatus⟩ := hprojection.issuer hprojected
    rw [hissuer] at hstatus
    exact ⟨row, hrow, hid, enrollment_of_active hstatus⟩
  · intro hsource
    have hprojected : projectedKey store keyRef = some key :=
      Option.filter_eq_some_iff.mpr ⟨hstored.1, decide_eq_true hsource⟩
    obtain ⟨row, hrow, hid, hissuerId, hstate⟩ := hprojection.key hprojected
    exact ⟨row, hrow, hid, hissuerId, keyStatus_of_verifying hstate hkey⟩

/-- **UNNOTICED**: the condition on the first call cannot be spared.  Where the refresh of
    the first call fails past the staleness budget, and that of the second succeeds, a scan
    resolves its record from the outdated projection, files the verdict under the newest
    token, and sees a trust state in force. -/
theorem unavailable_unnoticed {s : System GovernanceTrustProjection} {now : Int}
    {token : TrustStateToken} {rows : FetchedRows} {snapshot : TrustSnapshot}
    {trust : ScanTrust ProjectionDefect} (hphase : s.phase = .idle) (hwaiting : s.waiting = [])
    (hclock : s.clock ≤ now)
    (hdegrade : ProjectionFreshness.degrade s.manager now = .unavailable)
    (hprobe : s.history.newest.trustState = some token) (hmoved : s.manager.token ≠ some token)
    (hrows : rows.Of s.history.newest)
    (hload : loadTrustSnapshot py s.history.newest.trustState rows = .ok snapshot)
    (hstore : trust.store = s.store) (hfresh : trust.projectionState = .fresh)
    (htoken : trust.token = some token) :
    Observed py s (s.restAt now) ⟨now, s.history.last⟩ .unavailable trust := by
  obtain ⟨first, hfirst, hreturned⟩ :=
    @ProjectionFreshness.exists_failed_call py _ s hphase hwaiting now hclock
  obtain ⟨second, hsecond, hloaded⟩ :=
    @ProjectionFreshness.exists_fresh_call py _ (s.restAt now) rfl rfl now (le_refl now) token
      hprobe hmoved rows hrows snapshot hload
  rw [hdegrade] at hreturned
  refine ⟨⟨first, hfirst, hreturned⟩, hstore, second, _, _, hsecond, hfresh ▸ hloaded, ?_⟩
  rw [hprobe] at hload
  obtain ⟨rfl, -⟩ := loadTrustSnapshot_eq_ok_iff.mp hload
  exact htoken

theorem computed_outdated :
    (VerdictCache.runNarrowedVerifier sampleHost.ux.py sampleHost.dumpJson
      (surroundings sampleHost (acmeTrust 122 .fresh 8)) (acmeTrust 122 .fresh 8).cache
      (presentation (acmeTrust 122 .fresh 8) sampleQuery)).answer
        = .ok (sampleVerdict .computed) := by
  decide +kernel

/-- A minute after the issuer was revoked, a scan between two such calls verifies its code. -/
theorem unavailable_unnoticed_revoked :
    ∃ s s₁ call decision cache, Reachable sampleHost.ux.py s
      ∧ s.history.newest.issuers.map (fun row => row.enrollmentStatus) = ["revoked"]
      ∧ Observed sampleHost.ux.py s s₁ call .unavailable (acmeTrust 122 .fresh 8)
      ∧ runScannerDecision sampleHost (acmeTrust 122 .fresh 8) sampleScan = (.ok decision, cache)
      ∧ decision.decisionState = .verifiedIssuer := by
  have hcommit : (ManagementPlane.recordGovernanceMutation ProjectionFreshness.sampleValues
      ProjectionFreshness.sampleRevocation acmeDatabase).toOption.bind (fun db =>
        (loadTrustSnapshot sampleHost.ux.py db.trustState (fetchInOrder db)).toOption.map
          (fun _ => (db.trustState, db.issuers.map fun row => row.enrollmentStatus)))
      = some (some ⟨"epoch", 8⟩, ["revoked"]) := by
    decide +kernel
  obtain ⟨revoked, hrevoked, hreload⟩ := Option.bind_eq_some_iff.mp hcommit
  obtain ⟨snapshot, hload, hfields⟩ := Option.map_eq_some_iff.mp hreload
  obtain ⟨htoken, hissuers⟩ := Prod.mk.inj hfields
  obtain ⟨s, hlater, hfirst⟩ := first_call_acme
  have hacme : Reachable sampleHost.ux.py acmeLoaded :=
    (hlater.reachable reachable_acme).step hfirst
  -- the revocation commits
  obtain ⟨s', hs', hphase, hwaiting, hclock, hnewest, hmanager, hstore⟩ :
      ∃ s', Reachable sampleHost.ux.py s' ∧ s'.phase = .idle ∧ s'.waiting = []
        ∧ s'.clock = 63902822461000000 ∧ s'.history.newest = revoked
        ∧ s'.manager = acmeLoaded.manager ∧ s'.store = acmeLoaded.store :=
    ⟨_, hacme.step (.mutate (.issuerStatusUpdate _ _) (toOption_eq_some_iff.mp hrevoked)), rfl, rfl,
      rfl, rfl, rfl, rfl⟩
  have hdegrade : ProjectionFreshness.degrade s'.manager 63902822522000000 = .unavailable := by
    rw [hmanager]
    rfl
  rw [← hnewest] at hload htoken hissuers
  have hmoved : s'.manager.token ≠ some ⟨"epoch", 8⟩ := by
    rw [hmanager]
    decide
  have hobserved := @unavailable_unnoticed _ s' 63902822522000000 _ _ _ (acmeTrust 122 .fresh 8)
    hphase hwaiting (by rw [hclock]; decide) hdegrade htoken hmoved (fetchInOrder_of _)
    (toOption_eq_some_iff.mp hload) hstore.symm rfl rfl
  obtain ⟨decision, hdecision, hpositive⟩ := decided_sample .computed
  obtain ⟨cache, hrun⟩ :=
    run_of_served (asked_acme 122 .fresh 8) queryOf_sample computed_outdated hdecision
  exact ⟨s', _, _, decision, cache, hs', hissuers, hobserved, hrun, hpositive⟩

end ScannerPipeline
