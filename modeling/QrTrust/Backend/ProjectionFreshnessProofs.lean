import QrTrust.Backend.ProjectionFreshness
import QrTrust.Backend.ProjectionIsolationProofs

/-! # How fresh the projection is

    The invariant ties the remembered token to a committed state whose
    projection the store holds (`Loaded`), and each phase of a call to what it
    has seen.  Equal tokens mean equal tables, so a probe that reads the
    remembered token makes the projection that of the state it saw.

    The deadline counts from the last refresh that completed, not from the last
    probe that succeeded: a probe that reads a new token and is followed by a
    failed load leaves the old entries (`staleServed_behind_probe`). -/

namespace ProjectionFreshness

open TrustStore TrustProjection ManagementPlane Fallible

variable {py : PyRuntime} {Governance : Type}

/-! ## Projected entries -/

theorem SameProjected.refl (a : ScannerTrustStore Governance ProjectionDefect) :
    SameProjected a a :=
  ⟨fun _ => rfl, fun _ => rfl, rfl⟩

theorem SameProjected.trans {a b c : ScannerTrustStore Governance ProjectionDefect}
    (h : SameProjected a b) (h' : SameProjected b c) : SameProjected a c :=
  ⟨fun id => (h.issuers id).trans (h'.issuers id), fun ref => (h.keys ref).trans (h'.keys ref),
    h.defects.trans h'.defects⟩

theorem ProjectionOf.of_sameProjected {db : Database}
    {a b : ScannerTrustStore Governance ProjectionDefect} (h : ProjectionOf py db a)
    (hsame : SameProjected a b) : ProjectionOf py db b := by
  obtain ⟨rows, hrows, snapshot, hload, hprojected⟩ := h
  exact ⟨rows, hrows, snapshot, hload, hprojected.trans hsame⟩

/-- **ONE PROJECTION**: states with the same tables and token have the same
    projections. -/
theorem ProjectionOf.of_sameTables {db db' : Database}
    {store : ScannerTrustStore Governance ProjectionDefect} (h : ProjectionOf py db store)
    (htables : SameTables db db') (htoken : db.trustState = db'.trustState) :
    ProjectionOf py db' store := by
  obtain ⟨rows, hrows, snapshot, hload, hprojected⟩ := h
  refine ⟨rows, ⟨?_, ?_, ?_⟩, snapshot, htoken ▸ hload, hprojected⟩
  · exact htables.domainProofs ▸ hrows.proofRows
  · exact htables.issuers ▸ hrows.issuerRows
  · exact htables.certificates ▸ hrows.certificateRows

/-- Of entries written over what is not projected, the projected ones show
    whatever was there. -/
theorem filter_get?_setAll {ν : Type} (old : OrderedMap String ν) (isProjected : ν → Bool)
    (entries : List (String × ν)) (k : String) :
    (((old.filter fun e => !isProjected e.2).setAll entries).get? k).filter isProjected
      = ((entries.reverse.find? fun e => e.1 = k).map Prod.snd).filter isProjected := by
  rw [OrderedMap.get?_setAll]
  cases (entries.reverse.find? fun e => e.1 = k).map Prod.snd with
  | some v => rfl
  | none =>
      show (OrderedMap.get? _ k).filter isProjected = none
      cases hget : (old.filter fun e => !isProjected e.2).get? k with
      | none => rfl
      | some v =>
          rw [OrderedMap.get?_eq_some_iff, OrderedMap.mem_filter] at hget
          exact Option.filter_some_neg ((Bool.not_eq_true' _).mp hget.2)

/-- **SWAP**: after a swap the projected entries are those of the snapshot,
    whatever the store held. -/
theorem sameProjected_loadedStore (store store' : ScannerTrustStore Governance ProjectionDefect)
    (snapshot : TrustSnapshot) :
    SameProjected (loadedStore store snapshot) (loadedStore store' snapshot) where
  issuers := fun issuerId => by
    have hswap := fun old => filter_get?_setAll old
      (fun record : IssuerRecord => record.source = .projection)
      (snapshot.issuers.map fun record => (record.issuerId, record)) issuerId
    simpa [projectedIssuer, loadedStore, ScannerTrustStore.replaceProjection] using
      (hswap store.issuers).trans (hswap store'.issuers).symm
  keys := fun keyRef => by
    have hswap := fun old => filter_get?_setAll old
      (fun entry : KeyEntry => entry.source = .projection)
      (snapshot.keys.map fun entry => (entry.keyRef, entry)) keyRef
    simpa [projectedKey, loadedStore, ScannerTrustStore.replaceProjection] using
      (hswap store.keys).trans (hswap store'.keys).symm
  defects := rfl

/-! ## The invariant -/

/-- The store holds the projection of a committed state from number `since` on. -/
def HoldsSince (py : PyRuntime) (s : System Governance) (since : Nat) : Prop :=
  ∃ n db, since ≤ n ∧ s.history.state? n = some db ∧ ProjectionOf py db s.store

/-- What a result promises: fresh or reused, the projection of a state no older
    than the call; stale-served, that of a state no older than the one the probe
    of the last completed refresh saw, that refresh within the budget. -/
def Promise (py : PyRuntime) (s : System Governance) (call : Call) (status : Freshness) : Prop :=
  (status = .fresh ∨ status = .reused → HoldsSince py s call.startedAt)
    ∧ (status = .staleServed → ∃ refresh, s.lastRefresh = some refresh
        ∧ call.now - refresh.time ≤ s.manager.maxStalenessSeconds * 1000000
        ∧ HoldsSince py s refresh.state)

/-- Nothing was ever loaded, or the remembered token is that of a committed state
    whose projection the store holds, no older than the one the last completed
    refresh saw. -/
def Loaded (py : PyRuntime) (s : System Governance) : Prop :=
  (s.manager.token = none ∧ s.manager.lastSuccess = none ∧ s.lastRefresh = none
      ∧ SameProjected .empty s.store)
    ∨ ∃ token refresh n db, s.manager.token = some token
        ∧ s.manager.lastSuccess = some refresh.time ∧ s.lastRefresh = some refresh
        ∧ refresh.state ≤ n ∧ s.history.state? n = some db ∧ db.trustState = some token
        ∧ ProjectionOf py db s.store

/-- What the call that holds the lock has seen. -/
def PhaseInv (py : PyRuntime) (s : System Governance) : Prop :=
  match s.phase with
  | .idle => True
  | .connecting call => call.startedAt ≤ s.history.last
  | .probing call => call.startedAt ≤ s.history.last
  | .loading call probe => call.startedAt ≤ probe ∧ probe ≤ s.history.last
  | .reading call probe loaded =>
      call.startedAt ≤ probe ∧ probe ≤ loaded ∧ loaded ≤ s.history.last
  | .closing call status => Promise py s call status

/-- The invariant of the projection. -/
structure Inv (py : PyRuntime) (s : System Governance) : Prop where
  loaded : Loaded py s
  waiting : ∀ call ∈ s.waiting, call.startedAt ≤ s.history.last
  phase : PhaseInv py s

/-! ## What the other tasks leave -/

/-- A step of the others: committed states keep their numbers, and manager, last
    refresh and projected entries stay. -/
structure Undisturbed (s s' : System Governance) : Prop where
  state? : ∀ n db, s.history.state? n = some db → s'.history.state? n = some db
  last : s.history.last ≤ s'.history.last
  manager : s'.manager = s.manager
  lastRefresh : s'.lastRefresh = s.lastRefresh
  store : SameProjected s.store s'.store

theorem HoldsSince.of_undisturbed {s s' : System Governance} (h : Undisturbed s s') {since : Nat}
    (hs : HoldsSince py s since) : HoldsSince py s' since := by
  obtain ⟨n, db, hle, hdb, hprojection⟩ := hs
  exact ⟨n, db, hle, h.state? n db hdb, hprojection.of_sameProjected h.store⟩

theorem Promise.of_undisturbed {s s' : System Governance} (h : Undisturbed s s') {call : Call}
    {status : Freshness} (hs : Promise py s call status) : Promise py s' call status := by
  refine ⟨fun hfresh => (hs.1 hfresh).of_undisturbed h, fun hstale => ?_⟩
  obtain ⟨refresh, hrefresh, hage, hholds⟩ := hs.2 hstale
  rw [Promise, h.lastRefresh, h.manager] at *
  exact ⟨refresh, hrefresh, hage, hholds.of_undisturbed h⟩

theorem Loaded.of_undisturbed {s s' : System Governance} (h : Undisturbed s s')
    (hs : Loaded py s) : Loaded py s' := by
  rw [Loaded, h.manager, h.lastRefresh]
  rcases hs with ⟨htoken, hsuccess, hrefresh, hempty⟩
    | ⟨token, refresh, n, db, htoken, hsuccess, hrefresh, hle, hdb, hdbToken, hprojection⟩
  · exact .inl ⟨htoken, hsuccess, hrefresh, hempty.trans h.store⟩
  · exact .inr ⟨token, refresh, n, db, htoken, hsuccess, hrefresh, hle, h.state? n db hdb,
      hdbToken, hprojection.of_sameProjected h.store⟩

theorem PhaseInv.of_undisturbed {s s' : System Governance} (h : Undisturbed s s')
    (hphase : s'.phase = s.phase) (hs : PhaseInv py s) : PhaseInv py s' := by
  rw [PhaseInv, hphase]
  rw [PhaseInv] at hs
  cases hp : s.phase with
  | idle => trivial
  | connecting call => rw [hp] at hs; exact Nat.le_trans hs h.last
  | probing call => rw [hp] at hs; exact Nat.le_trans hs h.last
  | loading call probe => rw [hp] at hs; exact ⟨hs.1, Nat.le_trans hs.2 h.last⟩
  | reading call probe loaded =>
      rw [hp] at hs
      exact ⟨hs.1, hs.2.1, Nat.le_trans hs.2.2 h.last⟩
  | closing call status => rw [hp] at hs; exact Promise.of_undisturbed h hs

/-- Nothing changes but the queue, the clock and the phase. -/
theorem undisturbed_of_eq {s s' : System Governance} (hhistory : s'.history = s.history)
    (hmanager : s'.manager = s.manager) (hrefresh : s'.lastRefresh = s.lastRefresh)
    (hstore : s'.store = s.store) : Undisturbed s s' :=
  ⟨fun _ _ h => hhistory ▸ h, Nat.le_of_eq (by rw [hhistory]), hmanager, hrefresh,
    hstore ▸ .refl _⟩

/-! ## What the call does -/

/-- **DEGRADE**: serving stale needs a completed refresh within the budget. -/
theorem degrade_staleServed {manager : TrustProjectionManager} {now : Int}
    (h : degrade manager now = .staleServed) :
    ∃ lastSuccess, manager.lastSuccess = some lastSuccess
      ∧ now - lastSuccess ≤ manager.maxStalenessSeconds * 1000000 := by
  rw [degrade] at h
  split at h
  · rename_i token lastSuccess _ hsuccess
    split at h
    · rename_i hage
      exact ⟨lastSuccess, hsuccess, hage⟩
    · cases h
  · cases h

theorem degrade_ne_fresh (manager : TrustProjectionManager) (now : Int) :
    ¬ (degrade manager now = .fresh ∨ degrade manager now = .reused) := by
  rw [degrade]
  split
  · split
    · rintro (h | h) <;> cases h
    · rintro (h | h) <;> cases h
  · rintro (h | h) <;> cases h

/-- **FAILURE**: a failed call keeps the invariant, and promises what it returns. -/
theorem inv_fail {s : System Governance} (hs : Inv py s) (call : Call) :
    Inv py (s.fail call) := by
  have hsame : Undisturbed s (s.fail call) := undisturbed_of_eq rfl rfl rfl rfl
  refine ⟨hs.loaded.of_undisturbed hsame, hs.waiting, ?_⟩
  show Promise py (s.fail call) call (degrade s.manager call.now)
  refine ⟨fun hfresh => absurd hfresh (degrade_ne_fresh s.manager call.now), fun hstale => ?_⟩
  obtain ⟨lastSuccess, hsuccess, hage⟩ := degrade_staleServed hstale
  rcases hs.loaded with ⟨-, hnone, -⟩
    | ⟨token, refresh, n, db, -, htime, hrefresh, hle, hdb, -, hprojection⟩
  · rw [hnone] at hsuccess
    cases hsuccess
  · obtain rfl := Option.some.inj (htime.symm.trans hsuccess)
    exact ⟨refresh, hrefresh, hage, n, db, hle, hdb, hprojection⟩

/-- **REUSED**: a probe that reads the remembered token finds the projection of
    the very state it saw. -/
theorem projectionOf_newest {s : System Governance} (hs : Loaded py s)
    {token : TrustStateToken} (hprobe : s.history.newest.trustState = some token)
    (hsame : s.manager.token = some token) : ProjectionOf py s.history.newest s.store := by
  rcases hs with ⟨hnone, -⟩ | ⟨token', refresh, n, db, htoken, -, -, -, hdb, hdbToken, hprojection⟩
  · rw [hnone] at hsame
    cases hsame
  · obtain rfl := Option.some.inj (htoken.symm.trans hsame)
    exact hprojection.of_sameTables
      ((History.since_newest hdb).same_of_token (V := trustStates) hdbToken hprobe)
      (hdbToken.trans hprobe.symm)

/-- **STEP**: every step keeps the invariant. -/
theorem inv_step {s s' : System Governance} {event : Option (Call × Freshness)}
    (hs : Inv py s) (hstep : Step py s event s') : Inv py s' := by
  cases hstep with
  | @mutate values mutation db hbuilt hcommit =>
      have hsince := since_of_recordGovernanceMutation hbuilt hcommit
      have hframe : Undisturbed s { s with history := s.history.push db hsince } :=
        ⟨fun n db' h => @History.state?_push _ _ _ s.history db hsince n db' h,
          Nat.le_of_lt (by rw [History.last_push]; exact Nat.lt_succ_self _), rfl, rfl, .refl _⟩
      exact ⟨hs.loaded.of_undisturbed hframe,
        fun call hcall => Nat.le_trans (hs.waiting call hcall) hframe.last,
        hs.phase.of_undisturbed hframe rfl⟩
  | @ephemeral store hsame =>
      have hframe : Undisturbed s { s with store := store } :=
        ⟨fun _ _ h => h, Nat.le_refl _, rfl, rfl, hsame⟩
      exact ⟨hs.loaded.of_undisturbed hframe, hs.waiting, hs.phase.of_undisturbed hframe rfl⟩
  | @inert now hclock =>
      have hframe : Undisturbed s { s with clock := now } := undisturbed_of_eq rfl rfl rfl rfl
      exact ⟨hs.loaded.of_undisturbed hframe, hs.waiting, hs.phase.of_undisturbed hframe rfl⟩
  | @call now hclock =>
      have hframe : Undisturbed s
          { s with clock := now, waiting := s.waiting ++ [⟨now, s.history.last⟩] } :=
        undisturbed_of_eq rfl rfl rfl rfl
      refine ⟨hs.loaded.of_undisturbed hframe, fun call hcall => ?_,
        hs.phase.of_undisturbed hframe rfl⟩
      rcases List.mem_append.mp hcall with hold | hnew
      · exact hs.waiting call hold
      · obtain rfl := List.mem_singleton.mp hnew
        exact Nat.le_refl _
  | @acquire call rest hphase hwaiting =>
      have hframe : Undisturbed s { s with waiting := rest, phase := .connecting call } :=
        undisturbed_of_eq rfl rfl rfl rfl
      refine ⟨hs.loaded.of_undisturbed hframe, fun call' hcall => ?_, ?_⟩
      · exact hs.waiting call' (hwaiting ▸ List.mem_cons_of_mem _ hcall)
      · exact hs.waiting call (hwaiting ▸ List.mem_cons_self ..)
  | withdraw call =>
      have hframe : Undisturbed s { s with waiting := s.waiting.erase call } :=
        undisturbed_of_eq rfl rfl rfl rfl
      exact ⟨hs.loaded.of_undisturbed hframe,
        fun call' hcall => hs.waiting call' (List.mem_of_mem_erase hcall),
        hs.phase.of_undisturbed hframe rfl⟩
  | abandon =>
      exact ⟨hs.loaded.of_undisturbed (undisturbed_of_eq rfl rfl rfl rfl), hs.waiting, trivial⟩
  | @connected call hphase =>
      have hcall := hs.phase
      rw [PhaseInv, hphase] at hcall
      exact ⟨hs.loaded.of_undisturbed (undisturbed_of_eq rfl rfl rfl rfl), hs.waiting, hcall⟩
  | @connectFailed call hphase => exact inv_fail hs call
  | @probeFailed call hphase => exact inv_fail hs call
  | @probeReused call token hphase hprobe hsame =>
      have hcall := hs.phase
      rw [PhaseInv, hphase] at hcall
      have hprojection := projectionOf_newest hs.loaded hprobe hsame
      refine ⟨.inr ⟨token, ⟨call.now, s.history.last⟩, s.history.last, s.history.newest, hsame,
        rfl, rfl, Nat.le_refl _, s.history.state?_last, hprobe, hprojection⟩, hs.waiting, ?_⟩
      refine ⟨fun _ => ?_, fun hstale => Freshness.noConfusion hstale⟩
      exact ⟨s.history.last, s.history.newest, hcall, s.history.state?_last, hprojection⟩
  | @probeMoved call token hphase hprobe hmoved =>
      have hcall := hs.phase
      rw [PhaseInv, hphase] at hcall
      exact ⟨hs.loaded.of_undisturbed (undisturbed_of_eq rfl rfl rfl rfl), hs.waiting,
        hcall, Nat.le_refl _⟩
  | @loadFailed call probe hphase => exact inv_fail hs call
  | @snapshot call probe hphase =>
      have hcall := hs.phase
      rw [PhaseInv, hphase] at hcall
      exact ⟨hs.loaded.of_undisturbed (undisturbed_of_eq rfl rfl rfl rfl), hs.waiting,
        hcall.1, hcall.2, Nat.le_refl _⟩
  | @readFailed call probe loaded hphase => exact inv_fail hs call
  | @loaded call probe loaded db rows snapshot hphase hdb hrows hload =>
      have hcall := hs.phase
      rw [PhaseInv, hphase] at hcall
      have hprojection : ProjectionOf py db (loadedStore s.store snapshot) :=
        ⟨rows, hrows, snapshot, hload, sameProjected_loadedStore _ s.store snapshot⟩
      have htoken : db.trustState = some snapshot.token := by
        cases hdbToken : db.trustState with
        | none => rw [hdbToken] at hload; cases hload
        | some token =>
            rw [hdbToken] at hload
            obtain ⟨rfl, -⟩ := loadTrustSnapshot_eq_ok_iff.mp hload
            rfl
      refine ⟨.inr ⟨snapshot.token, ⟨call.now, probe⟩, loaded, db, rfl, rfl, rfl, hcall.2.1, hdb,
        htoken, hprojection⟩, hs.waiting, ?_⟩
      refine ⟨fun _ => ?_, fun hstale => Freshness.noConfusion hstale⟩
      exact ⟨loaded, db, Nat.le_trans hcall.1 hcall.2.1, hdb, hprojection⟩
  | @returned call status hphase =>
      exact ⟨hs.loaded.of_undisturbed (undisturbed_of_eq rfl rfl rfl rfl), hs.waiting, trivial⟩

/-- **RUN**: the invariant holds in every reachable state. -/
theorem inv_reachable {s : System Governance} (hs : Reachable py s) : Inv py s := by
  induction hs with
  | start db maxStalenessSeconds clock hstore =>
      exact ⟨.inl ⟨rfl, rfl, rfl, hstore⟩, fun call hcall => absurd hcall List.not_mem_nil,
        trivial⟩
  | step hs hstep ih => exact inv_step ih hstep

/-! ## What the calls return -/

/-- The step completes a refresh: the deadline counts from that call. -/
def Completes (s' : System Governance) : Prop :=
  ∃ call status probe, s'.phase = .closing call status ∧ (status = .fresh ∨ status = .reused)
    ∧ s'.manager.lastSuccess = some call.now ∧ s'.lastRefresh = some ⟨call.now, probe⟩

/-- **DEADLINE**: a step completes a refresh, or leaves manager, last refresh and
    projected entries alone. -/
theorem step_deadline {s s' : System Governance} {event : Option (Call × Freshness)}
    (hstep : Step py s event s') :
    Completes s'
      ∨ s'.manager = s.manager ∧ s'.lastRefresh = s.lastRefresh
        ∧ SameProjected s.store s'.store := by
  cases hstep with
  | ephemeral hsame => exact .inr ⟨rfl, rfl, hsame⟩
  | @probeReused call token hphase hprobe hsame =>
      exact .inl ⟨call, .reused, s.history.last, rfl, .inr rfl, rfl, rfl⟩
  | @loaded call probe loaded db rows snapshot hphase hdb hrows hload =>
      exact .inl ⟨call, .fresh, probe, rfl, .inl rfl, rfl, rfl⟩
  | _ => exact .inr ⟨rfl, rfl, .refl _⟩

/-- **FRESHNESS**: in every run the projected entries are those of one committed
    state, or none were loaded yet; only a step that completes a refresh moves
    the deadline or the projected entries; and every call that returns keeps its
    promise. -/
theorem ensureFresh_sound (py : PyRuntime) (s : System Governance) (hs : Reachable py s) :
    (SameProjected .empty s.store ∨ HoldsSince py s 0)
      ∧ ∀ event s', Step py s event s' →
        (Completes s'
          ∨ s'.manager = s.manager ∧ s'.lastRefresh = s.lastRefresh
            ∧ SameProjected s.store s'.store)
          ∧ ∀ call status, event = some (call, status) → Promise py s' call status := by
  have hinv := inv_reachable hs
  refine ⟨?_, fun event s' hstep => ⟨step_deadline hstep, fun call status hevent => ?_⟩⟩
  · rcases hinv.loaded with ⟨-, -, -, hempty⟩
      | ⟨token, refresh, n, db, -, -, -, -, hdb, -, hprojection⟩
    · exact .inl hempty
    · exact .inr ⟨n, db, Nat.zero_le n, hdb, hprojection⟩
  · subst hevent
    cases hstep with
    | inert hclock =>
        refine ⟨fun hfresh => ?_, fun hstale => Freshness.noConfusion hstale⟩
        rcases hfresh with h | h <;> cases h
    | returned hphase =>
        have hpromise := hinv.phase
        rw [PhaseInv, hphase] at hpromise
        exact Promise.of_undisturbed (undisturbed_of_eq rfl rfl rfl rfl) hpromise

/-! ## A stale answer -/

/-- A call that finds the manager idle gets as far as its probe. -/
theorem reachable_probeMoved {s : System Governance} (hs : Reachable py s)
    (hphase : s.phase = .idle) (hwaiting : s.waiting = []) {now : Int} (hclock : s.clock ≤ now)
    {token : TrustStateToken} (hprobe : s.history.newest.trustState = some token)
    (hmoved : s.manager.token ≠ some token) :
    Reachable py
      { s with
        clock := now
        waiting := []
        phase := .loading ⟨now, s.history.last⟩ s.history.last
        lastProbe := some ⟨now, s.history.last⟩ } := by
  have hcall := hs.step (.call hclock)
  rw [hwaiting] at hcall
  exact (((hcall.step (.acquire hphase rfl)).step (.connected rfl)).step
    (.probeMoved rfl hprobe hmoved))

/-- From an idle manager, a call that probes a new token and loads leaves it idle,
    refreshed. -/
theorem exists_refreshed {s : System Governance} (hs : Reachable py s) (hphase : s.phase = .idle)
    (hwaiting : s.waiting = []) {now : Int} (hclock : s.clock ≤ now) {token : TrustStateToken}
    (hprobe : s.history.newest.trustState = some token) (hmoved : s.manager.token ≠ some token)
    {rows : FetchedRows} (hrows : rows.Of s.history.newest) {snapshot : TrustSnapshot}
    (hload : loadTrustSnapshot py s.history.newest.trustState rows = .ok snapshot) :
    ∃ s', Reachable py s' ∧ s'.phase = .idle ∧ s'.waiting = [] ∧ s'.clock = now
      ∧ s'.history = s.history ∧ s'.store = loadedStore s.store snapshot
      ∧ s'.manager
        = { s.manager with token := some snapshot.token, lastSuccess := some now } := by
  have hprobed := reachable_probeMoved hs hphase hwaiting hclock hprobe hmoved
  have hloaded := (hprobed.step (.snapshot rfl)).step
    (.loaded rfl s.history.state?_last hrows hload)
  exact ⟨_, hloaded.step (.returned rfl), rfl, rfl, rfl, rfl, rfl, rfl⟩

/-- From an idle manager, a call that probes a new token and fails to load returns
    what `_degrade` says, over the store as it was. -/
theorem exists_degraded {s : System Governance} (hs : Reachable py s) (hphase : s.phase = .idle)
    (hwaiting : s.waiting = []) {now : Int} (hclock : s.clock ≤ now) {token : TrustStateToken}
    (hprobe : s.history.newest.trustState = some token)
    (hmoved : s.manager.token ≠ some token) :
    ∃ s₁ s', Reachable py s₁
      ∧ Step py s₁ (some (⟨now, s.history.last⟩, degrade s.manager now)) s'
      ∧ s'.lastProbe = some ⟨now, s.history.last⟩ ∧ s'.history = s.history
      ∧ s'.store = s.store := by
  have hprobed := reachable_probeMoved hs hphase hwaiting hclock hprobe hmoved
  exact ⟨_, _, hprobed.step (.loadFailed rfl), .returned rfl, rfl, rfl, rfl⟩

/-- A projected record of a projection comes from an issuer row. -/
theorem ProjectionOf.issuer {db : Database} {store : ScannerTrustStore Governance ProjectionDefect}
    (h : ProjectionOf py db store) {issuerId : String} {record : IssuerRecord}
    (hrecord : projectedIssuer store issuerId = some record) :
    ∃ row ∈ db.issuers, row.key.issuerId = issuerId
      ∧ issuerProjection row.enrollmentStatus = some record.status := by
  obtain ⟨rows, hrows, snapshot, hload, hsame⟩ := h
  rw [← hsame.issuers issuerId] at hrecord
  obtain ⟨hget, -⟩ := Option.filter_eq_some_iff.mp hrecord
  cases htoken : db.trustState with
  | none => rw [htoken] at hload; cases hload
  | some token =>
      rw [htoken] at hload
      obtain ⟨rfl, -⟩ := loadTrustSnapshot_eq_ok_iff.mp hload
      rcases OrderedMap.mem_of_get?_setAll hget with hmem | ⟨hold, -⟩
      · obtain ⟨row, hrow, hid, hloaded⟩ := (mem_loadedRecords hrows).mp hmem
        obtain ⟨status, hstatus, rfl⟩ := Option.map_eq_some_iff.mp hloaded
        exact ⟨row, hrow, hid, hstatus⟩
      · cases hold

/-- The values of the database server in the run. -/
def sampleValues : ServerValues := ⟨.utc 0, "epoch", 0⟩

/-- The issuer of the sole database is revoked. -/
def sampleRevocation : GovernanceMutation :=
  buildIssuerStatusUpdateMutation ⟨"root:demo", "a", "issuer:acme"⟩ "revoked"

/-- A run in which a refresh completes, the issuer is revoked, and the next call
    probes the new token, fails to load, and serves stale. -/
theorem exists_staleServed_run :
    ∃ (s s' : System Unit) (call : Call) (probe : Sighting),
      Reachable sampleRuntime s ∧ Step sampleRuntime s (some (call, .staleServed)) s'
        ∧ s'.lastProbe = some probe
        ∧ (∀ n db, probe.state ≤ n → s'.history.state? n = some db →
            db.issuers = [sampleIssuer "a" "revoked"])
        ∧ (projectedIssuer s'.store "issuer:acme").map IssuerRecord.status = some .active := by
  have hactive : (loadTrustSnapshot sampleRuntime soleDatabase.trustState
      (fetchInOrder soleDatabase)).toOption.map (fun snapshot =>
        ((projectedIssuer (loadedStore (.empty : ScannerTrustStore Unit _) snapshot)
          "issuer:acme").map IssuerRecord.status, snapshot.token))
      = some (some .active, ⟨"epoch", 1⟩) := by decide +kernel
  obtain ⟨snapshot, hload, hsnapshot⟩ := Option.map_eq_some_iff.mp hactive
  obtain ⟨hstatus, htoken⟩ := Prod.mk.inj hsnapshot
  have hcommit : (recordGovernanceMutation sampleValues sampleRevocation
      soleDatabase).toOption.map (fun db => (db.issuers, db.trustState))
      = some ([sampleIssuer "a" "revoked"], some ⟨"epoch", 2⟩) := by decide +kernel
  obtain ⟨revoked, hrevoked, hfields⟩ := Option.map_eq_some_iff.mp hcommit
  obtain ⟨hissuers, hrevokedToken⟩ := Prod.mk.inj hfields
  -- the first call completes its refresh
  have hstart : Reachable sampleRuntime
      (System.start soleDatabase 60 0 (.empty : ScannerTrustStore Unit _)) :=
    .start soleDatabase 60 0 (.refl _)
  obtain ⟨s₁, hs₁, hidle, hqueue, hclock, hhistory, hstore, hmanager⟩ :=
    exists_refreshed hstart rfl rfl (Int.le_refl 0) rfl (Option.some_ne_none _).symm
      (fetchInOrder_of soleDatabase) (toOption_eq_some_iff.mp hload)
  -- the revocation commits, and the second call fails to load it
  have hcommitted : recordGovernanceMutation sampleValues sampleRevocation s₁.history.newest
      = .ok revoked := by
    rw [hhistory]
    exact toOption_eq_some_iff.mp hrevoked
  have hs₂ := hs₁.step (.mutate (.issuerStatusUpdate _ _) hcommitted)
  obtain ⟨s₃, s', hs₃, hstep, hprobe, hhistory', hstore'⟩ :=
    exists_degraded hs₂ hidle hqueue (Int.le_of_eq hclock) hrevokedToken (by
      show s₁.manager.token ≠ _
      rw [hmanager, htoken]
      decide)
  have hdegrade : degrade s₁.manager 0 = .staleServed := by
    rw [hmanager]
    rfl
  refine ⟨s₃, s', ⟨0, _⟩, _, hs₃, hdegrade ▸ hstep, hprobe, fun n db hle hdb => ?_, ?_⟩
  · rw [hhistory'] at hdb
    obtain rfl := Nat.le_antisymm (History.le_last_of_state? hdb) hle
    rw [History.state?_last] at hdb
    obtain rfl := Option.some.inj hdb
    exact hissuers
  · rw [hstore']
    show (projectedIssuer s₁.store "issuer:acme").map IssuerRecord.status = some .active
    rw [hstore]
    exact hstatus

/-- Serving stale after a probe that read a new token, the store does not hold
    the projection of the state that probe saw, nor of a later one. -/
theorem staleServed_behind_probe :
    ∃ (s s' : System Unit) (call : Call) (probe : Sighting),
      Reachable sampleRuntime s ∧ Step sampleRuntime s (some (call, .staleServed)) s'
        ∧ s'.lastProbe = some probe ∧ ¬ HoldsSince sampleRuntime s' probe.state := by
  obtain ⟨s, s', call, probe, hreach, hstep, hprobe, hrevoked, hactive⟩ := exists_staleServed_run
  refine ⟨s, s', call, probe, hreach, hstep, hprobe, ?_⟩
  rintro ⟨n, db, hle, hdb, hprojection⟩
  obtain ⟨record, hrecord, hstatus⟩ := Option.map_eq_some_iff.mp hactive
  obtain ⟨row, hrow, -, hrowStatus⟩ := hprojection.issuer hrecord
  rw [hrevoked n db hle hdb] at hrow
  obtain rfl := List.mem_singleton.mp hrow
  rw [hstatus] at hrowStatus
  exact absurd hrowStatus (by decide)

/-- In that run the stale answer keeps its promise: the last completed refresh is
    within the budget, and the store holds what it saw. -/
theorem ensureFresh_sound_staleServed :
    ∃ (s s' : System Unit) (call : Call) (refresh : Sighting),
      Step sampleRuntime s (some (call, .staleServed)) s' ∧ s'.lastRefresh = some refresh
        ∧ call.now - refresh.time ≤ s'.manager.maxStalenessSeconds * 1000000
        ∧ HoldsSince sampleRuntime s' refresh.state := by
  obtain ⟨s, s', call, probe, hreach, hstep, -⟩ := exists_staleServed_run
  obtain ⟨refresh, hrefresh⟩ :=
    (((ensureFresh_sound sampleRuntime s hreach).2 _ s' hstep).2 call .staleServed rfl).2 rfl
  exact ⟨s, s', call, refresh, hstep, hrefresh⟩

end ProjectionFreshness
