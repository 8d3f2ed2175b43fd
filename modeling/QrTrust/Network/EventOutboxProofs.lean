import QrTrust.Network.EventOutbox
import QrTrust.Network.WorkQueueProofs

/-! # Lease and quarantine of the event outbox

    The statements of the outbox workers name rows and nothing else, so a worker
    whose lease has run out can still overwrite what others made of its rows, an
    operator included (`late_report_unpublishes`, `late_report_lifts_quarantine`).
    Where nobody takes a row from a worker that is still at work on it, the rows
    belong to their holders (`lease_safe`) and a quarantine lasts until it is
    lifted (`quarantine_lasts`). -/

namespace EventOutbox

open WorkQueue

/-! ## Leases -/

/-- **LEASE SAFETY**: in every run of workers in which no claim takes a row from
    a worker that still has it in its batch, a published row was handed to the
    publisher with success and stays published, and a row changes only under the
    lease of the worker whose step it is. -/
theorem lease_safe {s : OutboxState} {actions earlier before : List (Action OutboxEvent Unit)}
    {action : Action OutboxEvent Unit} (hrest : AtRest s)
    (hworkers : ∀ action ∈ actions, action.isOperator = false)
    (hmeets : (WorkQueue.machine OutboxEvent Unit eventOutbox).EachMeets
      (Undisturbed eventOutbox) s actions)
    (hstep : before ++ [action] <+: actions) (hearlier : earlier <+: before) :
    let M := WorkQueue.machine OutboxEvent Unit eventOutbox
    LeaseSafe eventOutbox (M.applyAll s before) action
      ∧ ∀ key, (M.applyAll s earlier).status? key = some .done →
          (M.applyAll s before).status? key = some .done := by
  intro M
  refine ⟨leaseSafe_run hrest hworkers hmeets hstep, fun key hdone => ?_⟩
  obtain ⟨row, hrow, hstatus⟩ := Option.map_eq_some_iff.mp hdone
  have hlater := done_run hrest.idle (fun a ha => leavesDone_of_worker (hworkers a ha)) hmeets
    ((List.prefix_append ..).trans hstep) hearlier hrow hstatus
  rw [State.status?, hlater, Option.map_some, hstatus]

/-- An outbox with one event, and no worker at work. -/
def oneEvent : OutboxState where
  rows := (OrderedMap.empty).set "outbox_1"
    (newRow ⟨"evt_1", "destination_policy_shop_v1", "sha256:aa", .null⟩ 0)
  workers _ := .idle
  processed := []

theorem oneEvent_atRest : AtRest oneEvent where
  idle _ := rfl
  done key h := by
    obtain ⟨row, hrow, hstatus⟩ := Option.map_eq_some_iff.mp h
    rw [oneEvent, OrderedMap.get?_set] at hrow
    split at hrow
    · obtain rfl := Option.some.inj hrow
      cases hstatus
    · cases hrow

/-- A worker claims the event with the default lease. -/
def claimsEvent (worker : String) (now : Rat) : Action OutboxEvent Unit :=
  let options : EventOutboxWorkerOptions := { workerId := worker }
  .claim (options.claimInput now) [] ["outbox_1"]

/-- One worker on its own. -/
theorem lease_safe_oneEvent :
    let M := WorkQueue.machine OutboxEvent Unit eventOutbox
    LeaseSafe eventOutbox
      (M.applyAll oneEvent [claimsEvent "worker_a" 0, .process "worker_a" (.ok ())])
      (.reportDone "worker_a" 10) := by
  have hworkers : ∀ action ∈ [claimsEvent "worker_a" 0, .process "worker_a" (.ok ()),
      .reportDone "worker_a" 10], action.isOperator = false := by decide
  have hmeets : (WorkQueue.machine OutboxEvent Unit eventOutbox).EachMeets
      (Undisturbed eventOutbox) oneEvent [claimsEvent "worker_a" 0, .process "worker_a" (.ok ()),
        .reportDone "worker_a" 10] :=
    ⟨fun _ _ _ => List.not_mem_nil, trivial, trivial, trivial⟩
  exact (lease_safe oneEvent_atRest hworkers hmeets (List.prefix_refl _) List.nil_prefix).1

/-- A second worker takes over an expired lease and publishes the event while the
    first one is still at it. -/
def takeover : List (Action OutboxEvent Unit) :=
  [claimsEvent "worker_a" 0, claimsEvent "worker_b" 30000, .process "worker_b" (.ok ()),
    .reportDone "worker_b" 30001, .process "worker_a" (.error "timeout"),
    .reportDone "worker_a" 30002]

/-- The first worker's late report makes a published event a failed one, which
    the next claim hands to the publisher again. -/
theorem late_report_unpublishes :
    let t := (WorkQueue.machine OutboxEvent Unit eventOutbox).applyAll oneEvent takeover
    t.status? "outbox_1" = some .done
      ∧ t.custody.holder "outbox_1" = none
      ∧ (t.apply eventOutbox (.reportFailed "worker_a")).status? "outbox_1" = some .failed
      ∧ ¬ LeaseSafe eventOutbox t (.reportFailed "worker_a") := by
  intro t
  have hdone : t.status? "outbox_1" = some .done := by decide +kernel
  have hfailed : (t.apply eventOutbox (.reportFailed "worker_a")).status? "outbox_1"
      = some .failed := by decide +kernel
  refine ⟨hdone, by decide +kernel, hfailed, fun hsafe => ?_⟩
  obtain ⟨row, hrow, hstatus⟩ := Option.map_eq_some_iff.mp hdone
  have hkept := hsafe.terminal "outbox_1" row hrow hstatus
  rw [State.status?, hkept, Option.map_some, hstatus] at hfailed
  cases hfailed

/-! ## Quarantine -/

/-- With custody exclusive, only a retry ends a quarantine. -/
theorem quarantined_step {s : OutboxState} {step : Step} (hexclusive : s.custody.Exclusive)
    {key : String} {row : OutboxRow} (hrow : s.rows.get? key = some row)
    (hquarantined : row.status = .quarantined) (hretry : step.retries row.item.eventId = false) :
    ∃ row', (s.apply eventOutbox step.action).rows.get? key = some row'
      ∧ row'.status = .quarantined ∧ row'.item = row.item := by
  obtain ⟨row', hafter, rfl | hchanges⟩ := row_step eventOutbox step.action hrow
  · exact ⟨_, hafter, hquarantined, rfl⟩
  · refine ⟨row', hafter, ?_⟩
    have hnever : ∀ worker, s.custody.holder key ≠ some worker := by
      intro worker hholder
      have hstatus := status_of_holder hholder hrow
      rw [hquarantined] at hstatus
      cases hstatus
    cases step with
    | queue action worker =>
        rw [Step.action] at hchanges
        cases hclaim : action.isClaim with
        | false =>
            obtain ⟨worker, -, hholder⟩ := reported_held hexclusive hclaim worker hchanges
            exact absurd hholder (hnever worker)
        | true =>
            cases hchanges with
            | claimed hidle hperm hmem =>
                have hclaimable := claimable_of_mem hmem hrow
                rw [claimable, hquarantined] at hclaimable
                cases hclaimable
            | _ => cases hclaim
    | remediate request =>
        rw [Step.action] at hchanges
        cases hchanges with
        | operated hchange =>
            rw [remediateRow] at hchange ⊢
            split
            · rename_i hnamed
              rw [Step.retries, decide_eq_true hnamed.1.symm, Bool.true_and] at hretry
              cases haction : request.action with
              | retry =>
                  rw [haction] at hretry
                  cases hretry
              | quarantine => exact ⟨rfl, rfl⟩
            · exact ⟨hquarantined, rfl⟩

/-- A remediation request leaves published events. -/
theorem leavesDone_step (step : Step) : LeavesDone step.action := by
  cases step with
  | queue action worker => exact leavesDone_of_worker worker
  | remediate request =>
      intro key row hdone
      exact if_neg fun hnamed => hnamed.2 hdone

theorem not_mem_nextRows {input : ClaimInput} {locked : List String}
    {rows : Table OutboxEvent Unit} {key : String} {row : OutboxRow}
    (hrow : rows.get? key = some row)
    (h : row.status = .quarantined ∨ row.status = .done) :
    key ∉ nextRows eventOutbox input locked rows := by
  intro hmem
  obtain ⟨row', hrow', hclaimable, -⟩ := mem_nextRows hmem
  rw [hrow] at hrow'
  obtain rfl := Option.some.inj hrow'
  rw [claimable] at hclaimable
  rcases h with h | h
  · rw [h] at hclaimable
    cases hclaimable
  · rw [h] at hclaimable
    cases hclaimable

/-- The step takes no row from a worker that is still at work on it. -/
def Undisturbed (s : OutboxState) (step : Step) : Prop :=
  WorkQueue.Undisturbed eventOutbox s step.action

/-- Custody at every point of a run with operators. -/
theorem exclusive_run {s : OutboxState} {steps earlier : List Step} (hidle : ∀ w, s.inFlight w = [])
    (hmeets : machine.EachMeets Undisturbed s steps) (hearlier : earlier <+: steps) :
    (machine.applyAll s earlier).custody.Exclusive :=
  machine.prefix_invariant (I := fun s => s.custody.Exclusive)
    (fun _ _ hexclusive hundisturbed => exclusive_step hexclusive hundisturbed)
    (Custody.exclusive_of_idle hidle) hmeets earlier hearlier

/-- **QUARANTINE**: in every run of workers and operators in which nobody takes a
    row from a worker that still has it in its batch, an event that is in
    quarantine stays there, out of reach of every claim, until a request to retry
    it; a published event stays as it is, out of reach of every claim. -/
theorem quarantine_lasts {s : OutboxState} {steps earlier between : List Step} {key : String}
    {row : OutboxRow} (hidle : ∀ worker, s.inFlight worker = [])
    (hmeets : machine.EachMeets Undisturbed s steps) (hsteps : earlier ++ between <+: steps)
    (hrow : (machine.applyAll s earlier).rows.get? key = some row) :
    let later := machine.applyAll s (earlier ++ between)
    (row.status = .quarantined → (∀ step ∈ between, step.retries row.item.eventId = false) →
        later.status? key = some .quarantined
          ∧ ∀ input locked, key ∉ nextRows eventOutbox input locked later.rows)
      ∧ (row.status = .done → later.rows.get? key = some row
          ∧ ∀ input locked, key ∉ nextRows eventOutbox input locked later.rows) := by
  intro later
  have hlater : later = machine.applyAll (machine.applyAll s earlier) between :=
    machine.applyAll_append ..
  have hexclusive := exclusive_run hidle hmeets ((List.prefix_append ..).trans hsteps)
  obtain ⟨after, rfl⟩ := hsteps
  have hbetween := hmeets.left.rest
  rw [hlater]
  constructor
  · intro hquarantined hretry
    have hinv := machine.prefix_invariant
      (I := fun s => s.custody.Exclusive ∧ ∃ row', s.rows.get? key = some row'
        ∧ row'.status = .quarantined ∧ row'.item = row.item)
      (fun s step hinv hmeets => by
        obtain ⟨hexclusive, row', hrow', hstatus, hitem⟩ := hinv
        have hretry := hmeets.2
        refine ⟨exclusive_step hexclusive hmeets.1, ?_⟩
        rw [← hitem] at hretry ⊢
        exact quarantined_step hexclusive hrow' hstatus hretry)
      ⟨hexclusive, row, hrow, hquarantined, rfl⟩ (hbetween.and_forall hretry) between
      (List.prefix_refl _)
    obtain ⟨-, row', hrow', hstatus, -⟩ := hinv
    refine ⟨?_, fun input locked => not_mem_nextRows hrow' (.inl hstatus)⟩
    rw [State.status?, hrow', Option.map_some, hstatus]
  · intro hdone
    have hinv := machine.prefix_invariant
      (I := fun s => s.custody.Exclusive ∧ s.rows.get? key = some row)
      (fun s step hinv hundisturbed =>
        ⟨exclusive_step hinv.1 hundisturbed,
          done_step hinv.1 (leavesDone_step step) hinv.2 hdone⟩)
      ⟨hexclusive, hrow⟩ hbetween between (List.prefix_refl _)
    exact ⟨hinv.2, fun input locked => not_mem_nextRows hinv.2 (.inr hdone)⟩

/-- A request of an operator for the event. -/
def remediates (action : OutboxEventRemediationAction) : Step :=
  .remediate ⟨"evt_1", action, none⟩

/-- A quarantine of an event that waits, and a claim after it. -/
theorem quarantine_lasts_oneEvent :
    let later := machine.applyAll oneEvent
      [remediates .quarantine, .queue (claimsEvent "worker_a" 0) rfl]
    later.status? "outbox_1" = some .quarantined := by
  have hmeets : machine.EachMeets Undisturbed oneEvent
      [remediates .quarantine, .queue (claimsEvent "worker_a" 0) rfl] :=
    ⟨fun _ _ _ _ _ => List.not_mem_nil, fun _ _ _ => List.not_mem_nil, trivial⟩
  have hrow : (machine.applyAll oneEvent [remediates .quarantine]).rows.get? "outbox_1"
      = some (remediatedRow .quarantine none
        (newRow ⟨"evt_1", "destination_policy_shop_v1", "sha256:aa", .null⟩ 0)) := by
    rfl
  have hlasts := (quarantine_lasts oneEvent_atRest.idle hmeets (List.prefix_refl
    ([remediates .quarantine] ++ [.queue (claimsEvent "worker_a" 0) rfl])) hrow).1
  exact (hlasts rfl (by decide)).1

/-- An operator quarantines an event that a worker is publishing, and the worker
    reports a failure. -/
def quarantinedInFlight : List Step :=
  [.queue (claimsEvent "worker_a" 0) rfl, remediates .quarantine,
    .queue (.process "worker_a" (.error "timeout")) rfl]

/-- The late report lifts the quarantine, and the next claim takes the event. -/
theorem late_report_lifts_quarantine :
    let quarantined := machine.applyAll oneEvent quarantinedInFlight
    let reported := quarantined.apply eventOutbox (.reportFailed "worker_a")
    quarantined.status? "outbox_1" = some .quarantined
      ∧ reported.status? "outbox_1" = some .failed
      ∧ (reported.apply eventOutbox (claimsEvent "worker_b" 40000)).inFlight "worker_b"
        = ["outbox_1"] := by
  decide +kernel

end EventOutbox
