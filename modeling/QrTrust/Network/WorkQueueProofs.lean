import QrTrust.Lib.Custody
import QrTrust.Network.WorkQueue

/-! # Who changes a row of a work queue

    The report statements name the rows of a batch and nothing else: not the
    worker, not its claim.  What keeps them honest is that nobody takes a row out
    of the hands of a worker that is still at work (`Undisturbed`).  Then custody
    of the rows is exclusive at every point of a run (`exclusive_step`), and a
    report changes rows only that its worker holds (`reported_held`). -/

namespace WorkQueue

variable {α ρ : Type} {protocol : Protocol} {s : State α ρ} {action : Action α ρ}

/-! ## What a step does to a row -/

/-- **CHANGES**: the ways in which a step changes a row. -/
inductive Changes (protocol : Protocol) (s : State α ρ) :
    Action α ρ → String → Row α ρ → Row α ρ → Prop
  | claimed {input : ClaimInput} {locked returned : List String} {key : String} {row : Row α ρ} :
      (s.workers input.workerId).isIdle = true →
      returned.Perm (nextRows protocol input locked s.rows) →
      key ∈ nextRows protocol input locked s.rows →
      Changes protocol s (.claim input locked returned) key row (claimRow input row)
  | done {worker : String} {now : Rat} {key : String} {result : ρ} {row : Row α ρ} :
      (s.workers worker).remaining.isEmpty = true →
      (key, result) ∈ (s.workers worker).successes →
      Changes protocol s (.reportDone worker now) key row (doneRow now result row)
  | failed {worker key reason : String} {row : Row α ρ} :
      (s.workers worker).remaining.isEmpty = true →
      (s.workers worker).successes.isEmpty = true →
      protocol.marksFailed = true →
      (key, reason) ∈ (s.workers worker).failures →
      Changes protocol s (.reportFailed worker) key row (failedRow reason row)
  | operated {change : String → Row α ρ → Row α ρ} {key : String} {row : Row α ρ} :
      change key row ≠ row →
      Changes protocol s (.operator change) key row (change key row)

theorem find?_key {ν : Type} {l : List (String × ν)} {key : String} {entry : String × ν}
    (h : l.find? (fun e => e.1 = key) = some entry) : (key, entry.2) ∈ l := by
  have hkey : entry.1 = key := by simpa using List.find?_some h
  rw [← hkey]
  exact List.mem_of_find?_eq_some h

/-- **ONE ROW, ONE STEP**: a row stays in the table, as it was or changed in one
    of those ways. -/
theorem row_step (protocol : Protocol) (action : Action α ρ) {key : String} {row : Row α ρ}
    (h : s.rows.get? key = some row) :
    ∃ row', (s.apply protocol action).rows.get? key = some row'
      ∧ (row' = row ∨ Changes protocol s action key row row') := by
  cases action with
  | enqueue key' item createdAt =>
      refine ⟨row, ?_, .inl rfl⟩
      rw [State.apply]
      split
      · exact h
      · rename_i hcontains
        have hne : key ≠ key' := by
          rintro rfl
          exact hcontains (OrderedMap.contains_iff.mpr (OrderedMap.mem_keys_iff_get?.mpr ⟨row, h⟩))
        exact (OrderedMap.get?_set_ne _ _ hne).trans h
  | claim input locked returned =>
      rw [State.apply]
      split
      · rename_i hdue
        refine ⟨_, (OrderedMap.get?_update ..).trans (congrArg _ h), ?_⟩
        dsimp only
        by_cases hkey : key ∈ nextRows protocol input locked s.rows
        · rw [if_pos hkey]
          exact .inr (.claimed hdue.1 hdue.2 hkey)
        · rw [if_neg hkey]
          exact .inl rfl
      · exact ⟨row, h, .inl rfl⟩
  | process worker outcome =>
      refine ⟨row, ?_, .inl rfl⟩
      rw [State.apply, State.rows_processNext]
      exact h
  | reportDone worker now =>
      rw [State.apply]
      dsimp only
      split
      · rename_i hremaining
        refine ⟨_, (OrderedMap.get?_update ..).trans (congrArg _ h), ?_⟩
        cases hfind : (s.workers worker).successes.find? fun success => success.1 = key with
        | none => exact .inl rfl
        | some success => exact .inr (.done hremaining (find?_key hfind))
      · exact ⟨row, h, .inl rfl⟩
  | reportFailed worker =>
      rw [State.apply]
      dsimp only
      split
      · rename_i hdue
        split
        · rename_i hmarks
          refine ⟨_, (OrderedMap.get?_update ..).trans (congrArg _ h), ?_⟩
          cases hfind : (s.workers worker).failures.find? fun failure => failure.1 = key with
          | none => exact .inl rfl
          | some failure =>
              have hmem := find?_key hfind
              exact .inr (.failed hdue.1 hdue.2 hmarks hmem)
        · exact ⟨row, h, .inl rfl⟩
      · exact ⟨row, h, .inl rfl⟩
  | crash worker => exact ⟨row, h, .inl rfl⟩
  | operator change =>
      refine ⟨_, (OrderedMap.get?_update ..).trans (congrArg _ h), ?_⟩
      by_cases hchange : change key row = row
      · exact .inl hchange
      · exact .inr (.operated hchange)

/-- Only an insert brings a row in, and the row is new. -/
theorem row_born {key : String} {row' : Row α ρ} (h : s.rows.get? key = none)
    (hafter : (s.apply protocol action).rows.get? key = some row') :
    ∃ item createdAt, action = .enqueue key item createdAt ∧ row' = newRow item createdAt := by
  have hupdate : ∀ f, (s.rows.update f).get? key = none := by
    intro f
    rw [OrderedMap.get?_update, h]
    rfl
  cases action with
  | enqueue key' item createdAt =>
      rw [State.apply] at hafter
      split at hafter
      · rw [h] at hafter
        cases hafter
      · dsimp only at hafter
        rw [OrderedMap.get?_set] at hafter
        split at hafter
        · rename_i hkey
          exact ⟨item, createdAt, by rw [hkey], (Option.some.inj hafter).symm⟩
        · rw [h] at hafter
          cases hafter
  | claim input locked returned =>
      rw [State.apply] at hafter
      split at hafter
      · exact absurd ((hupdate _).symm.trans hafter) (Option.some_ne_none _).symm
      · exact absurd (h.symm.trans hafter) (Option.some_ne_none _).symm
  | process worker outcome =>
      rw [State.apply, State.rows_processNext, h] at hafter
      cases hafter
  | reportDone worker now =>
      rw [State.apply] at hafter
      dsimp only at hafter
      split at hafter
      · exact absurd ((hupdate _).symm.trans hafter) (Option.some_ne_none _).symm
      · exact absurd (h.symm.trans hafter) (Option.some_ne_none _).symm
  | reportFailed worker =>
      rw [State.apply] at hafter
      dsimp only at hafter
      split at hafter
      · split at hafter
        · exact absurd ((hupdate _).symm.trans hafter) (Option.some_ne_none _).symm
        · exact absurd (h.symm.trans hafter) (Option.some_ne_none _).symm
      · exact absurd (h.symm.trans hafter) (Option.some_ne_none _).symm
  | crash worker => exact absurd (h.symm.trans hafter) (Option.some_ne_none _).symm
  | operator change => exact absurd ((hupdate _).symm.trans hafter) (Option.some_ne_none _).symm

/-! ## Custody -/

namespace State

/-- The status of a row. -/
def status? (s : State α ρ) (key : String) : Option RowStatus :=
  (s.rows.get? key).map Row.status

/-- Who holds the lease of a row, and what each worker has in its hands. -/
def custody (s : State α ρ) : Custody String String where
  holder key := (s.rows.get? key).bind fun row =>
    if row.status = .inProgress then row.claimedBy else none
  working := s.inFlight

end State

/-- **UNDISTURBED**: the step takes no row out of the hands of a worker that is
    still at work on it. -/
def Undisturbed (protocol : Protocol) (s : State α ρ) : Action α ρ → Prop
  | .claim input locked _ => ∀ key ∈ nextRows protocol input locked s.rows, s.custody.Free key
  | .operator change =>
      ∀ key row, s.rows.get? key = some row → change key row ≠ row → s.custody.Free key
  | _ => True

theorem holder_eq {key worker : String} (h : s.custody.holder key = some worker) :
    ∃ row, s.rows.get? key = some row ∧ row.status = .inProgress
      ∧ row.claimedBy = some worker := by
  obtain ⟨row, hrow, hholder⟩ := Option.bind_eq_some_iff.mp h
  split at hholder
  · rename_i hstatus
    exact ⟨row, hrow, hstatus, hholder⟩
  · cases hholder

/-- A row that a step leaves has the holder it had. -/
theorem holder_unchanged {key : String}
    (h : ∀ row row', s.rows.get? key = some row → ¬ Changes protocol s action key row row') :
    (s.apply protocol action).custody.holder key = s.custody.holder key := by
  show Option.bind _ _ = Option.bind _ _
  cases hrow : s.rows.get? key with
  | some row =>
      obtain ⟨row', hafter, rfl | hchanges⟩ := row_step protocol action hrow
      · rw [hafter]
      · exact absurd hchanges (h row row' hrow)
  | none =>
      cases hafter : (s.apply protocol action).rows.get? key with
      | none => rfl
      | some row' =>
          obtain ⟨item, createdAt, -, rfl⟩ := row_born hrow hafter
          rfl

theorem mem_nextRows {input : ClaimInput} {locked : List String} {rows : Table α ρ} {key : String}
    (h : key ∈ nextRows protocol input locked rows) :
    ∃ row, rows.get? key = some row ∧ claimable protocol input row = true
      ∧ key ∉ locked := by
  obtain ⟨⟨key', row⟩, hmem, rfl⟩ := List.mem_map.mp h
  have hsorted := List.mem_of_mem_take hmem
  rw [List.mem_insertionSort, List.mem_filter, Bool.and_eq_true] at hsorted
  obtain ⟨hentry, hclaimable, hlocked⟩ := hsorted
  exact ⟨row, (OrderedMap.get?_eq_some_iff ..).mpr hentry, hclaimable, by simpa using hlocked⟩

theorem nodup_nextRows {input : ClaimInput} {locked : List String} {rows : Table α ρ} :
    (nextRows protocol input locked rows).Nodup := by
  rw [nextRows, List.map_take]
  refine List.Nodup.sublist (List.take_sublist _ _) ?_
  refine ((List.perm_insertionSort precedes _).map Prod.fst).nodup_iff.mpr ?_
  exact rows.nodup.sublist (List.filter_sublist.map _)

theorem get?_claimRows {input : ClaimInput} {locked : List String} {rows : Table α ρ}
    (key : String) : (claimRows protocol input locked rows).get? key
      = if key ∈ nextRows protocol input locked rows then (rows.get? key).map (claimRow input)
        else rows.get? key := by
  rw [claimRows, OrderedMap.get?_update]
  split
  · rfl
  · exact Option.map_id'

/-! ## What a step leaves in the hands of the workers -/

theorem inFlight_setWorker (worker : String) (batch : WorkerState ρ) :
    (s.setWorker worker batch).inFlight = Function.update s.inFlight worker batch.inFlight := by
  funext w
  show WorkerState.inFlight (Function.update s.workers worker batch w) = _
  by_cases hw : w = worker
  · rw [hw, Function.update_self, Function.update_self]
  · rw [Function.update_of_ne hw, Function.update_of_ne hw]
    rfl

/-- Another batch of one worker, part of the one it had. -/
theorem setWorker_subperm {worker : String} {batch : WorkerState ρ}
    (h : batch.inFlight.Subperm (s.inFlight worker)) (w : String) :
    ((s.setWorker worker batch).inFlight w).Subperm (s.inFlight w) := by
  rw [inFlight_setWorker]
  by_cases hw : w = worker
  · rw [hw, Function.update_self]
    exact h
  · rw [Function.update_of_ne hw]

/-- Processing a row only moves it from one part of the batch to another. -/
theorem processNext_subperm (worker : String) (outcome : Except String ρ) (w : String) :
    ((s.processNext worker outcome).inFlight w).Subperm (s.inFlight w) := by
  rw [State.processNext]
  cases hremaining : (s.workers worker).remaining with
  | nil => exact .refl _
  | cons key rest =>
      have hbefore : s.inFlight worker = key :: rest
          ++ ((s.workers worker).successes.map Prod.fst
            ++ (s.workers worker).failures.map Prod.fst) := by
        rw [State.inFlight, WorkerState.inFlight, hremaining]
      cases outcome with
      | ok result =>
          refine setWorker_subperm (List.Perm.subperm ?_) w
          rw [hbefore, WorkerState.inFlight, List.map_append, List.map_singleton,
            List.append_assoc, List.singleton_append, ← List.append_assoc]
          exact List.perm_middle.trans (by rw [List.append_assoc, List.cons_append])
      | error reason =>
          refine setWorker_subperm (List.Perm.subperm ?_) w
          rw [hbefore, WorkerState.inFlight, List.map_append, List.map_singleton,
            ← List.append_assoc, ← List.append_assoc]
          exact (List.perm_append_singleton ..).trans
            (by rw [List.append_assoc, List.cons_append])

theorem idle_subperm (worker : String) (w : String) :
    ((s.setWorker worker .idle).inFlight w).Subperm (s.inFlight w) :=
  have hempty : (WorkerState.idle : WorkerState ρ).inFlight.Subperm (s.inFlight worker) :=
    List.nil_subperm
  setWorker_subperm hempty w

/-- **RELEASE**: apart from a claim, no step puts a row in anybody's hands. -/
theorem inFlight_release (h : action.isClaim = false) (w : String) :
    ((s.apply protocol action).inFlight w).Subperm (s.inFlight w) := by
  cases action with
  | enqueue key item createdAt =>
      rw [State.apply]
      split
      · exact .refl _
      · exact .refl _
  | claim input locked returned => cases h
  | process worker outcome => exact processNext_subperm worker outcome w
  | reportDone worker now =>
      rw [State.apply]
      dsimp only
      split
      · refine setWorker_subperm (List.Sublist.subperm ?_) w
        exact (List.sublist_append_right _ _).append_left _
      · exact .refl _
  | reportFailed worker =>
      rw [State.apply]
      dsimp only
      split
      · split
        · exact idle_subperm worker w
        · exact idle_subperm worker w
      · exact .refl _
  | crash worker => exact idle_subperm worker w
  | operator change => exact .refl _

theorem mem_inFlight_success {worker key : String} {result : ρ}
    (h : (key, result) ∈ (s.workers worker).successes) : key ∈ s.inFlight worker :=
  List.mem_append_right _ (List.mem_append_left _ (List.mem_map.mpr ⟨_, h, rfl⟩))

theorem mem_inFlight_failure {worker key reason : String}
    (h : (key, reason) ∈ (s.workers worker).failures) : key ∈ s.inFlight worker :=
  List.mem_append_right _ (List.mem_append_right _ (List.mem_map.mpr ⟨_, h, rfl⟩))

/-- **LEFT ALONE**: a row that a step changes without a claim is in nobody's hands
    afterwards. -/
theorem changed_free (hexclusive : s.custody.Exclusive) (hundisturbed : Undisturbed protocol s action)
    (hclaim : action.isClaim = false) {key : String} {row row' : Row α ρ}
    (hrow : s.rows.get? key = some row) (h : Changes protocol s action key row row') :
    (s.apply protocol action).custody.Free key := by
  intro w hmem
  have hbefore : key ∈ s.inFlight w := (inFlight_release hclaim w).subset hmem
  cases h with
  | claimed hidle hperm hnext => cases hclaim
  | @done worker now _ result _ hremaining hsuccess =>
      obtain rfl : w = worker := hexclusive.unique hbefore (mem_inFlight_success hsuccess)
      have hnodup : (s.inFlight w).Nodup := hexclusive.nodup w
      rw [State.inFlight, WorkerState.inFlight, List.isEmpty_iff.mp hremaining, List.nil_append]
        at hnodup
      -- the report keeps the failures of the batch, and no success is one of them
      have hkept : key ∈ (s.workers w).failures.map Prod.fst := by
        have hstep : (s.apply protocol (.reportDone w now)).inFlight w
            = (s.workers w).failures.map Prod.fst := by
          rw [State.apply]
          dsimp only
          rw [if_pos hremaining]
          show (State.setWorker s w _).inFlight w = _
          rw [inFlight_setWorker, Function.update_self, WorkerState.inFlight,
            List.isEmpty_iff.mp hremaining]
          rfl
        exact hstep ▸ hmem
      exact (List.disjoint_of_nodup_append hnodup)
        (List.mem_map.mpr ⟨(key, result), hsuccess, rfl⟩) hkept
  | @failed worker _ reason _ hremaining hsuccesses hmarks hfailure =>
      obtain rfl : w = worker := hexclusive.unique hbefore (mem_inFlight_failure hfailure)
      have hstep : (s.apply protocol (.reportFailed w)).inFlight w = [] := by
        rw [State.apply]
        dsimp only
        rw [if_pos ⟨hremaining, hsuccesses⟩, if_pos hmarks]
        show (State.setWorker s w _).inFlight w = _
        rw [inFlight_setWorker, Function.update_self]
        rfl
      have hkept : key ∈ (s.apply protocol (.reportFailed w)).inFlight w := hmem
      rw [hstep] at hkept
      exact List.not_mem_nil hkept
  | operated hchange => exact hundisturbed key row hrow hchange w hbefore

/-! ## Custody stays exclusive -/

/-- A claim puts what it took into the hands of its worker. -/
theorem inFlight_claim {input : ClaimInput} {locked returned : List String}
    (hidle : (s.workers input.workerId).isIdle = true)
    (hperm : returned.Perm (nextRows protocol input locked s.rows)) :
    (s.apply protocol (.claim input locked returned)).inFlight
      = Function.update s.inFlight input.workerId returned := by
  have hbatch : WorkerState.inFlight (⟨returned, [], []⟩ : WorkerState ρ) = returned :=
    List.append_nil returned
  rw [State.apply, if_pos ⟨hidle, hperm⟩]
  exact (inFlight_setWorker ..).trans (by rw [hbatch])

/-- A row that a claim takes. -/
theorem get?_of_claim {input : ClaimInput} {locked returned : List String} {key : String}
    {row : Row α ρ} (hidle : (s.workers input.workerId).isIdle = true)
    (hperm : returned.Perm (nextRows protocol input locked s.rows))
    (hnext : key ∈ nextRows protocol input locked s.rows) (hrow : s.rows.get? key = some row) :
    (s.apply protocol (.claim input locked returned)).rows.get? key
      = some (claimRow input row) := by
  rw [State.apply, if_pos ⟨hidle, hperm⟩]
  show (claimRows protocol input locked s.rows).get? key = _
  rw [get?_claimRows, if_pos hnext, hrow, Option.map_some]

theorem holder_of_claim {input : ClaimInput} {locked returned : List String} {key : String}
    {row : Row α ρ} (hidle : (s.workers input.workerId).isIdle = true)
    (hperm : returned.Perm (nextRows protocol input locked s.rows))
    (hnext : key ∈ nextRows protocol input locked s.rows) (hrow : s.rows.get? key = some row) :
    (s.apply protocol (.claim input locked returned)).custody.holder key
      = some input.workerId := by
  show Option.bind ((s.apply protocol (.claim input locked returned)).rows.get? key) _ = _
  rw [get?_of_claim hidle hperm hnext hrow]
  rfl

/-- A claim of rows that nobody works on keeps custody exclusive. -/
theorem claim_exclusive {input : ClaimInput} {locked returned : List String}
    (hexclusive : s.custody.Exclusive)
    (hfree : ∀ key ∈ nextRows protocol input locked s.rows, s.custody.Free key)
    (hidle : (s.workers input.workerId).isIdle = true)
    (hperm : returned.Perm (nextRows protocol input locked s.rows)) :
    (s.apply protocol (.claim input locked returned)).custody.Exclusive := by
  refine hexclusive.take (w := input.workerId) (fun key hkey => hfree key (hperm.mem_iff.mp hkey))
    (hperm.nodup_iff.mpr nodup_nextRows) (inFlight_claim hidle hperm) ?_ ?_
  · intro key hkey
    obtain ⟨row, hrow, -⟩ := mem_nextRows (hperm.mem_iff.mp hkey)
    exact holder_of_claim hidle hperm (hperm.mem_iff.mp hkey) hrow
  · intro key hkey
    rw [State.apply, if_pos ⟨hidle, hperm⟩]
    show Option.bind ((claimRows protocol input locked s.rows).get? key) _ = _
    rw [get?_claimRows, if_neg fun hmem => hkey (hperm.mem_iff.mpr hmem)]
    rfl

/-- **ONE STEP**: an undisturbed step keeps custody exclusive. -/
theorem exclusive_step (hexclusive : s.custody.Exclusive)
    (hundisturbed : Undisturbed protocol s action) :
    (s.apply protocol action).custody.Exclusive := by
  cases hclaim : action.isClaim with
  | false =>
      refine hexclusive.release (fun w => ?_) (fun w => (inFlight_release hclaim w).subset) ?_
      · have hrelease : ((s.apply protocol action).inFlight w).Subperm (s.inFlight w) :=
          inFlight_release hclaim w
        obtain ⟨l, hperm, hsub⟩ := hrelease
        exact hperm.nodup_iff.mp ((hexclusive.nodup w).sublist hsub)
      · intro w key hmem
        refine holder_unchanged fun row row' hrow hchanges => ?_
        exact changed_free hexclusive hundisturbed hclaim hrow hchanges w hmem
  | true =>
      cases action with
      | claim input locked returned =>
          by_cases hdue : (s.workers input.workerId).isIdle
              ∧ returned.Perm (nextRows protocol input locked s.rows)
          · exact claim_exclusive hexclusive hundisturbed hdue.1 hdue.2
          · rw [State.apply, if_neg hdue]
            exact hexclusive
      | _ => cases hclaim

/-- **EVERY POINT OF A RUN**: undisturbed steps keep custody exclusive. -/
theorem exclusive_run {actions before : List (Action α ρ)} (hidle : ∀ w, s.inFlight w = [])
    (hmeets : (machine α ρ protocol).EachMeets (Undisturbed protocol) s actions)
    (hbefore : before <+: actions) :
    ((machine α ρ protocol).applyAll s before).custody.Exclusive :=
  (machine α ρ protocol).prefix_invariant (I := fun s => s.custody.Exclusive)
    (fun _ _ hexclusive hundisturbed => exclusive_step hexclusive hundisturbed)
    (Custody.exclusive_of_idle hidle) hmeets before hbefore

/-! ## Who changes a row -/

/-- A claim takes only claimable rows. -/
theorem claimable_of_mem {input : ClaimInput} {locked : List String} {key : String} {row : Row α ρ}
    (hnext : key ∈ nextRows protocol input locked s.rows) (hrow : s.rows.get? key = some row) :
    claimable protocol input row = true := by
  obtain ⟨row', hrow', hclaimable, -⟩ := mem_nextRows hnext
  rw [hrow] at hrow'
  obtain rfl := Option.some.inj hrow'
  exact hclaimable

/-- **REPORTED BY THE HOLDER**: with custody exclusive, a row in a report is held
    by the worker that reports. -/
theorem reported_held (hexclusive : s.custody.Exclusive) (hclaim : action.isClaim = false)
    (hoperator : action.isOperator = false) {key : String} {row row' : Row α ρ}
    (h : Changes protocol s action key row row') :
    ∃ worker, action.worker? = some worker ∧ s.custody.holder key = some worker := by
  cases h with
  | claimed hidle hperm hnext => cases hclaim
  | done hremaining hsuccess =>
      exact ⟨_, rfl, hexclusive.holds _ _ (mem_inFlight_success hsuccess)⟩
  | failed hremaining hsuccesses hmarks hfailure =>
      exact ⟨_, rfl, hexclusive.holds _ _ (mem_inFlight_failure hfailure)⟩
  | operated hchange => cases hoperator

/-- An operator's statement that leaves the rows that are done. -/
def LeavesDone : Action α ρ → Prop
  | .operator change => ∀ key row, row.status = .done → change key row = row
  | _ => True

theorem leavesDone_of_worker (h : action.isOperator = false) : LeavesDone action := by
  cases action with
  | operator change => cases h
  | _ => trivial

/-- A row that somebody holds is in progress. -/
theorem status_of_holder {worker key : String} {row : Row α ρ}
    (hholder : s.custody.holder key = some worker) (hrow : s.rows.get? key = some row) :
    row.status = .inProgress := by
  obtain ⟨row', hrow', hstatus, -⟩ := holder_eq hholder
  rw [hrow] at hrow'
  obtain rfl := Option.some.inj hrow'
  exact hstatus

/-- **TERMINAL**: with custody exclusive, a row that is done stays as it is. -/
theorem done_step (hexclusive : s.custody.Exclusive) (hleaves : LeavesDone action) {key : String}
    {row : Row α ρ} (hrow : s.rows.get? key = some row) (hdone : row.status = .done) :
    (s.apply protocol action).rows.get? key = some row := by
  obtain ⟨row', hafter, rfl | hchanges⟩ := row_step protocol action hrow
  · exact hafter
  · cases hchanges with
    | claimed hidle hperm hnext =>
        have hclaimable := claimable_of_mem hnext hrow
        rw [claimable, hdone] at hclaimable
        cases hclaimable
    | done hremaining hsuccess =>
        have hheld := hexclusive.holds _ _ (mem_inFlight_success hsuccess)
        exact absurd (hdone.symm.trans (status_of_holder hheld hrow)) RowStatus.noConfusion
    | failed hremaining hsuccesses hmarks hfailure =>
        have hheld := hexclusive.holds _ _ (mem_inFlight_failure hfailure)
        exact absurd (hdone.symm.trans (status_of_holder hheld hrow)) RowStatus.noConfusion
    | operated hchange => exact absurd (hleaves key row hdone) hchange

/-! ## What was processed -/

/-- **HANDED OVER**: rows that are done, and successes still to be reported, were
    processed with success. -/
structure HandedOver (s : State α ρ) : Prop where
  done : ∀ key, s.status? key = some .done → ∃ worker, (worker, key) ∈ s.processed
  successes : ∀ worker key result, (key, result) ∈ (s.workers worker).successes →
    (worker, key) ∈ s.processed

/-- An operator's statement that makes no row done. -/
def NeverCompletes : Action α ρ → Prop
  | .operator change => ∀ key row, (change key row).status = .done → row.status = .done
  | _ => True

theorem workers_setWorker_self (worker : String) (batch : WorkerState ρ) :
    (s.setWorker worker batch).workers worker = batch :=
  Function.update_self ..

theorem workers_setWorker_ne {worker w : String} (batch : WorkerState ρ) (hw : w ≠ worker) :
    (s.setWorker worker batch).workers w = s.workers w :=
  Function.update_of_ne hw ..

theorem success_of_setWorker {worker w : String} {batch : WorkerState ρ} {success : String × ρ}
    (hpart : batch.successes ⊆ (s.workers worker).successes)
    (h : success ∈ ((s.setWorker worker batch).workers w).successes) :
    success ∈ (s.workers w).successes := by
  by_cases hw : w = worker
  · subst hw
    rw [workers_setWorker_self] at h
    exact hpart h
  · rw [workers_setWorker_ne batch hw] at h
    exact h

/-- Processing a row adds at most that row to the successes. -/
theorem success_processNext {worker w key : String} {outcome : Except String ρ} {result : ρ}
    (h : (key, result) ∈ ((s.processNext worker outcome).workers w).successes) :
    (key, result) ∈ (s.workers w).successes
      ∨ (w, key) ∈ (s.processNext worker outcome).processed := by
  rw [State.processNext] at h ⊢
  dsimp only at h ⊢
  cases hremaining : (s.workers worker).remaining with
  | nil =>
      rw [hremaining] at h
      exact .inl h
  | cons next rest =>
      rw [hremaining] at h
      cases outcome with
      | error reason =>
          dsimp only at h
          refine .inl (success_of_setWorker ?_ h)
          exact List.Subset.refl _
      | ok value =>
          dsimp only at h
          by_cases hw : w = worker
          · subst hw
            rw [workers_setWorker_self] at h
            rcases List.mem_append.mp h with hold | hnew
            · exact .inl hold
            · obtain ⟨rfl, -⟩ := Prod.mk.inj (List.mem_singleton.mp hnew)
              exact .inr (List.mem_append_right _ (List.mem_singleton_self _))
          · rw [workers_setWorker_ne _ hw] at h
            exact .inl h

/-- A success to be reported was there before the step, or was processed by it. -/
theorem success_step {w key : String} {result : ρ}
    (h : (key, result) ∈ ((s.apply protocol action).workers w).successes) :
    (key, result) ∈ (s.workers w).successes
      ∨ (w, key) ∈ (s.apply protocol action).processed := by
  cases action with
  | enqueue key' item createdAt =>
      rw [State.apply] at h
      split at h
      · exact .inl h
      · exact .inl h
  | claim input locked returned =>
      rw [State.apply] at h
      split at h
      · exact .inl (success_of_setWorker (List.nil_subset _) h)
      · exact .inl h
  | process worker outcome => exact success_processNext h
  | reportDone worker now =>
      rw [State.apply] at h
      dsimp only at h
      split at h
      · exact .inl (success_of_setWorker (List.nil_subset _) h)
      · exact .inl h
  | reportFailed worker =>
      rw [State.apply] at h
      dsimp only at h
      split at h
      · split at h
        · exact .inl (success_of_setWorker (List.nil_subset _) h)
        · exact .inl (success_of_setWorker (List.nil_subset _) h)
      · exact .inl h
  | crash worker => exact .inl (success_of_setWorker (List.nil_subset _) h)
  | operator change => exact .inl h

/-- **PROCESSED**: a step adds at most one row to what was processed, and it comes
    from the hands of the worker. -/
theorem processed_apply (protocol : Protocol) (s : State α ρ) (action : Action α ρ) :
    (s.apply protocol action).processed = s.processed
      ∨ ∃ worker key, key ∈ s.inFlight worker
        ∧ (s.apply protocol action).processed = s.processed ++ [(worker, key)] := by
  cases action with
  | process worker outcome =>
      rw [State.apply, State.processNext]
      cases hremaining : (s.workers worker).remaining with
      | nil => exact .inl rfl
      | cons key rest =>
          cases outcome with
          | ok result =>
              refine .inr ⟨worker, key, ?_, rfl⟩
              rw [State.inFlight, WorkerState.inFlight, hremaining]
              exact List.mem_append_left _ (List.mem_cons_self ..)
          | error reason => exact .inl rfl
  | claim input locked returned =>
      rw [State.apply]
      split
      · exact .inl rfl
      · exact .inl rfl
  | enqueue key' item createdAt =>
      rw [State.apply]
      split
      · exact .inl rfl
      · exact .inl rfl
  | reportDone worker now =>
      rw [State.apply]
      dsimp only
      split
      · exact .inl rfl
      · exact .inl rfl
  | reportFailed worker =>
      rw [State.apply]
      dsimp only
      split
      · split
        · exact .inl rfl
        · exact .inl rfl
      · exact .inl rfl
  | crash worker => exact .inl rfl
  | operator change => exact .inl rfl

/-- What was processed stays so. -/
theorem processed_step {entry : String × String} (h : entry ∈ s.processed) :
    entry ∈ (s.apply protocol action).processed := by
  rcases processed_apply protocol s action with hsame | ⟨worker, key, -, hmore⟩
  · rw [hsame]
    exact h
  · rw [hmore]
    exact List.mem_append_left _ h

/-- A row that a step adds to what was processed was in the hands of its worker. -/
theorem inFlight_of_processed {worker key : String}
    (h : (s.apply protocol action).processed = s.processed ++ [(worker, key)]) :
    key ∈ s.inFlight worker := by
  rcases processed_apply protocol s action with hsame | ⟨worker', key', hmem, hmore⟩
  · rw [hsame] at h
    simp at h
  · rw [hmore] at h
    obtain ⟨rfl, rfl⟩ := Prod.mk.inj (List.singleton_inj.mp (List.append_cancel_left h))
    exact hmem

/-- **ONE STEP**: whatever the workers do, rows that are done were processed. -/
theorem handedOver_step (hover : HandedOver s) (hnever : NeverCompletes action) :
    HandedOver (s.apply protocol action) where
  done key hdone := by
    obtain ⟨row', hrow', hstatus⟩ := Option.map_eq_some_iff.mp hdone
    cases hrow : s.rows.get? key with
    | none =>
        obtain ⟨item, createdAt, -, rfl⟩ := row_born hrow hrow'
        cases hstatus
    | some row =>
        obtain ⟨row'', hrow'', hcases⟩ := row_step protocol action hrow
        rw [hrow'] at hrow''
        obtain rfl := Option.some.inj hrow''
        have hbefore : row.status = .done →
            ∃ worker, (worker, key) ∈ (s.apply protocol action).processed := by
          intro hdone
          have hkey : s.status? key = some .done := by
            rw [State.status?, hrow, Option.map_some, hdone]
          obtain ⟨worker, hmem⟩ := hover.done key hkey
          exact ⟨worker, processed_step hmem⟩
        rcases hcases with rfl | hchanges
        · exact hbefore hstatus
        · cases hchanges with
          | claimed hidle hperm hnext => cases hstatus
          | done hremaining hsuccess =>
              exact ⟨_, processed_step (hover.successes _ _ _ hsuccess)⟩
          | failed hremaining hsuccesses hmarks hfailure => cases hstatus
          | operated hchange => exact hbefore (hnever key row hstatus)
  successes worker key result h := by
    rcases success_step h with hold | hprocessed
    · exact processed_step (hover.successes worker key result hold)
    · exact hprocessed

/-- **EVERY POINT OF A RUN**: a row that is done was processed with success. -/
theorem handedOver_run {actions before : List (Action α ρ)} (hover : HandedOver s)
    (hnever : ∀ action ∈ actions, NeverCompletes action) (hbefore : before <+: actions) :
    HandedOver ((machine α ρ protocol).applyAll s before) :=
  (machine α ρ protocol).applyAll_invariant (I := HandedOver)
    (fun _ action hmem hover =>
      handedOver_step hover (hnever action (hbefore.subset hmem))) hover

/-! ## Lease safety -/

/-- **LEASE SAFE**: a step of a worker completes a row only as the report of a
    success, leaves completed rows as they are, and changes a row only under its
    lease: the worker holds the row, or claims it with this step. -/
structure LeaseSafe (protocol : Protocol) (s : State α ρ) (action : Action α ρ) : Prop where
  succeeded : ∀ key, (s.apply protocol action).status? key = some .done →
    ∃ worker, (worker, key) ∈ s.processed
      ∧ (s.status? key = some .done ∨ action.worker? = some worker)
  terminal : ∀ key row, s.rows.get? key = some row → row.status = .done →
    (s.apply protocol action).rows.get? key = some row
  byHolder : ∀ key row row', s.rows.get? key = some row →
    (s.apply protocol action).rows.get? key = some row' → row' ≠ row →
    ∃ worker, action.worker? = some worker
      ∧ (s.custody.holder key = some worker
        ∨ action.isClaim = true ∧ (s.apply protocol action).custody.holder key = some worker)

theorem neverCompletes_of_worker (h : action.isOperator = false) : NeverCompletes action := by
  cases action with
  | operator change => cases h
  | _ => trivial

/-- A row that a step completes was a success of the worker that reports. -/
theorem succeeded_step (hover : HandedOver s) (hoperator : action.isOperator = false) {key : String}
    (h : (s.apply protocol action).status? key = some .done) :
    ∃ worker, (worker, key) ∈ s.processed
      ∧ (s.status? key = some .done ∨ action.worker? = some worker) := by
  obtain ⟨row', hrow', hstatus⟩ := Option.map_eq_some_iff.mp h
  cases hrow : s.rows.get? key with
  | none =>
      obtain ⟨item, createdAt, -, rfl⟩ := row_born hrow hrow'
      cases hstatus
  | some row =>
      obtain ⟨row'', hrow'', hcases⟩ := row_step protocol action hrow
      rw [hrow'] at hrow''
      obtain rfl := Option.some.inj hrow''
      rcases hcases with rfl | hchanges
      · have hdone : s.status? key = some .done := by
          rw [State.status?, hrow, Option.map_some, hstatus]
        obtain ⟨worker, hmem⟩ := hover.done key hdone
        exact ⟨worker, hmem, .inl hdone⟩
      · cases hchanges with
        | claimed hidle hperm hnext => cases hstatus
        | done hremaining hsuccess =>
            exact ⟨_, hover.successes _ _ _ hsuccess, .inr rfl⟩
        | failed hremaining hsuccesses hmarks hfailure => cases hstatus
        | operated hchange => cases hoperator

/-- **ONE STEP**: with custody exclusive, every step of a worker is lease safe. -/
theorem leaseSafe_step (hexclusive : s.custody.Exclusive) (hover : HandedOver s)
    (hoperator : action.isOperator = false) : LeaseSafe protocol s action where
  succeeded key h := succeeded_step hover hoperator h
  terminal key row hrow hdone := done_step hexclusive (leavesDone_of_worker hoperator) hrow hdone
  byHolder key row row' hrow hrow' hne := by
    obtain ⟨row'', hrow'', hcases⟩ := row_step protocol action hrow
    rw [hrow'] at hrow''
    obtain rfl := Option.some.inj hrow''
    have hchanges := hcases.resolve_left hne
    cases hclaim : action.isClaim with
    | true =>
        cases hchanges with
        | claimed hidle hperm hnext =>
            exact ⟨_, rfl, .inr ⟨rfl, holder_of_claim hidle hperm hnext hrow⟩⟩
        | _ => cases hclaim
    | false =>
        obtain ⟨worker, hworker, hholder⟩ := reported_held hexclusive hclaim hoperator hchanges
        exact ⟨worker, hworker, .inl hholder⟩

/-- **ONCE DONE**: a row that is done at some point of a run stays as it is. -/
theorem done_run {actions earlier later : List (Action α ρ)} (hidle : ∀ w, s.inFlight w = [])
    (hleaves : ∀ action ∈ actions, LeavesDone action)
    (hmeets : (machine α ρ protocol).EachMeets (Undisturbed protocol) s actions)
    (hlater : later <+: actions) (hearlier : earlier <+: later) {key : String} {row : Row α ρ}
    (hrow : ((machine α ρ protocol).applyAll s earlier).rows.get? key = some row)
    (hdone : row.status = .done) :
    ((machine α ρ protocol).applyAll s later).rows.get? key = some row := by
  have hexclusive := exclusive_run hidle hmeets (hearlier.trans hlater)
  have hboth := (machine α ρ protocol).segment_invariant
    (I := fun s => s.custody.Exclusive ∧ s.rows.get? key = some row)
    (fun _ _ hinv hmeets => ⟨exclusive_step hinv.1 hmeets.1, done_step hinv.1 hmeets.2 hinv.2 hdone⟩)
    (hmeets.and_forall hleaves) hlater hearlier ⟨hexclusive, hrow⟩
  exact hboth.2

/-- Between two batches of every worker, with every completed row accounted for. -/
structure AtRest (s : State α ρ) : Prop where
  idle : ∀ worker, s.inFlight worker = []
  done : ∀ key, s.status? key = some .done → ∃ worker, (worker, key) ∈ s.processed

theorem AtRest.handedOver (h : AtRest s) : HandedOver s where
  done := h.done
  successes worker key result hsuccess := by
    have hmem : key ∈ s.inFlight worker := mem_inFlight_success hsuccess
    rw [h.idle worker] at hmem
    exact absurd hmem List.not_mem_nil

/-- **EVERY STEP OF A RUN**: as long as no lease is taken from a worker that is
    still at work on its row, every step of the workers is lease safe. -/
theorem leaseSafe_run {actions before : List (Action α ρ)} (hrest : AtRest s)
    (hworkers : ∀ action ∈ actions, action.isOperator = false)
    (hmeets : (machine α ρ protocol).EachMeets (Undisturbed protocol) s actions)
    (hstep : before ++ [action] <+: actions) :
    LeaseSafe protocol ((machine α ρ protocol).applyAll s before) action := by
  have hbefore : before <+: actions := (List.prefix_append before [action]).trans hstep
  have hmem : action ∈ actions := hstep.subset (List.mem_append_right _ (List.mem_singleton_self _))
  exact leaseSafe_step (exclusive_run hrest.idle hmeets hbefore)
    (handedOver_run hrest.handedOver (fun a ha => neverCompletes_of_worker (hworkers a ha)) hbefore)
    (hworkers action hmem)

end WorkQueue
