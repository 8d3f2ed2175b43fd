import Mathlib.Algebra.Order.Ring.Unbundled.Rat
import Mathlib.Data.String.Basic
import QrTrust.Network.EventOutboxProofs

/-! # The order in which events leave the outbox

    A claim takes the oldest events that it may take, so events are handed to the
    workers in the order in which they were enqueued.  They need not be published
    in that order: a worker goes on with its batch after a failure, and the failed
    event comes back with a later claim (`failed_event_overtaken`).  What holds is
    that no event is published before every older one was handed to a worker
    (`published_after_handout`). -/

namespace EventOutbox

open WorkQueue

/-! ## Claims take the oldest rows -/

section Claims

variable {α ρ : Type} {protocol : Protocol}

instance : Std.Total (@precedes α ρ) where
  total a b := by
    rcases lt_trichotomy a.2.createdAt b.2.createdAt with h | h | h
    · exact .inl (.inl h)
    · rcases le_total a.1 b.1 with hkey | hkey
      · exact .inl (.inr ⟨h, hkey⟩)
      · exact .inr (.inr ⟨h.symm, hkey⟩)
    · exact .inr (.inl h)

instance : IsTrans (String × Row α ρ) precedes where
  trans a b c := by
    rintro (hab | ⟨hab, hkey⟩) (hbc | ⟨hbc, hkey'⟩)
    · exact .inl (hab.trans hbc)
    · exact .inl (hbc ▸ hab)
    · exact .inl (hab ▸ hbc)
    · exact .inr ⟨hab.trans hbc, hkey.trans hkey'⟩

/-- What comes before an entry of the first part of a sorted list is in that part
    too. -/
theorem mem_take_of_before {γ : Type} {r : γ → γ → Prop} {l : List γ} (hsorted : l.Pairwise r)
    {n : Nat} {a b : γ} (ha : a ∈ l.take n) (hb : b ∈ l) (hbefore : ¬ r a b) : b ∈ l.take n := by
  rw [← List.take_append_drop n l] at hsorted hb
  rcases List.mem_append.mp hb with hb | hb
  · exact hb
  · exact absurd ((List.pairwise_append.mp hsorted).2.2 a ha b hb) hbefore

/-- **OLDEST FIRST**: a claim that takes a row takes every older row it may take. -/
theorem older_mem_nextRows {input : ClaimInput} {locked : List String} {rows : Table α ρ}
    {key₁ key₂ : String} {row₁ row₂ : Row α ρ} (hrow₁ : rows.get? key₁ = some row₁)
    (hrow₂ : rows.get? key₂ = some row₂) (hold : row₁.createdAt < row₂.createdAt)
    (hclaimable : claimable protocol input row₁ = true) (hlocked : key₁ ∉ locked)
    (hmem : key₂ ∈ nextRows protocol input locked rows) :
    key₁ ∈ nextRows protocol input locked rows := by
  obtain ⟨⟨key, row⟩, htake, rfl⟩ := List.mem_map.mp hmem
  have hentry : rows.get? key = some row := by
    have hsorted := List.mem_of_mem_take htake
    rw [List.mem_insertionSort, List.mem_filter] at hsorted
    exact (OrderedMap.get?_eq_some_iff ..).mpr hsorted.1
  obtain rfl := Option.some.inj (hrow₂.symm.trans hentry)
  refine List.mem_map.mpr ⟨(key₁, row₁), ?_, rfl⟩
  refine mem_take_of_before (List.pairwise_insertionSort precedes _) htake ?_ ?_
  · rw [List.mem_insertionSort, List.mem_filter]
    exact ⟨(OrderedMap.get?_eq_some_iff ..).mp hrow₁, by simp [hclaimable, hlocked]⟩
  · rintro (hlt | ⟨heq, -⟩)
    · exact absurd hold hlt.not_gt
    · exact hold.ne heq.symm

end Claims

/-! ## Handed out in order -/

variable {s : OutboxState} {action : Action OutboxEvent Unit}

/-- A step of the workers alone, whose statements meet no lock, or an event that
    is newer than all others. -/
def Orderly (s : OutboxState) : Action OutboxEvent Unit → Prop
  | .enqueue _ _ createdAt =>
      ∀ key row, s.rows.get? key = some row → row.createdAt < createdAt
  | .claim _ locked _ => locked = []
  | .operator _ => False
  | _ => True

/-- An event that no worker has had, or one that a worker has had. -/
def Handled (row : OutboxRow) : Prop :=
  row.attempts = 0 ∧ row.status = .pending
    ∨ 1 ≤ row.attempts
      ∧ (row.status = .inProgress ∨ row.status = .done ∨ row.status = .failed)

/-- **HANDED OUT IN ORDER**: what a worker has in its hands it was handed, and with
    every event all older ones were handed out. -/
structure InOrder (s : OutboxState) : Prop where
  inHand : ∀ worker, ∀ key ∈ s.inFlight worker,
    ∃ row, s.rows.get? key = some row ∧ 1 ≤ row.attempts
  handled : ∀ key row, s.rows.get? key = some row → Handled row
  ordered : ∀ key₁ key₂ row₁ row₂, s.rows.get? key₁ = some row₁ → s.rows.get? key₂ = some row₂ →
    row₁.createdAt < row₂.createdAt → 1 ≤ row₂.attempts → 1 ≤ row₁.attempts

theorem Orderly.isOperator (h : Orderly s action) : action.isOperator = false := by
  cases action with
  | operator change => exact h.elim
  | _ => rfl

/-- What a worker's step leaves of a row. -/
theorem changes_keep (hworker : action.isOperator = false) {key : String} {row row' : OutboxRow}
    (h : row' = row ∨ Changes eventOutbox s action key row row') :
    row'.item = row.item ∧ row'.createdAt = row.createdAt ∧ row.attempts ≤ row'.attempts := by
  rcases h with rfl | h
  · exact ⟨rfl, rfl, le_rfl⟩
  · cases h with
    | claimed hidle hperm hnext => exact ⟨rfl, rfl, Nat.le_succ _⟩
    | done hremaining hsuccess => exact ⟨rfl, rfl, le_rfl⟩
    | failed hremaining hsuccesses hmarks hfailure => exact ⟨rfl, rfl, le_rfl⟩
    | operated hchange => cases hworker

/-- A row that is handed out by a step is handed out by its claim. -/
theorem handed_by_claim (hworker : action.isOperator = false) {key : String}
    {row row' : OutboxRow} (h : row' = row ∨ Changes eventOutbox s action key row row')
    (hzero : ¬ 1 ≤ row.attempts) (hone : 1 ≤ row'.attempts) :
    ∃ input locked returned, action = .claim input locked returned
      ∧ (s.workers input.workerId).isIdle = true
      ∧ returned.Perm (nextRows eventOutbox input locked s.rows)
      ∧ key ∈ nextRows eventOutbox input locked s.rows := by
  rcases h with rfl | h
  · exact absurd hone hzero
  · cases h with
    | claimed hidle hperm hnext => exact ⟨_, _, _, rfl, hidle, hperm, hnext⟩
    | done hremaining hsuccess => exact absurd hone hzero
    | failed hremaining hsuccesses hmarks hfailure => exact absurd hone hzero
    | operated hchange => cases hworker

theorem handled_step (horder : InOrder s) (horderly : Orderly s action) {key : String}
    {row' : OutboxRow} (h : (s.apply eventOutbox action).rows.get? key = some row') :
    Handled row' := by
  cases hrow : s.rows.get? key with
  | none =>
      obtain ⟨item, createdAt, -, rfl⟩ := row_born hrow h
      exact .inl ⟨rfl, rfl⟩
  | some row =>
      obtain ⟨row'', hafter, hcases⟩ := row_step eventOutbox action hrow
      obtain rfl := Option.some.inj (h.symm.trans hafter)
      rcases hcases with rfl | hchanges
      · exact horder.handled key _ hrow
      · -- a report is about a row that its worker was handed
        have hhanded : ∀ worker, key ∈ s.inFlight worker → 1 ≤ row.attempts := by
          intro worker hmem
          obtain ⟨row₀, hrow₀, hone⟩ := horder.inHand worker key hmem
          obtain rfl := Option.some.inj (hrow.symm.trans hrow₀)
          exact hone
        cases hchanges with
        | claimed hidle hperm hnext => exact .inr ⟨Nat.le_add_left .., .inl rfl⟩
        | done hremaining hsuccess =>
            exact .inr ⟨hhanded _ (mem_inFlight_success hsuccess), .inr (.inl rfl)⟩
        | failed hremaining hsuccesses hmarks hfailure =>
            exact .inr ⟨hhanded _ (mem_inFlight_failure hfailure), .inr (.inr rfl)⟩
        | operated hchange => exact horderly.elim

theorem inHand_step (horder : InOrder s) (horderly : Orderly s action) {worker key : String}
    (h : key ∈ (s.apply eventOutbox action).inFlight worker) :
    ∃ row, (s.apply eventOutbox action).rows.get? key = some row ∧ 1 ≤ row.attempts := by
  -- what was in somebody's hands before the step was handed out
  have hold : ∀ w, key ∈ s.inFlight w →
      ∃ row, (s.apply eventOutbox action).rows.get? key = some row ∧ 1 ≤ row.attempts := by
    intro w hmem
    obtain ⟨row, hrow, hone⟩ := horder.inHand w key hmem
    obtain ⟨row', hafter, hcases⟩ := row_step eventOutbox action hrow
    exact ⟨row', hafter, hone.trans (changes_keep horderly.isOperator hcases).2.2⟩
  cases hclaim : action.isClaim with
  | false => exact hold worker ((inFlight_release hclaim worker).subset h)
  | true =>
      cases action with
      | claim input locked returned =>
          by_cases hdue : (s.workers input.workerId).isIdle
              ∧ returned.Perm (nextRows eventOutbox input locked s.rows)
          · rw [inFlight_claim hdue.1 hdue.2] at h
            by_cases hworker : worker = input.workerId
            · rw [hworker, Function.update_self] at h
              have hmem := hdue.2.mem_iff.mp h
              obtain ⟨row, hrow, -⟩ := mem_nextRows hmem
              exact ⟨_, get?_of_claim hdue.1 hdue.2 hmem hrow, Nat.le_add_left ..⟩
            · rw [Function.update_of_ne hworker] at h
              exact hold worker h
          · rw [State.apply, if_neg hdue] at h
            exact hold worker h
      | _ => cases hclaim

theorem ordered_step (horder : InOrder s) (horderly : Orderly s action) {key₁ key₂ : String}
    {row₁' row₂' : OutboxRow} (h₁ : (s.apply eventOutbox action).rows.get? key₁ = some row₁')
    (h₂ : (s.apply eventOutbox action).rows.get? key₂ = some row₂')
    (hold : row₁'.createdAt < row₂'.createdAt) (hone : 1 ≤ row₂'.attempts) :
    1 ≤ row₁'.attempts := by
  cases hrow₂ : s.rows.get? key₂ with
  | none =>
      obtain ⟨item, createdAt, -, rfl⟩ := row_born hrow₂ h₂
      cases hone
  | some row₂ =>
      obtain ⟨row₂'', hafter₂, hcases₂⟩ := row_step eventOutbox action hrow₂
      obtain rfl := Option.some.inj (h₂.symm.trans hafter₂)
      obtain ⟨-, hcreated₂, -⟩ := changes_keep horderly.isOperator hcases₂
      cases hrow₁ : s.rows.get? key₁ with
      | none =>
          -- an event that was just enqueued is no older than any other
          obtain ⟨item, createdAt, rfl, rfl⟩ := row_born hrow₁ h₁
          have hnewer := horderly key₂ row₂ hrow₂
          rw [hcreated₂] at hold
          exact absurd hnewer hold.not_gt
      | some row₁ =>
          obtain ⟨row₁'', hafter₁, hcases₁⟩ := row_step eventOutbox action hrow₁
          obtain rfl := Option.some.inj (h₁.symm.trans hafter₁)
          obtain ⟨-, hcreated₁, hattempts₁⟩ := changes_keep horderly.isOperator hcases₁
          rw [hcreated₁, hcreated₂] at hold
          by_cases hone₁ : 1 ≤ row₁.attempts
          · exact hone₁.trans hattempts₁
          · -- the younger event is handed out by this step, and the older one with it
            have hzero : ¬ 1 ≤ row₂.attempts := fun hone₂ =>
              hone₁ (horder.ordered _ _ _ _ hrow₁ hrow₂ hold hone₂)
            obtain ⟨input, locked, returned, rfl, hidle, hperm, hmem⟩ :=
              handed_by_claim horderly.isOperator hcases₂ hzero hone
            obtain rfl : locked = [] := horderly
            have hpending : row₁.status = .pending := by
              rcases horder.handled _ _ hrow₁ with ⟨-, hstatus⟩ | ⟨hhanded, -⟩
              · exact hstatus
              · exact absurd hhanded hone₁
            have hclaimable : claimable eventOutbox input row₁ = true := by
              rw [claimable, hpending]
            have hmem₁ := older_mem_nextRows hrow₁ hrow₂ hold hclaimable List.not_mem_nil hmem
            obtain rfl := Option.some.inj ((get?_of_claim hidle hperm hmem₁ hrow₁).symm.trans h₁)
            exact Nat.le_add_left ..

/-- **ONE STEP**: an orderly step hands events out in order. -/
theorem inOrder_step (horder : InOrder s) (horderly : Orderly s action) :
    InOrder (s.apply eventOutbox action) where
  inHand _ _ h := inHand_step horder horderly h
  handled _ _ h := handled_step horder horderly h
  ordered _ _ _ _ h₁ h₂ hold hone := ordered_step horder horderly h₁ h₂ hold hone

/-- An empty outbox, and no worker at work. -/
theorem inOrder_of_empty (hempty : s.rows = OrderedMap.empty)
    (hidle : ∀ worker, s.inFlight worker = []) : InOrder s where
  inHand worker key h := by
    rw [hidle worker] at h
    exact absurd h List.not_mem_nil
  handled key row h := by
    rw [hempty] at h
    cases h
  ordered key₁ _ row₁ _ h₁ := by
    rw [hempty] at h₁
    cases h₁

/-- **PUBLICATION ORDER**: in every run of workers over an outbox that starts empty
    and whose events are enqueued one after the other, an event is published only
    when every event enqueued before it was handed to a worker: it was published,
    or an attempt at it has failed, or it is still leased. -/
theorem published_after_handout {actions before : List (Action OutboxEvent Unit)}
    (hempty : s.rows = OrderedMap.empty) (hidle : ∀ worker, s.inFlight worker = [])
    (hmeets : (WorkQueue.machine OutboxEvent Unit eventOutbox).EachMeets Orderly s actions)
    (hstep : before ++ [action] <+: actions) :
    let t := (WorkQueue.machine OutboxEvent Unit eventOutbox).applyAll s before
    ∀ worker key₁ key₂ row₁ row₂,
      (t.apply eventOutbox action).processed = t.processed ++ [(worker, key₂)] →
      t.rows.get? key₁ = some row₁ → t.rows.get? key₂ = some row₂ →
      row₁.createdAt < row₂.createdAt →
      1 ≤ row₁.attempts
        ∧ (row₁.status = .done ∧ (∃ w, (w, key₁) ∈ t.processed)
          ∨ row₁.status = .failed ∨ row₁.status = .inProgress) := by
  intro t worker key₁ key₂ row₁ row₂ hpublished hrow₁ hrow₂ hold
  have hbefore : before <+: actions := (List.prefix_append ..).trans hstep
  have horder : InOrder t :=
    (WorkQueue.machine OutboxEvent Unit eventOutbox).prefix_invariant
      (fun _ _ horder horderly => inOrder_step horder horderly)
      (inOrder_of_empty hempty hidle) hmeets before hbefore
  have hdone : ∀ key, s.status? key = some .done → ∃ worker, (worker, key) ∈ s.processed := by
    intro key hstatus
    rw [State.status?, hempty] at hstatus
    cases hstatus
  have hnever := hmeets.forall_mem (P := NeverCompletes)
    fun _ _ horderly => neverCompletes_of_worker horderly.isOperator
  have hover : HandedOver t := handedOver_run (AtRest.mk hidle hdone).handedOver hnever hbefore
  obtain ⟨row, hrow, hone⟩ := horder.inHand worker key₂ (inFlight_of_processed hpublished)
  obtain rfl := Option.some.inj (hrow₂.symm.trans hrow)
  have hone₁ := horder.ordered key₁ key₂ row₁ row₂ hrow₁ hrow₂ hold hone
  refine ⟨hone₁, ?_⟩
  rcases horder.handled key₁ row₁ hrow₁ with ⟨hzero, -⟩ | ⟨-, hstatus | hstatus | hstatus⟩
  · omega
  · exact .inr (.inr hstatus)
  · refine .inl ⟨hstatus, hover.done key₁ ?_⟩
    rw [State.status?, hrow₁, Option.map_some, hstatus]
  · exact .inr (.inl hstatus)

/-- The first version of a policy. -/
def firstVersion : OutboxEvent := ⟨"evt_1", "destination_policy_shop", "sha256:aa", .null⟩

/-- The second version of the policy. -/
def secondVersion : OutboxEvent := ⟨"evt_2", "destination_policy_shop", "sha256:bb", .null⟩

/-- Two versions of a policy, enqueued one after the other. -/
def twoVersions : List (Action OutboxEvent Unit) :=
  [.enqueue "outbox_1" firstVersion 0, .enqueue "outbox_2" secondVersion 1]

/-- An outbox without events, and no worker at work. -/
def emptyOutbox : OutboxState := ⟨OrderedMap.empty, fun _ => .idle, []⟩

/-- The claim of a worker that takes both versions. -/
def claimOfBoth : ClaimInput := EventOutboxWorkerOptions.claimInput { workerId := "worker_a" } 2

/-- The claim, as a step. -/
def claimsBoth : Action OutboxEvent Unit := .claim claimOfBoth [] ["outbox_1", "outbox_2"]

/-- The worker publishes the first version, and then the second. -/
theorem published_after_handout_twoVersions :
    let t := (WorkQueue.machine OutboxEvent Unit eventOutbox).applyAll emptyOutbox
      (twoVersions ++ [claimsBoth, .process "worker_a" (.ok ())])
    ∃ row, t.rows.get? "outbox_1" = some row ∧ 1 ≤ row.attempts := by
  intro t
  have hmeets : (WorkQueue.machine OutboxEvent Unit eventOutbox).EachMeets Orderly emptyOutbox
      (twoVersions ++ [claimsBoth, .process "worker_a" (.ok ()),
        .process "worker_a" (.ok ())]) := by
    refine ⟨fun key row h => ?_, fun key row h => ?_, rfl, trivial, trivial, trivial⟩
    · cases h
    · have hfirst := (OrderedMap.get?_set ..).symm.trans h
      split at hfirst
      · obtain rfl := Option.some.inj hfirst
        show (0 : Rat) < 1
        decide +kernel
      · cases hfirst
  have hrow₁ : t.rows.get? "outbox_1" = some (claimRow claimOfBoth (newRow firstVersion 0)) := by
    rfl
  have hrow₂ : t.rows.get? "outbox_2" = some (claimRow claimOfBoth (newRow secondVersion 1)) := by
    rfl
  have hold : (0 : Rat) < 1 := by decide +kernel
  have horder := published_after_handout rfl (fun _ => rfl) hmeets (List.prefix_refl _)
    "worker_a" "outbox_1" "outbox_2" _ _ rfl hrow₁ hrow₂ hold
  exact ⟨_, hrow₁, horder.1⟩

/-- A worker that fails at the first version goes on with the second: it is
    published after one of three attempts at the first. -/
theorem failed_event_overtaken :
    let t := (WorkQueue.machine OutboxEvent Unit eventOutbox).applyAll emptyOutbox
      (twoVersions ++ [claimsBoth, .process "worker_a" (.error "timeout")])
    (t.apply eventOutbox (.process "worker_a" (.ok ()))).processed = [("worker_a", "outbox_2")]
      ∧ (t.rows.get? "outbox_1").map (fun row => (row.item.artifactId, row.createdAt, row.attempts))
        = some ("destination_policy_shop", 0, 1)
      ∧ (t.rows.get? "outbox_2").map (fun row => (row.item.artifactId, row.createdAt))
        = some ("destination_policy_shop", 1) := by
  decide +kernel

end EventOutbox
