import QrTrust.Network.WorkItems
import QrTrust.Network.WorkQueueProofs

/-! # Leases of work items

    A worker that reports late overwrites what the worker after it wrote
    (`late_report_reopens`, `late_publication_overwrites`); where leases are not
    taken from workers at work, both tables are lease safe (`work_items_safe`). -/

namespace WorkItems

open WorkQueue

/-- **LEASE SAFETY**: in every run of workers in which no claim takes an item from
    a worker that still has it in its batch, an item is completed only by a worker
    that processed it with success, completed items stay as they are, and an item
    changes only under the lease of the worker whose step it is. -/
theorem work_items_safe (table : WorkTable) {s : State table.Item table.Result}
    {actions earlier before : List (Action table.Item table.Result)}
    {action : Action table.Item table.Result} (hrest : AtRest s)
    (hworkers : ∀ action ∈ actions, action.isOperator = false)
    (hmeets : (machine table.Item table.Result table.protocol).EachMeets
      (Undisturbed table.protocol) s actions)
    (hstep : before ++ [action] <+: actions) (hearlier : earlier <+: before) :
    let M := machine table.Item table.Result table.protocol
    LeaseSafe table.protocol (M.applyAll s before) action
      ∧ ∀ key row, (M.applyAll s earlier).rows.get? key = some row → row.status = .done →
          (M.applyAll s before).rows.get? key = some row := by
  intro M
  refine ⟨leaseSafe_run hrest hworkers hmeets hstep, fun key row hrow hdone => ?_⟩
  have hbefore : before <+: actions := (List.prefix_append ..).trans hstep
  exact done_run hrest.idle (fun a ha => leavesDone_of_worker (hworkers a ha)) hmeets hbefore
    hearlier hrow hdone

/-! ## Late reports -/

/-- A table with one item, and no worker at work. -/
def oneItem {α ρ : Type} (item : α) : State α ρ where
  rows := (OrderedMap.empty).set "item_1" (newRow item 0)
  workers _ := .idle
  processed := []

theorem oneItem_atRest {α ρ : Type} (item : α) : AtRest (oneItem item : State α ρ) where
  idle _ := rfl
  done key h := by
    obtain ⟨row, hrow, hstatus⟩ := Option.map_eq_some_iff.mp h
    rw [oneItem, OrderedMap.get?_set] at hrow
    split at hrow
    · obtain rfl := Option.some.inj hrow
      cases hstatus
    · cases hrow

/-- A worker claims the item with the default lease. -/
def claimsItem {α ρ : Type} (worker : String) (now : Rat) : Action α ρ :=
  .claim (WorkTable.claimInput worker now) [] ["item_1"]

/-- The sources of a cache entry. -/
def cacheItem : VerifierCacheItem where
  verifierId := "verifier_1"
  rootManifestArtifactId := "root_manifest_demo"
  delegatedAuthorityManifestArtifactId := "authority_manifest_city"
  issuerRecordArtifactId := "issuer_record_shop"
  destinationPolicyArtifactId := "destination_policy_shop_v1"
  statusEventArtifactId := "status_event_shop"
  materializedAt := 0
  scannerProbes := .arr []

/-- A policy to publish. -/
def publicationItem : ArtifactPublicationItem where
  artifactType := "destination_policy"
  artifactId := "destination_policy_shop_v1"
  version := 1
  rootProgramId := "root:demo"
  delegatedAuthorityId := some "authority:city"
  issuerId := some "issuer:shop"
  destinationPolicyId := some "policy:shop"
  canonicalJson := .null
  occurredAt := 0
  eventType := "destination_policy.updated"
  artifactRef := none
  previousVersion := none
  reason := none

/-- One worker on its own. -/
theorem work_items_safe_cacheItem :
    LeaseSafe WorkTable.verifierCache.protocol
      ((machine VerifierCacheItem Unit WorkTable.verifierCache.protocol).applyAll
        (oneItem cacheItem) [claimsItem "worker_a" 0, .process "worker_a" (.ok ())])
      (.reportDone "worker_a" 10) := by
  have hworkers : ∀ action ∈ ([claimsItem "worker_a" 0, .process "worker_a" (.ok ()),
      .reportDone "worker_a" 10] : List (Action VerifierCacheItem Unit)),
      action.isOperator = false := by decide
  have hmeets : (machine VerifierCacheItem Unit WorkTable.verifierCache.protocol).EachMeets
      (Undisturbed WorkTable.verifierCache.protocol) (oneItem cacheItem)
      [claimsItem "worker_a" 0, .process "worker_a" (.ok ()), .reportDone "worker_a" 10] :=
    ⟨fun _ _ _ => List.not_mem_nil, trivial, trivial, trivial⟩
  exact (work_items_safe .verifierCache (oneItem_atRest cacheItem) hworkers hmeets
    (List.prefix_refl _) List.nil_prefix).1

/-- A second worker took over an expired lease and completed the item, and the
    first one has failed since. -/
def beforeLateFailure : State VerifierCacheItem Unit :=
  (machine _ _ WorkTable.verifierCache.protocol).applyAll (oneItem cacheItem)
    [claimsItem "worker_a" 0, claimsItem "worker_b" 60000, .process "worker_b" (.ok ()),
      .reportDone "worker_b" 60001, .process "worker_a" (.error "timeout"),
      .reportDone "worker_a" 60002]

/-- A second worker took over an expired lease, and the first one published the
    artifact while the second is still at it. -/
def beforeLatePublication : State ArtifactPublicationItem PublishedWorkItem :=
  (machine _ _ WorkTable.artifactPublication.protocol).applyAll (oneItem publicationItem)
    [claimsItem "worker_a" 0, claimsItem "worker_b" 60000,
      .process "worker_a" (.ok ⟨"destination_policy_shop_v1", "sha256:aa", "evt_1"⟩)]

/-- The late report of a failure reopens a completed item of the verifier cache;
    the late report of a publication takes the item from the worker that holds
    its lease. -/
theorem late_reports_overwrite :
    beforeLateFailure.status? "item_1" = some .done
      ∧ (beforeLateFailure.apply WorkTable.verifierCache.protocol
          (.reportFailed "worker_a")).status? "item_1" = some .failed
      ∧ beforeLatePublication.custody.holder "item_1" = some "worker_b"
      ∧ (beforeLatePublication.apply WorkTable.artifactPublication.protocol
          (.reportDone "worker_a" 60001)).status? "item_1" = some .done := by
  decide +kernel

end WorkItems
