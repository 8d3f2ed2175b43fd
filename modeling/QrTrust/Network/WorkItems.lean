import QrTrust.Network.Json
import QrTrust.Network.WorkQueue

/-! # Work items of publication and of the verifier cache

    Two more tables follow the protocol of the outbox, without retries of failed
    rows.  Their workers publish artifacts and materialize cache entries.  The
    statement by which failed publications are reported has one placeholder and
    is sent with two values, so that no failed publication is ever recorded. -/

namespace WorkItems

open WorkQueue

/-! ## Items -/

/-- A row of `artifact_publication_work_items`, apart from the protocol. -/
structure ArtifactPublicationItem where
  artifactType : String
  artifactId : String
  version : Int
  rootProgramId : String
  delegatedAuthorityId : Option String
  issuerId : Option String
  destinationPolicyId : Option String
  canonicalJson : JsonValue
  occurredAt : Rat
  eventType : String
  artifactRef : Option String
  previousVersion : Option Int
  reason : Option String

/-- What `mark_completed` records of a publication. -/
structure PublishedWorkItem where
  artifactId : String
  artifactHash : String
  eventId : String
  deriving DecidableEq, Repr

/-- A row of `verifier_cache_work_items`, apart from the protocol. -/
structure VerifierCacheItem where
  verifierId : String
  rootManifestArtifactId : String
  delegatedAuthorityManifestArtifactId : String
  issuerRecordArtifactId : String
  destinationPolicyArtifactId : String
  statusEventArtifactId : String
  materializedAt : Rat
  scannerProbes : JsonValue

/-! ## The two tables -/

/-- The tables of work items. -/
inductive WorkTable where
  | artifactPublication
  | verifierCache
  deriving DecidableEq, Repr

namespace WorkTable

/-- The items of a table. -/
def Item : WorkTable → Type
  | artifactPublication => ArtifactPublicationItem
  | verifierCache => VerifierCacheItem

/-- What a table keeps of a success; the name of a cache entry is not kept. -/
def Result : WorkTable → Type
  | artifactPublication => PublishedWorkItem
  | verifierCache => Unit

/-- The protocol of a table. -/
def protocol : WorkTable → Protocol
  -- the text has `$2::jsonb` alone, the values are the time and the failures
  | artifactPublication => ⟨false, ⟨1, 2⟩⟩
  | verifierCache => ⟨false, ⟨1, 1⟩⟩

/-- `makeArtifactPublicationQueueWorker`, `makeVerifierCacheReadModelQueueWorker`:
    what a worker puts into its claim, with the defaults of both. -/
def claimInput (workerId : String) (now : Rat) : ClaimInput where
  workerId := workerId
  claimedAt := now
  batchSize := 50
  claimExpiresAt := now + 60000
  maxRetryAttempts := 0

end WorkTable

/-- Rows of `artifact_publication_work_items`. -/
abbrev ArtifactPublicationRows := Table ArtifactPublicationItem PublishedWorkItem

/-- Rows of `verifier_cache_work_items`. -/
abbrev VerifierCacheRows := Table VerifierCacheItem Unit

/-- `claimArtifactPublicationWorkItemsCommand`. -/
def claimArtifactPublicationWorkItemsCommand (input : ClaimInput) (locked : List String)
    (rows : ArtifactPublicationRows) : ArtifactPublicationRows :=
  claimRows WorkTable.artifactPublication.protocol input locked rows

/-- `markArtifactPublicationWorkItemsCompletedCommand`. -/
def markArtifactPublicationWorkItemsCompletedCommand
    (successes : List (String × PublishedWorkItem)) (completedAt : Rat)
    (rows : ArtifactPublicationRows) : ArtifactPublicationRows :=
  markDone successes completedAt rows

/-- `claimVerifierCacheWorkItemsCommand`. -/
def claimVerifierCacheWorkItemsCommand (input : ClaimInput) (locked : List String)
    (rows : VerifierCacheRows) : VerifierCacheRows :=
  claimRows WorkTable.verifierCache.protocol input locked rows

/-- `markVerifierCacheWorkItemsCompletedCommand`. -/
def markVerifierCacheWorkItemsCompletedCommand (successes : List (String × Unit))
    (completedAt : Rat) (rows : VerifierCacheRows) : VerifierCacheRows :=
  markDone successes completedAt rows

/-- `markVerifierCacheWorkItemsFailedCommand`. -/
def markVerifierCacheWorkItemsFailedCommand (failures : List (String × String))
    (rows : VerifierCacheRows) : VerifierCacheRows :=
  markFailed failures rows

/-- **STATEMENTS**: publications run two statements; the third is rejected. -/
theorem executes_artifactPublication (s : State ArtifactPublicationItem PublishedWorkItem)
    (action : Action ArtifactPublicationItem PublishedWorkItem) :
    Executes claimArtifactPublicationWorkItemsCommand
      markArtifactPublicationWorkItemsCompletedCommand none s.rows action
      (s.apply WorkTable.artifactPublication.protocol action).rows :=
  WorkQueue.executes_apply _ s action

/-- **STATEMENTS**: the verifier cache runs all three. -/
theorem executes_verifierCache (s : State VerifierCacheItem Unit)
    (action : Action VerifierCacheItem Unit) :
    Executes claimVerifierCacheWorkItemsCommand markVerifierCacheWorkItemsCompletedCommand
      (some markVerifierCacheWorkItemsFailedCommand) s.rows action
      (s.apply WorkTable.verifierCache.protocol action).rows :=
  WorkQueue.executes_apply _ s action

end WorkItems
