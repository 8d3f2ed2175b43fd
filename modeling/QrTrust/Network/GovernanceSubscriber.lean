import QrTrust.Network.PostgresTrustKeys
import QrTrust.Network.SignerConfinementProofs

/-! # The governance subscriber worker

    The worker runs a sync service over one event for each governance message.
    It gives the service the artifact store of the database and the verifier
    cache, and neither a signature verifier nor a trust-key registry: the
    service falls back on a verifier over the keys of the demo network.

    A deployment interleaves the messages with what others do to the database:
    publishers store artifacts, and the management plane enrols keys and changes
    their status. -/

namespace GovernanceSubscriber

open VerifierCache TrustKeys VerifierSync SignatureVerification PostgresTrustKeys SignerConfinement

/-! ## The worker -/

/-- The tables the worker and its neighbours share. -/
structure Database where
  publishedArtifacts : ArtifactStore
  trustKeys : TrustKeyTable

/-- The host of a worker: its runtime, Ed25519, and the key material it can load. -/
structure WorkerHost where
  js : JsRuntime
  signature : SignatureHost
  keyMaterial : KeyMaterialProvider

variable (host : WorkerHost)

/-- `makeVerifierSyncService(artifactStore, eventBus, cache)`: the verifier is
    the default one, over a fresh `makeInMemoryTrustKeyRegistry()`. -/
def syncService (db : Database) : VerifierWiring where
  js := host.js
  store := db.publishedArtifacts
  host := host.signature
  keyMaterial := host.keyMaterial
  keysOf _ := (makeInMemoryTrustKeyRegistry defaultTrustKeys).values

/-- What the service starts with: no trust-key registry.  What it plans does not
    depend on what the cache holds. -/
def subscriberState : SyncState where
  cache := .empty
  trustKeyRegistry := none

/-- `syncReference`: what the worker does about one event. -/
def syncReference (db : Database) (event : NetworkEvent) : List SyncAction :=
  (machine (syncService host db).service).plan subscriberState event

/-! ## The answer to the message -/

/-- `governanceEventRequiresCacheMutation`. -/
def governanceEventRequiresCacheMutation (eventType : String) : Bool :=
  eventType ∈ ["issuer.record.published", "issuer.status.changed",
    "destination.policy.published", "destination.policy.revoked", "certificate.status.changed"]

/-- `governanceEventRequiresSignatureValidation`. -/
def governanceEventRequiresSignatureValidation (eventType : String) : Bool :=
  eventType ∈ ["root.manifest.published", "delegated_authority.manifest.published"]
    || governanceEventRequiresCacheMutation eventType

/-- `NatsGovernanceSyncReportAcceptance`. -/
structure NatsGovernanceSyncReportAcceptance where
  accepted : Bool
  reason : String
  deriving DecidableEq, Repr

/-- `natsGovernanceSyncReportAcceptance`: a message whose report is not accepted
    is terminated, after whatever the service has already written. -/
def natsGovernanceSyncReportAcceptance (event : NetworkEvent) (report : VerifierSyncReport) :
    NatsGovernanceSyncReportAcceptance :=
  if report.missingArtifacts.length > 0 then ⟨false, "missing_artifacts"⟩
  else if report.artifactHashMismatches.length > 0 then ⟨false, "artifact_hash_mismatches"⟩
  else if report.rejectedStatusEvents.length > 0 then ⟨false, "rejected_status_events"⟩
  else if report.processedEvents < 1 || report.fetchedArtifacts < 1 then
    ⟨false, "referenced_artifact_not_validated"⟩
  else if governanceEventRequiresSignatureValidation event.type
      && report.validatedTrustArtifacts < 1 then
    ⟨false, "governance_event_not_signature_validated"⟩
  else if governanceEventRequiresCacheMutation event.type
      && report.projectedIssuers + report.projectedDestinationPolicies
        + report.appliedStatusEvents + report.appliedKeyStatusEvents < 1 then
    ⟨false, "governance_event_not_materialized"⟩
  else ⟨true, "sync_report_accepted"⟩

/-! ## The deployment -/

/-- What happens in a deployment. -/
inductive DeploymentInput where
  | governanceMessage (event : NetworkEvent)
  | publish (artifacts : ArtifactStore)
  | upsertTrustKey (references : ReferencedRows) (now : Int) (key : TrustKeyRecord)
  | updateTrustKeyStatus (input : TrustKeyStatusUpdateInput)

/-- What is done about it: an action of the worker, or a change of a table. -/
inductive DeploymentAction where
  | worker (action : SyncAction)
  | storeArtifacts (artifacts : ArtifactStore)
  | storeTrustKeys (table : TrustKeyTable)

/-- A statement that the database refuses changes no table. -/
def tableChange {α : Type} : Except SqlError (TrustKeyTable × α) → List DeploymentAction
  | .ok (table, _) => [.storeTrustKeys table]
  | .error _ => []

/-- The deployment as a machine over the database.  The worker changes neither
    table: its service has the artifact store to read from, and no registry to
    update. -/
def deployment : Runs.Machine Database DeploymentInput DeploymentAction where
  plan db
    | .governanceMessage event => (syncReference host db event).map .worker
    | .publish artifacts => [.storeArtifacts artifacts]
    | .upsertTrustKey references now key =>
        tableChange (PostgresTrustKeys.upsertTrustKey references now db.trustKeys key)
    | .updateTrustKeyStatus input =>
        tableChange (PostgresTrustKeys.updateTrustKeyStatus db.trustKeys input)
  apply db
    | .worker _ => db
    | .storeArtifacts artifacts => { db with publishedArtifacts := artifacts }
    | .storeTrustKeys table => { db with trustKeys := table }

end GovernanceSubscriber
