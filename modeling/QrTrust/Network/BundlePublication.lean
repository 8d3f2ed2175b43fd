import QrTrust.Network.GovernancePublicationSource

/-! # Publishing bundles one after another

    A bundle is an authority, an issuer and a destination policy of one root
    program.  Publishing it stores four signed artifacts and announces them, and
    the verifier then reads its whole event log again.  Each publication carries
    a manifest of the root and one of the authority, so a later bundle may take
    back what an earlier one needs. -/

namespace BundlePublication

open VerifierCache VerifierSync SigningCustody GovernancePublication GovernancePublicationSource

/-! ## A publication -/

/-- One publication of a bundle of the root program: a row that plans, and a
    custody provider that signs all four artifacts. -/
structure Publication (planning : PlanningHost) (signing : SigningHost) (root : String) where
  row : PostgresGovernancePublicationBundleRow
  occurredAt : Rat
  plan : GovernancePublicationPlanArtifacts
  custodyProvider : SigningCustodyProvider
  signed : GovernancePublicationPlanArtifacts
  /-- the bundles that are active in the database -/
  active : DestinationPolicyKey → Bool
  inProgram : row.rootProgramId = root
  planned : planGovernancePublicationFromPostgresRow planning row occurredAt = .ok plan
  signs : signGovernancePublicationPlan plan (makeTrustArtifactSigner signing custodyProvider)
    = .ok signed

variable {planning : PlanningHost} {signing : SigningHost} {root : String}

/-- The bundle that is published. -/
def Publication.bundle (p : Publication planning signing root) : DestinationPolicyKey :=
  ⟨namespaceFromRow p.row, p.row.destinationPolicyId⟩

/-- The artifact `publishArtifact` stores. -/
def storedArtifact (js : JsRuntime) (input : ArtifactPublicationInput) : SignedArtifact where
  artifactHash := "sha256:" ++ js.hashJson input.body
  body := input.body

/-- The event `publishArtifact` emits. -/
def publicationEvent (planning : PlanningHost) (input : ArtifactPublicationInput) :
    NetworkEvent where
  type := input.eventType
  occurredAt := (planning.dateText input.occurredAt).getD ""
  rootProgramId := input.rootProgramId
  delegatedAuthorityId := JsString.truthy input.delegatedAuthorityId
  issuerId := JsString.truthy input.issuerId
  destinationPolicyId := JsString.truthy input.destinationPolicyId
  artifactId := input.artifactId
  artifactHash := (storedArtifact planning.js input).artifactHash

/-! ## The network -/

/-- The artifact store, the events published so far (the in-memory bus forgets
    none), and the verifier's state. -/
structure Network where
  store : ArtifactStore
  log : List NetworkEvent
  sync : SyncState

/-- A network in which nothing is published. -/
def Network.initial (sync : SyncState) : Network := ⟨.empty, [], sync⟩

/-- `publishArtifact`. -/
def Network.publishArtifact (planning : PlanningHost) (network : Network)
    (input : ArtifactPublicationInput) : Network :=
  { network with
    store := network.store.set input.artifactId (storedArtifact planning.js input)
    log := network.log ++ [publicationEvent planning input] }

variable (verify : Option TrustKeys.TrustKeyRegistry → JsonValue → SignatureVerificationResult)

/-- The sync service over a network. -/
def Network.service (planning : PlanningHost) (network : Network) : SyncService where
  js := planning.js
  store := network.store
  verifyTrustArtifact := verify

/-- `syncRecent` over the events of the network. -/
def Network.syncRecent (planning : PlanningHost) (network : Network) : Network :=
  { network with
    sync := (VerifierSync.syncRecent (network.service verify planning) network.sync
      network.log).1 }

/-- A publication: its four artifacts, then `syncRecent`. -/
def Network.publish (network : Network) (p : Publication planning signing root) : Network :=
  (p.signed.toList.foldl (Network.publishArtifact planning) network).syncRecent verify planning

/-- A network after publications, in order. -/
def Network.publishAll (network : Network) (run : List (Publication planning signing root)) :
    Network :=
  run.foldl (Network.publish verify) network

end BundlePublication
