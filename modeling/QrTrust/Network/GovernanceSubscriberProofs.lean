import QrTrust.Network.GovernanceSubscriber

/-! # Which keys the subscriber trusts

    The worker should write for a signed artifact only where an enrolled,
    active key verifies it, and a revocation it accepted should end the key.
    It asks the keys of the demo network instead: `trusts_enrolled_iff` says on
    which runs the two laws hold all the same. -/

namespace GovernanceSubscriber

open VerifierCache TrustKeys VerifierSync SyncGate SyncAcceptance SignatureVerification
  SignatureAcceptance PostgresTrustKeys SignerConfinement
open KeyRotation (namingHost namingHost_verifies inlineMaterial)

variable {host : WorkerHost} {db : Database} {event : NetworkEvent} {artifact : SignedArtifact}

/-- A step of a deployment: what happened, the database it met, and what was
    done about it. -/
abbrev DeploymentStep := DeploymentInput × Database × List DeploymentAction

/-! ## The two laws -/

/-- **BROUGHT**: the message brings a stored artifact that demands a signature. -/
structure Brought (host : WorkerHost) (db : Database) (event : NetworkEvent)
    (artifact : SignedArtifact) : Prop where
  fetched : Fetched (syncService host db).service event artifact
  recognized : isRecognizedTrustArtifact artifact.body = true

/-- **ENROLLED SIGNER**: an enrolled, active key verifies the signature. -/
def EnrolledSigner (host : WorkerHost) (table : TrustKeyTable) (body : JsonValue) : Prop :=
  ∃ row ∈ table.rows.values, row.keyStatus = .active
    ∧ Verifies host.signature host.keyMaterial body (trustKeyRecordFromRow row)

/-- The worker accepts the artifact of a message. -/
def WorkerAccepts (host : WorkerHost) (db : Database) (event : NetworkEvent)
    (artifact : SignedArtifact) : Prop :=
  Accepted (syncService host db).service subscriberState event artifact

/-- **FIRST LAW**: a cache write for a signed artifact has an enrolled signer. -/
def WritesForEnrolled (host : WorkerHost) (step : DeploymentStep) : Prop :=
  ∀ event artifact call, step.1 = .governanceMessage event →
    Brought host step.2.1 event artifact → .worker (.cacheCall call) ∈ step.2.2 →
      EnrolledSigner host step.2.1.trustKeys artifact.body

/-- **REVOKES**: an accepted message revokes an enrolled key, and the key that
    signed it may do so. -/
def RevokesKey (host : WorkerHost) (db : Database) (event : NetworkEvent) (row : TrustKeyRow) :
    Prop :=
  row ∈ db.trustKeys.rows.values ∧
    ∃ artifact signer revocation,
      AcceptedWith (syncService host db) subscriberState event artifact signer
      ∧ revocationStatusArtifactBody artifact.body = some revocation
      ∧ revocation.targetType = .trustKey ∧ revocation.targetKeyId = some row.keyId
      ∧ revocation.status = .revoked
      ∧ statusUpdateApplies
          { rootProgramId := revocation.rootProgramId
            keyId := row.keyId
            status := .revoked
            delegatedAuthorityId :=
              if signer.scope = .rootProgram then none
              else some revocation.delegatedAuthorityId } row = true

/-- **SECOND LAW**: after an accepted message that revokes an enrolled key, no
    artifact signed by that key is accepted. -/
def RevocationEnds (host : WorkerHost) (earlier later : DeploymentStep) : Prop :=
  ∀ event row event' artifact', earlier.1 = .governanceMessage event →
    RevokesKey host earlier.2.1 event row → later.1 = .governanceMessage event' →
      Brought host later.2.1 event' artifact' →
        Verifies host.signature host.keyMaterial artifact'.body (trustKeyRecordFromRow row) →
          ¬ WorkerAccepts host later.2.1 event' artifact'

/-- **TRUSTS ENROLLED KEYS**: every step of the run keeps the first law, and every
    two of its steps the second. -/
def TrustsEnrolledKeys (host : WorkerHost) (steps : List DeploymentStep) : Prop :=
  (∀ step ∈ steps, WritesForEnrolled host step) ∧ steps.Pairwise (RevocationEnds host)

/-! ## The keys the worker asks -/

/-- **DEMO SIGNED**: the artifact is in scope, and the demo key it selects
    verifies it.  No table is read. -/
structure DemoSigned (host : WorkerHost) (body : JsonValue) : Prop where
  supported : Supported body
  verified : ∃ key, defaultTrustKeys.find? (usableFor body) = some key
    ∧ Verifies host.signature host.keyMaterial body key
  scope : trustArtifactScopeMatchesBody body = true

/-- The default registry keeps its two keys in order. -/
theorem defaultRegistry_values :
    (makeInMemoryTrustKeyRegistry defaultTrustKeys).values = defaultTrustKeys := by
  decide +kernel

/-- **ACCEPTANCE**: the worker accepts what a demo key signed. -/
theorem workerAccepts_iff :
    WorkerAccepts host db event artifact ↔
      Brought host db event artifact ∧ DemoSigned host artifact.body := by
  have hverified : ((syncService host db).service.verifyTrustArtifact
        subscriberState.trustKeyRegistry artifact.body).accepted = true ↔
      Supported artifact.body ∧ ∃ key, defaultTrustKeys.find? (usableFor artifact.body) = some key
        ∧ Verifies host.signature host.keyMaterial artifact.body key := by
    rw [verified_iff, accepts_iff]
    show (_ ∧ ∃ key, (makeInMemoryTrustKeyRegistry defaultTrustKeys).values.find? _ = some key
      ∧ _) ↔ _
    rw [defaultRegistry_values]
    rfl
  constructor
  · intro h
    obtain ⟨hsupported, hkey⟩ := hverified.mp h.verified
    exact ⟨⟨h.fetched, h.recognized⟩, hsupported, hkey, h.scope⟩
  · rintro ⟨hbrought, hsigned⟩
    exact ⟨hbrought.fetched, hbrought.recognized,
      hverified.mpr ⟨hsigned.supported, hsigned.verified⟩, hsigned.scope⟩

/-- **WRITES**: for a signed artifact, the worker writes what its body leads to,
    where a demo key signed it. -/
theorem worker_write_iff {call : CacheCall} (hbrought : Brought host db event artifact) :
    SyncAction.cacheCall call ∈ syncReference host db event ↔
      DemoSigned host artifact.body
        ∧ call ∈ projectionCalls (syncService host db).service artifact.body event := by
  constructor
  · intro hcall
    rcases planned_call hcall with ⟨artifact', haccepted, hcall'⟩ | ⟨artifact', _, hfetched, hguard, -⟩
    · obtain rfl := Option.some.inj (hbrought.fetched.stored.symm.trans haccepted.fetched.stored)
      exact ⟨(workerAccepts_iff.mp haccepted).2, hcall'⟩
    · -- an unrecognised body is no artifact that demands a signature
      obtain rfl := Option.some.inj (hbrought.fetched.stored.symm.trans hfetched.stored)
      exact Bool.noConfusion (hguard.symm.trans hbrought.recognized)
  · rintro ⟨hsigned, hcall⟩
    exact Accepted.planned (workerAccepts_iff.mpr ⟨hbrought, hsigned⟩) hcall

/-! ## When the laws hold -/

/-- Where a demo key signed an artifact that leads to a write, an enrolled,
    active key verifies it too. -/
def DemoSignerEnrolled (host : WorkerHost) (step : DeploymentStep) : Prop :=
  ∀ event artifact, step.1 = .governanceMessage event → Brought host step.2.1 event artifact →
    DemoSigned host artifact.body →
      projectionCalls (syncService host step.2.1).service artifact.body event ≠ [] →
        EnrolledSigner host step.2.1.trustKeys artifact.body

/-- After an accepted message that revokes an enrolled key, no message brings an
    artifact that both that key and a demo key signed. -/
def RevokedSignsNoDemo (host : WorkerHost) (earlier later : DeploymentStep) : Prop :=
  ∀ event row event' artifact', earlier.1 = .governanceMessage event →
    RevokesKey host earlier.2.1 event row → later.1 = .governanceMessage event' →
      Brought host later.2.1 event' artifact' →
        Verifies host.signature host.keyMaterial artifact'.body (trustKeyRecordFromRow row) →
          ¬ DemoSigned host artifact'.body

/-- The worker's part of a step is what it does about the message. -/
theorem worker_mem_plan {call : CacheCall} :
    DeploymentAction.worker (.cacheCall call)
        ∈ (deployment host).plan db (.governanceMessage event) ↔
      SyncAction.cacheCall call ∈ syncReference host db event := by
  show _ ∈ (syncReference host db event).map DeploymentAction.worker ↔ _
  constructor
  · intro h
    obtain ⟨action, hmem, heq⟩ := List.mem_map.mp h
    obtain rfl := DeploymentAction.worker.inj heq
    exact hmem
  · intro h
    exact List.mem_map.mpr ⟨_, h, rfl⟩

/-- One planned step keeps the first law exactly when demo signers are enrolled. -/
theorem writesForEnrolled_iff {input : DeploymentInput} :
    WritesForEnrolled host (input, db, (deployment host).plan db input) ↔
      DemoSignerEnrolled host (input, db, (deployment host).plan db input) := by
  constructor
  · intro hlaw event artifact hinput hbrought hsigned hcalls
    obtain rfl : input = .governanceMessage event := hinput
    obtain ⟨call, hcall⟩ := List.exists_mem_of_ne_nil _ hcalls
    exact hlaw event artifact call rfl hbrought
      (worker_mem_plan.mpr ((worker_write_iff hbrought).mpr ⟨hsigned, hcall⟩))
  · intro henrolled event artifact call hinput hbrought hwrite
    obtain rfl : input = .governanceMessage event := hinput
    obtain ⟨hsigned, hcall⟩ := (worker_write_iff hbrought).mp (worker_mem_plan.mp hwrite)
    exact henrolled event artifact rfl hbrought hsigned (List.ne_nil_of_mem hcall)

/-- Two steps keep the second law exactly when the revoked key and a demo key
    do not sign the same artifact. -/
theorem revocationEnds_iff {earlier later : DeploymentStep} :
    RevocationEnds host earlier later ↔ RevokedSignsNoDemo host earlier later := by
  refine forall₄_congr fun event row event' artifact' => ?_
  refine forall₄_congr fun _ _ _ hbrought => ?_
  rw [workerAccepts_iff, and_iff_right hbrought]

/-- **ENROLLED KEYS**: over every host, database and sequence of messages,
    publications, enrolments and status changes, the worker trusts the enrolled
    keys exactly when enrolled keys stand behind what demo keys sign. -/
theorem trusts_enrolled_iff (host : WorkerHost) (db : Database) (inputs : List DeploymentInput) :
    TrustsEnrolledKeys host ((deployment host).trace db inputs) ↔
      (∀ step ∈ (deployment host).trace db inputs, DemoSignerEnrolled host step)
        ∧ ((deployment host).trace db inputs).Pairwise (RevokedSignsNoDemo host) := by
  refine and_congr (forall₂_congr fun step hstep => ?_) ?_
  · obtain ⟨input, db', actions⟩ := step
    obtain ⟨-, rfl⟩ := (deployment host).mem_trace hstep
    exact writesForEnrolled_iff
  · exact List.Pairwise.iff (fun earlier later => revocationEnds_iff)

/-! ## What the key table does not change -/

/-- The worker's own actions leave the artifacts. -/
theorem applyAll_worker (actions : List SyncAction) :
    (deployment host).applyAll db (actions.map .worker) = db := by
  induction actions with
  | nil => rfl
  | cons action rest ih => exact ih

/-- A message leaves the database. -/
theorem step_governanceMessage :
    (deployment host).step db (.governanceMessage event) = db :=
  applyAll_worker _

/-! ## A revoked key that still writes -/

/-- An update of the assurance tier, signed with the demo key of the authority. -/
def tierUpdate : JsonValue :=
  .obj
    [ ("artifact_type", .str "assurance_status_event"),
      ("root_program_id", .str "root:qrtrust-demo:2026"),
      ("delegated_authority_id", .str "authority:qrtrust-demo:merchant-web"),
      ("target", .obj
        [("target_type", .str "issuer"), ("issuer_id", .str "issuer:acme-demo")]),
      ("new_assurance_tier", .str "verified_business"),
      ("signed_by", .str "authority:qrtrust-demo:merchant-web"),
      ("signature_status", .str trustSignatureStatus),
      ("signature_algorithm_id", .str "ed25519"), ("signature_input", .str trustSignatureInput),
      ("signature", .str
        "-----BEGIN PUBLIC KEY-----\nMCowBQYDK2VwAyEAJ2O6Y98hIMFptRCGOG1MNCp+3minvjf6egySST3gVAQ=\n-----END PUBLIC KEY-----") ]

/-- A revocation of that key, signed with the demo key of the root. -/
def keyRevocation : JsonValue :=
  .obj
    [ ("artifact_type", .str "revocation_status_event"),
      ("root_program_id", .str "root:qrtrust-demo:2026"),
      ("delegated_authority_id", .str "authority:qrtrust-demo:merchant-web"),
      ("target", .obj
        [ ("target_type", .str "trust_key"),
          ("key_id", .str "key:authority:qrtrust-demo:merchant-web:ed25519:v1") ]),
      ("status", .str "revoked"), ("signed_by", .str "root:qrtrust-demo:2026"),
      ("signature_status", .str trustSignatureStatus),
      ("signature_algorithm_id", .str "ed25519"), ("signature_input", .str trustSignatureInput),
      ("signature", .str
        "-----BEGIN PUBLIC KEY-----\nMCowBQYDK2VwAyEAseMBxIZiw1NaivXwFJ+8NldswDygR/KBWhRAXdyvAvs=\n-----END PUBLIC KEY-----") ]

/-- The digests of the two bodies. -/
def tierUpdateHash : String :=
  "8f75c1a6edf9187573598fb6f15c9b9c8ef89f82c54b08930573e7c5fa09fc68"

def keyRevocationHash : String :=
  "f9304ee48880881c1f2bf3582c28405fa31ee4d188b12f02006dd3be68a24839"

/-- A host that knows the two digests, and whose signatures name their keys. -/
def demoHost : WorkerHost where
  js :=
    { parseUrl := fun _ => none
      toLowerCase := fun text => text
      toISOString := fun _ => none
      hashJson := fun body =>
        if hasArtifactType body "revocation_status_event" then keyRevocationHash
        else tierUpdateHash }
  signature := namingHost
  keyMaterial := inlineMaterial

/-- The demo key of the authority, enrolled and active. -/
def enrolledRow : TrustKeyRow where
  keyId := "key:authority:qrtrust-demo:merchant-web:ed25519:v1"
  rootProgramId := "root:qrtrust-demo:2026"
  delegatedAuthorityId := some "authority:qrtrust-demo:merchant-web"
  signerId := "authority:qrtrust-demo:merchant-web"
  algorithmId := "ed25519"
  publicKeyMaterialRef := "pem://fixture/authority/qrtrust-demo-merchant-web"
  publicKeyMaterialPem := some
    "-----BEGIN PUBLIC KEY-----\nMCowBQYDK2VwAyEAJ2O6Y98hIMFptRCGOG1MNCp+3minvjf6egySST3gVAQ=\n-----END PUBLIC KEY-----"
  scope := .delegatedAuthority
  keyStatus := .active
  notBefore := none
  notAfter := none
  createdAt := 0

/-- Both artifacts are published, and the key is enrolled. -/
def demoDatabase : Database where
  publishedArtifacts := .ofList
    [ ("artifact:tier", ⟨"sha256:" ++ tierUpdateHash, tierUpdate⟩),
      ("artifact:revocation", ⟨"sha256:" ++ keyRevocationHash, keyRevocation⟩) ]
  trustKeys := TrustKeyTable.empty.put enrolledRow

/-- A message about one of the two artifacts. -/
def demoEvent (type artifactId digest : String) : NetworkEvent where
  type := type
  occurredAt := "2026-06-01T00:00:00Z"
  rootProgramId := "root:qrtrust-demo:2026"
  delegatedAuthorityId := some "authority:qrtrust-demo:merchant-web"
  issuerId := none
  destinationPolicyId := none
  artifactId := artifactId
  artifactHash := "sha256:" ++ digest

def tierUpdateEvent : NetworkEvent :=
  demoEvent "issuer.status.changed" "artifact:tier" tierUpdateHash

def keyRevocationEvent : NetworkEvent :=
  demoEvent "trust_key.status.changed" "artifact:revocation" keyRevocationHash

/-- The management plane revokes the key. -/
def revokeEnrolled : TrustKeyStatusUpdateInput where
  rootProgramId := "root:qrtrust-demo:2026"
  keyId := "key:authority:qrtrust-demo:merchant-web:ed25519:v1"
  status := .revoked
  delegatedAuthorityId := none

/-- The two artifacts with their keys, and what the worker checks of them, their
    signatures aside. -/
def checkedArtifacts : {entries : List (JsonValue × String × NetworkEvent × TrustKeyRecord) //
    entries = [(tierUpdate, tierUpdateHash, tierUpdateEvent, demoDelegatedAuthorityTrustKey),
        (keyRevocation, keyRevocationHash, keyRevocationEvent, demoRootTrustKey)]
      ∧ ∀ entry ∈ entries, defaultTrustKeys.find? (usableFor entry.1) = some entry.2.2.2
        ∧ isRecognizedTrustArtifact entry.1 = true
        ∧ trustArtifactScopeMatchesBody entry.1 = true
        ∧ hashesMatch (syncService demoHost demoDatabase).service
            ⟨"sha256:" ++ entry.2.1, entry.1⟩ entry.2.2.1 = true} :=
  ⟨_, rfl, by decide +kernel⟩

theorem demo_checked :
    (defaultTrustKeys.find? (usableFor tierUpdate) = some demoDelegatedAuthorityTrustKey
        ∧ isRecognizedTrustArtifact tierUpdate = true
        ∧ trustArtifactScopeMatchesBody tierUpdate = true
        ∧ hashesMatch (syncService demoHost demoDatabase).service
            ⟨"sha256:" ++ tierUpdateHash, tierUpdate⟩ tierUpdateEvent = true)
      ∧ defaultTrustKeys.find? (usableFor keyRevocation) = some demoRootTrustKey
        ∧ isRecognizedTrustArtifact keyRevocation = true
        ∧ trustArtifactScopeMatchesBody keyRevocation = true
        ∧ hashesMatch (syncService demoHost demoDatabase).service
            ⟨"sha256:" ++ keyRevocationHash, keyRevocation⟩ keyRevocationEvent = true := by
  obtain ⟨entries, hentries, hall⟩ := checkedArtifacts
  rw [hentries] at hall
  obtain ⟨htier, hall⟩ := List.forall_mem_cons.mp hall
  have hkey := List.forall_mem_singleton.mp hall
  exact ⟨htier, hkey⟩

theorem tierUpdate_demoSigned : DemoSigned demoHost tierUpdate := by
  obtain ⟨⟨hkey, -, hscope, -⟩, -⟩ := demo_checked
  exact ⟨⟨rfl, rfl⟩,
    ⟨demoDelegatedAuthorityTrustKey, hkey, _, _, rfl, rfl, namingHost_verifies.mpr rfl⟩, hscope⟩

theorem tierUpdate_brought {table : TrustKeyTable} :
    Brought demoHost ⟨demoDatabase.publishedArtifacts, table⟩ tierUpdateEvent
      ⟨"sha256:" ++ tierUpdateHash, tierUpdate⟩ := by
  -- the service of the worker does not read the table
  obtain ⟨⟨-, hrecognized, -, hhashed⟩, -⟩ := demo_checked
  exact ⟨⟨by decide, rfl, hhashed⟩, hrecognized⟩

/-- What the guard reads from the revocation. -/
def readKeyRevocation : RevocationStatusArtifactBody where
  rootProgramId := "root:qrtrust-demo:2026"
  delegatedAuthorityId := "authority:qrtrust-demo:merchant-web"
  targetType := .trustKey
  targetIssuerId := none
  targetDestinationPolicyId := none
  targetKeyId := some "key:authority:qrtrust-demo:merchant-web:ed25519:v1"
  status := .revoked
  signedBy := "root:qrtrust-demo:2026"
  signatureAlgorithmId := "ed25519"

theorem keyRevocation_revokes :
    RevokesKey demoHost demoDatabase keyRevocationEvent enrolledRow := by
  obtain ⟨-, hkey, hrecognized, hscope, hhashed⟩ := demo_checked
  have hsigned : DemoSigned demoHost keyRevocation :=
    ⟨⟨rfl, rfl⟩, ⟨demoRootTrustKey, hkey, _, _, rfl, rfl, namingHost_verifies.mpr rfl⟩, hscope⟩
  have hbrought : Brought demoHost demoDatabase keyRevocationEvent
      ⟨"sha256:" ++ keyRevocationHash, keyRevocation⟩ :=
    ⟨⟨by decide, rfl, hhashed⟩, hrecognized⟩
  have hfind : ((syncService demoHost demoDatabase).keysOf subscriberState.trustKeyRegistry).find?
      (usableFor keyRevocation) = some demoRootTrustKey := by
    show (makeInMemoryTrustKeyRegistry defaultTrustKeys).values.find? _ = _
    rw [defaultRegistry_values]
    exact hkey
  exact ⟨List.mem_singleton_self _, _, demoRootTrustKey, readKeyRevocation,
    ⟨workerAccepts_iff.mpr ⟨hbrought, hsigned⟩, hfind⟩, rfl, rfl, rfl, rfl, by decide⟩

/-- **A REVOKED KEY WRITES**: the management plane revokes the only enrolled key,
    and the worker still writes what it signed; and after a revocation that the
    worker accepts and acknowledges, it still accepts what the key signed. -/
theorem revoked_key_writes :
    ¬ TrustsEnrolledKeys demoHost ((deployment demoHost).trace demoDatabase
        [.updateTrustKeyStatus revokeEnrolled, .governanceMessage tierUpdateEvent])
      ∧ ¬ TrustsEnrolledKeys demoHost ((deployment demoHost).trace demoDatabase
        [.governanceMessage keyRevocationEvent, .governanceMessage tierUpdateEvent])
      ∧ (natsGovernanceSyncReportAcceptance keyRevocationEvent
          (syncRecent (syncService demoHost demoDatabase).service subscriberState
            [keyRevocationEvent]).2).accepted = true := by
  refine ⟨fun htrusts => ?_, fun htrusts => ?_, by decide +kernel⟩
  · have hstep := htrusts.1 _ (List.mem_cons_of_mem _ (List.mem_cons_self ..))
    obtain ⟨row, hrow, hactive, -⟩ := writesForEnrolled_iff.mp hstep tierUpdateEvent _ rfl
      tierUpdate_brought tierUpdate_demoSigned (by decide +kernel)
    have hrevoked : ∀ row ∈ ((deployment demoHost).step demoDatabase
        (.updateTrustKeyStatus revokeEnrolled)).trustKeys.rows.values,
        row.keyStatus ≠ .active := by decide +kernel
    exact hrevoked row hrow hactive
  · obtain ⟨-, hpairs⟩ := htrusts
    rw [Runs.Machine.trace, Runs.Machine.trace, step_governanceMessage] at hpairs
    have hpair := (List.pairwise_cons.mp hpairs).1 _ (List.mem_cons_self ..)
    have hverifies : Verifies demoHost.signature demoHost.keyMaterial tierUpdate
        (trustKeyRecordFromRow enrolledRow) :=
      ⟨_, _, rfl, rfl, namingHost_verifies.mpr rfl⟩
    exact revocationEnds_iff.mp hpair keyRevocationEvent enrolledRow tierUpdateEvent _ rfl
      keyRevocation_revokes rfl tierUpdate_brought hverifies tierUpdate_demoSigned

end GovernanceSubscriber
