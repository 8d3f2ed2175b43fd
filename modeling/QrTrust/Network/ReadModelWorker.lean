import QrTrust.Lib.Runs
import QrTrust.Network.CacheMaterialization
import QrTrust.Network.PostgresArtifactStore

/-! # The read-model worker and its authorizer

    The queue worker takes the work items of a batch one after the other.  For
    each, `makeVerifierCacheReadModelWorkItemAuthorizer` fetches five artifacts
    and verifies their signatures; then `makeVerifierCacheReadModelWorker`
    fetches the five again, by the same ids, and materializes them.  Every fetch
    and every verification reads the database anew, so publications and changes
    of the trust keys may fall between any two steps. -/

namespace ReadModelWorker

open ArtifactPublication NatsPropagation TrustKeys SignatureVerification
open CacheMaterialization VerifierCache PostgresArtifactStore

/-- The artifacts of a work item, by what they are. -/
inductive ArtifactRole where
  | rootManifest
  | delegatedAuthorityManifest
  | issuerRecord
  | destinationPolicy
  | statusEvent
  deriving DecidableEq, Repr

/-- How the messages call an artifact. -/
def ArtifactRole.label : ArtifactRole → String
  | rootManifest => "root manifest"
  | delegatedAuthorityManifest => "delegated authority manifest"
  | issuerRecord => "issuer record"
  | destinationPolicy => "destination policy"
  | statusEvent => "status event"

/-- `VerifierCacheReadModelWorkItem`, without its scanner probes. -/
structure VerifierCacheReadModelWorkItem where
  verifierId : String
  artifacts : ArtifactRole → String
  materializedAt : Option Int

/-- What the worker runs with. -/
structure WorkerHost where
  store : StoreHost
  materialization : MaterializationHost
  keyMaterial : KeyMaterialProvider

/-! ## The authorizer -/

/-- `fetchRequiredArtifact`, with the message of its caller. -/
def fetchRequiredArtifact (host : WorkerHost) (rows : PublishedArtifacts)
    (artifactId message : String) : Exit NetworkError SignedArtifact :=
  (PostgresArtifactStore.get host.store rows artifactId).bind fun found =>
    match found with
    | some artifact => .succeed artifact
    | none => .fail (contractValidationError message)

/-- `recordValue`. -/
def recordValue (value : Option JsonValue) (label : String) : Exit NetworkError JsonValue :=
  match value with
  | some (.obj fields) => .succeed (.obj fields)
  | _ => .fail (contractValidationError
      ("Verifier cache work-item authorization expected " ++ label ++ " to be an object."))

/-- `requireString`. -/
def requireString (record : JsonValue) (field : String) : Exit NetworkError String :=
  match (record.stringField field).filter (· ≠ "") with
  | some s => .succeed s
  | none => .fail (contractValidationError
      ("Verifier cache work-item authorization expected " ++ field ++ " to be a string."))

/-- `failAuthorization`: the reason is a detail of the error. -/
def failAuthorization {α : Type} : Exit NetworkError α :=
  .fail (contractValidationError "Verifier cache work item status event is not authorized.")

/-- The body of an artifact whose row and whose body both say its type. -/
def typedBody (artifact : SignedArtifact) (artifactType rowMessage bodyLabel bodyMessage : String) :
    Exit NetworkError JsonValue :=
  if artifact.artifactType ≠ artifactType then .fail (contractValidationError rowMessage)
  else
    (recordValue (some artifact.body) bodyLabel).bind fun body =>
      (requireString body "artifact_type").bind fun bodyType =>
        if bodyType ≠ artifactType then .fail (contractValidationError bodyMessage)
        else .succeed body

/-- `issuerNamespaceFromArtifact`. -/
def issuerNamespaceFromArtifact (artifact : SignedArtifact) :
    Exit NetworkError IssuerNamespace :=
  (typedBody artifact "issuer_record"
    "Verifier cache work item issuer artifact has the wrong type." "issuer record body"
    "Verifier cache work item issuer body has the wrong artifact type.").bind fun body =>
      (recordValue (body.prop "issuer_namespace") "issuer namespace").bind fun ns =>
        (requireString ns "root_program_id").bind fun rootProgramId =>
          (requireString ns "delegated_authority_id").bind fun delegatedAuthorityId =>
            (requireString ns "issuer_id").bind fun issuerId =>
              .succeed ⟨rootProgramId, delegatedAuthorityId, issuerId⟩

/-- `statusEventBody`. -/
def statusEventBody (artifact : SignedArtifact) : Exit NetworkError JsonValue :=
  typedBody artifact "revocation_status_event"
    "Verifier cache work item status artifact has the wrong type." "status event body"
    "Verifier cache work item status body has the wrong artifact type."

/-- What the authorizer reads of the issuer record and the status event. -/
structure StatusClaims where
  issuerNamespace : IssuerNamespace
  targetType : String
  issuerId : String
  signedBy : String
  rootProgramId : String
  delegatedAuthorityId : String
  deriving DecidableEq, Repr

/-- The reads that follow the fetches. -/
def readClaims (issuerRecord statusEvent : SignedArtifact) : Exit NetworkError StatusClaims :=
  (issuerNamespaceFromArtifact issuerRecord).bind fun issuerNamespace =>
    (statusEventBody statusEvent).bind fun body =>
      (recordValue (body.prop "target") "status event target").bind fun target =>
        (requireString target "target_type").bind fun targetType =>
          (requireString target "issuer_id").bind fun issuerId =>
            (requireString body "signed_by").bind fun signedBy =>
              (requireString body "root_program_id").bind fun rootProgramId =>
                (requireString body "delegated_authority_id").bind fun delegatedAuthorityId =>
                  .succeed { issuerNamespace, targetType, issuerId, signedBy, rootProgramId,
                             delegatedAuthorityId }

/-- The checks between the source signatures and the signature of the event. -/
def requireStatusScope (claims : StatusClaims) : Exit NetworkError Unit :=
  if claims.rootProgramId ≠ claims.issuerNamespace.rootProgramId then failAuthorization
  else if claims.delegatedAuthorityId ≠ claims.issuerNamespace.delegatedAuthorityId
      ∨ claims.issuerId ≠ claims.issuerNamespace.issuerId then failAuthorization
  else if claims.targetType ≠ "issuer_record" then failAuthorization
  else if claims.signedBy ≠ claims.delegatedAuthorityId then failAuthorization
  else .succeed ()

/-- `signedTrustArtifactBody`. -/
def signedTrustArtifactBody (artifact : SignedArtifact) (label : String) :
    Exit NetworkError JsonValue :=
  (recordValue (some artifact.body) (label ++ " body")).bind fun body =>
    (requireString body "artifact_type").bind fun artifactType =>
      if artifactType ≠ artifact.artifactType then
        .fail (contractValidationError
          "Verifier cache work-item authorization source artifact type mismatch.")
      else
        (requireString body "root_program_id").bind fun _ =>
          (requireString body "signed_by").bind fun _ =>
            (requireString body "signature_status").bind fun _ => .succeed body

/-- `verifyTrustArtifact` of the cryptographic verifier: no answer but acceptance
    lets the authorizer go on. -/
def requireAccepted (host : WorkerHost) (keys : List TrustKeyRecord) (body : JsonValue) :
    Exit NetworkError Unit :=
  match verifyTrustArtifact host.store.toSignatureHost (selectTrustKeyForLookup keys)
      host.keyMaterial body with
  | .ok result => if result.accepted then .succeed () else failAuthorization
  | .error cause => .fail (contractValidationError cause)

/-- `verifyRequiredTrustSignature`, and for the status event, whose body has been
    read before, the verification alone. -/
def verifySignature (host : WorkerHost) (keys : List TrustKeyRecord) (role : ArtifactRole)
    (artifact : SignedArtifact) : Exit NetworkError Unit :=
  match role with
  | .statusEvent => requireAccepted host keys artifact.body
  | _ => (signedTrustArtifactBody artifact role.label).bind fun body =>
      requireAccepted host keys body

/-! ## The steps of a work item -/

/-- What happens between two reads of the database. -/
inductive Step where
  /-- the authorizer fetches an artifact -/
  | fetch (role : ArtifactRole)
  | readClaims
  | verifySignature (role : ArtifactRole)
  | requireStatusScope
  /-- the read-model worker fetches the artifact again -/
  | refetch (role : ArtifactRole)
  deriving DecidableEq, Repr

/-- `authorize`, and then `process` up to the materialization. -/
def program : List Step :=
  [.fetch .issuerRecord, .fetch .rootManifest, .fetch .delegatedAuthorityManifest,
    .fetch .destinationPolicy, .fetch .statusEvent,
    .readClaims,
    .verifySignature .rootManifest, .verifySignature .delegatedAuthorityManifest,
    .verifySignature .issuerRecord, .verifySignature .destinationPolicy,
    .requireStatusScope,
    .verifySignature .statusEvent,
    .refetch .rootManifest, .refetch .delegatedAuthorityManifest, .refetch .issuerRecord,
    .refetch .destinationPolicy, .refetch .statusEvent]

/-- A work item on its way: what has been read, the key that decided each accepted
    signature (a history that no step reads), and the steps to come. -/
structure Progress where
  item : VerifierCacheReadModelWorkItem
  fetched : ArtifactRole → Option SignedArtifact
  claims : Option StatusClaims
  signers : ArtifactRole → Option TrustKeyRecord
  refetched : ArtifactRole → Option SignedArtifact
  pending : List Step

/-- The start of a work item. -/
def Progress.start (item : VerifierCacheReadModelWorkItem) : Progress where
  item := item
  fetched _ := none
  claims := none
  signers _ := none
  refetched _ := none
  pending := program

/-- The first key that the lookup for a body finds usable. -/
def decidingKey (keys : List TrustKeyRecord) (body : JsonValue) : Option TrustKeyRecord :=
  ((acceptedAlgorithmIds body).bind (lookupInput body)).bind fun input =>
    (selectTrustKeyForLookup keys input).key

/-- One step, on the rows and the keys it meets. -/
def runStep (host : WorkerHost) (rows : PublishedArtifacts) (keys : List TrustKeyRecord)
    (p : Progress) : Step → Exit NetworkError Progress
  | .fetch role =>
      (fetchRequiredArtifact host rows (p.item.artifacts role)
        ("Verifier cache work-item authorizer could not find " ++ role.label
          ++ " artifact.")).bind fun artifact =>
        .succeed { p with fetched := Function.update p.fetched role (some artifact) }
  | .readClaims =>
      match p.fetched .issuerRecord, p.fetched .statusEvent with
      | some issuerRecord, some statusEvent =>
          (readClaims issuerRecord statusEvent).bind fun claims =>
            .succeed { p with claims := some claims }
      | _, _ => .die
  | .verifySignature role =>
      match p.fetched role with
      | some artifact =>
          (verifySignature host keys role artifact).bind fun _ =>
            .succeed { p with
              signers := Function.update p.signers role (decidingKey keys artifact.body) }
      | none => .die
  | .requireStatusScope =>
      match p.claims with
      | some claims => (requireStatusScope claims).bind fun _ => .succeed p
      | none => .die
  | .refetch role =>
      (fetchRequiredArtifact host rows (p.item.artifacts role)
        ("Verifier cache read-model worker could not find " ++ role.label
          ++ " artifact.")).bind fun artifact =>
        .succeed { p with refetched := Function.update p.refetched role (some artifact) }

/-- What the materialization is given. -/
def Progress.materializationInput (p : Progress) : Option VerifierCacheMaterializationInput := do
  let rootManifest ← p.refetched .rootManifest
  let delegatedAuthorityManifest ← p.refetched .delegatedAuthorityManifest
  let issuerRecord ← p.refetched .issuerRecord
  let destinationPolicy ← p.refetched .destinationPolicy
  let statusEvent ← p.refetched .statusEvent
  return { rootManifest, delegatedAuthorityManifest, issuerRecord, destinationPolicy,
           statusEvent
           materializedAt := p.item.materializedAt
           maxStalenessSeconds := none
           staleBehavior := none }

/-- A row of `verifier_cache_entries`, as the worker persists it. -/
structure VerifierCacheEntryWrite where
  verifierId : String
  issuer : IssuerProjection
  policy : DestinationPolicyProjection
  sourceArtifactHashes : List String
  freshnessStatus : String
  deriving DecidableEq, Repr

/-- The row of a report. -/
def cacheEntryWrite (verifierId : String) (report : VerifierCacheMaterializationReport) :
    VerifierCacheEntryWrite where
  verifierId := verifierId
  issuer := report.issuerProjection
  policy := report.destinationPolicyProjection
  sourceArtifactHashes := report.sourceArtifactHashes
  freshnessStatus :=
    if cacheMaterializedAfterExpiryWarning ∈ report.materializationWarnings then "expired"
    else "fresh"

/-! ## The worker and its surroundings -/

/-- A persisted row with the work item it comes from. -/
structure PersistedEntry where
  entry : VerifierCacheEntryWrite
  source : Progress

/-- The database, and what the worker is doing. -/
structure State where
  rows : PublishedArtifacts
  keys : List TrustKeyRecord
  /-- the records of the batch that are still to be processed -/
  batch : List VerifierCacheReadModelWorkItem
  current : Option Progress
  persisted : List PersistedEntry

/-- What happens, one thing at a time. -/
inductive Action where
  | publish (artifact : SignedArtifact)
  /-- the keys a lookup reads have changed -/
  | changeKeys (keys : List TrustKeyRecord)
  /-- the idle worker claims a batch -/
  | claim (batch : List VerifierCacheReadModelWorkItem)
  /-- the worker takes its next step; where that is to persist a row, the statement
      goes through or not -/
  | advance (persists : Bool)
  /-- the worker starts anew -/
  | restart

/-- The worker materializes what it has fetched again, and persists the row. -/
def finish (host : WorkerHost) (s : State) (p : Progress) (persists : Bool) : State :=
  let next := { s with current := none }
  match p.materializationInput with
  | none => next
  | some input =>
      match materializeVerifierCacheEntry host.materialization input with
      | .error _ => next
      | .ok report =>
          if persists then
            { next with
              persisted := s.persisted ++ [⟨cacheEntryWrite p.item.verifierId report, p⟩] }
          else next

/-- The worker takes a step. -/
def advance (host : WorkerHost) (s : State) (persists : Bool) : State :=
  match s.current with
  | none =>
      match s.batch with
      | [] => s
      | item :: rest => { s with batch := rest, current := some (.start item) }
  | some p =>
      match p.pending with
      | [] => finish host s p persists
      | step :: rest =>
          match runStep host s.rows s.keys p step with
          | .succeed next => { s with current := some { next with pending := rest } }
          | .fail _ => { s with current := none }
          | .die => { s with current := none, batch := [] }

/-- What an action does. -/
def apply (host : WorkerHost) (s : State) : Action → State
  | .publish artifact => { s with rows := (put host.store s.rows artifact).2 }
  | .changeKeys keys => { s with keys := keys }
  | .claim batch =>
      if s.current.isNone ∧ s.batch = [] then { s with batch := batch } else s
  | .advance persists => advance host s persists
  | .restart => { s with current := none, batch := [] }

/-- The worker among publications. -/
def machine (host : WorkerHost) : Runs.Machine State Action Action where
  plan _ action := [action]
  apply := apply host

end ReadModelWorker
