import QrTrust.Backend.TrustStore

/-! # The durable trust projection

    The rows of the trust database and what the scanner's store is given of
    them.  A query without an order returns its rows in any order, so a load
    starts from the rows as they were fetched (`FetchedRows.Of`). -/

namespace TrustProjection

open TrustStore DestinationCanonicalization

/-! ## The database -/

/-- The primary key of `qr_trust.issuers`. -/
structure IssuerKey where
  rootProgramId : String
  delegatedAuthorityId : String
  issuerId : String
  deriving DecidableEq, Repr

/-- A row of `qr_trust.issuers`. -/
structure IssuerRow where
  key : IssuerKey
  displayName : String
  enrollmentStatus : String
  allowSubdomains : Bool
  expiresAt : Option Datetime
  createdAt : Datetime
  deriving DecidableEq, Repr

/-- A row of `qr_trust.issuer_certificates`. -/
structure CertificateRow where
  certificateId : String
  issuer : IssuerKey
  algorithmId : String
  publicKeyMaterialPem : Option String
  keyStatus : String
  notBefore : Datetime
  notAfter : Option Datetime
  revokedAt : Option Datetime
  revocationReason : Option String
  deriving DecidableEq, Repr

/-- A row of `qr_trust.issuer_domain_proofs`. -/
structure DomainProofRow where
  issuer : IssuerKey
  domain : String
  verificationStatus : String
  expiresAt : Option Datetime
  deriving DecidableEq, Repr

/-- `verification_status = 'verified'`. -/
def DomainProofRow.verified (row : DomainProofRow) : Bool := row.verificationStatus = "verified"

/-- `verification_status in ('pending', 'verified')`. -/
def DomainProofRow.current (row : DomainProofRow) : Bool :=
  row.verificationStatus = "pending" || row.verificationStatus = "verified"

/-- `TrustStateToken`. -/
structure TrustStateToken where
  epoch : String
  version : Nat
  deriving DecidableEq, Repr

/-- A committed state of the trust tables, under the constraints of the schema:
    the primary keys, the references to the issuer, and one current domain proof
    an issuer and domain. -/
structure Database where
  issuers : List IssuerRow
  certificates : List CertificateRow
  domainProofs : List DomainProofRow
  trustState : Option TrustStateToken
  issuers_key : (issuers.map IssuerRow.key).Nodup
  certificates_key : (certificates.map CertificateRow.certificateId).Nodup
  certificates_issuer : ∀ row ∈ certificates, row.issuer ∈ issuers.map IssuerRow.key
  domainProofs_issuer : ∀ row ∈ domainProofs, row.issuer ∈ issuers.map IssuerRow.key
  domainProofs_current :
    ((domainProofs.filter DomainProofRow.current).map fun row => (row.issuer, row.domain)).Nodup

/-! ## The projection of a row -/

/-- `ProjectionDefect`. -/
structure ProjectionDefect where
  defectClass : String
  table : String
  rowRef : String
  detail : String
  deriving DecidableEq, Repr

/-- `TrustSnapshot`. -/
structure TrustSnapshot where
  token : TrustStateToken
  issuers : List IssuerRecord
  keys : List KeyEntry
  defects : List ProjectionDefect

/-- `KEY_PROJECTION`. -/
def keyProjection : String → Option KeyState
  | "active" => some .active
  | "rotated" => some .retired
  | "expired" => some .retired
  | "suspended" => some .suspended
  | "revoked" => some .revoked
  | _ => none

/-- `ISSUER_PROJECTION`. -/
def issuerProjection : String → Option IssuerStatus
  | "active" => some .active
  | "suspended" => some .suspended
  | "revoked" => some .revoked
  | "expired" => some .expired
  | _ => none

/-- `_VERIFYING_STATES`. -/
def verifyingStates : List KeyState := [.active, .retired]

/-- The value of a `KeyState`. -/
def keyStateText : KeyState → String
  | .active => "active"
  | .retired => "retired"
  | .revoked => "revoked"
  | .suspended => "suspended"

variable (py : PyRuntime)

/-- `_usable_public_key`. -/
def usablePublicKey (pem : Option String) : Bool :=
  pem.any fun text => PyString.strip text ≠ "" && py.loadsPemPublicKey text

/-- A defect of a row of `issuer_certificates`. -/
def certificateDefect (defectClass rowRef detail : String) : ProjectionDefect :=
  { defectClass := defectClass
    table := "issuer_certificates"
    rowRef := rowRef
    detail := detail }

/-- `project_certificate_row`. -/
def projectCertificateRow (row : CertificateRow) : Option KeyEntry × Option ProjectionDefect :=
  match keyProjection row.keyStatus with
  | none =>
      (none, some (certificateDefect "excluded-verifying-row" row.certificateId
        ("unrecognized key_status " ++ py.repr row.keyStatus)))
  | some state =>
      let usable := usablePublicKey py row.publicKeyMaterialPem
      if !usable && state ∈ verifyingStates then
        (none, some (certificateDefect "excluded-verifying-row" row.certificateId
          (keyStateText state ++ " key has no usable public key material")))
      else
        (some
          { keyRef := row.certificateId
            issuerId := row.issuer.issuerId
            algorithmId := row.algorithmId
            publicKeyPem := if usable then row.publicKeyMaterialPem else none
            state := state
            notBefore := row.notBefore
            notAfter := row.notAfter
            revokedAt := row.revokedAt
            revocationReason := row.revocationReason
            source := .projection },
         if usable then none
         else some (certificateDefect "projected-blocking-row" row.certificateId
          (keyStateText state ++ " key projected without public key material")))

/-- The record of an issuer row, over its verified domains. -/
def issuerRecord (row : IssuerRow) (status : IssuerStatus)
    (verifiedDomains : OrderedMap String (Option Datetime)) : IssuerRecord :=
  { issuerId := row.key.issuerId
    issuerName := row.displayName
    rootId := row.key.rootProgramId
    status := status
    issuedAt := row.createdAt
    expiresAt := row.expiresAt
    verifiedDomains := verifiedDomains
    allowSubdomains := row.allowSubdomains
    source := .projection }

/-- `project_issuer_row`. -/
def projectIssuerRow (row : IssuerRow) (verifiedDomains : OrderedMap String (Option Datetime)) :
    Except PyError (Option IssuerRecord) :=
  match issuerProjection row.enrollmentStatus with
  | none => .ok none
  | some status => do
      let domains ← canonicalizeVerifiedDomainMap py verifiedDomains false
      return some (issuerRecord row status domains)

/-! ## Loading a snapshot -/

/-- The rows of the three queries, as they were fetched. -/
structure FetchedRows where
  proofRows : List DomainProofRow
  issuerRows : List IssuerRow
  certificateRows : List CertificateRow

/-- The rows are those of the database, in any order. -/
structure FetchedRows.Of (rows : FetchedRows) (db : Database) : Prop where
  proofRows : rows.proofRows.Perm (db.domainProofs.filter DomainProofRow.verified)
  issuerRows : rows.issuerRows.Perm db.issuers
  certificateRows : rows.certificateRows.Perm db.certificates

/-- The verified domains of each issuer, by its `issuer_id`. -/
abbrev ProofsByIssuer := OrderedMap String (OrderedMap String (Option Datetime))

/-- `proofs_by_issuer.setdefault(issuer_id, {})[domain] = expires_at`. -/
def addProof (proofsByIssuer : ProofsByIssuer) (row : DomainProofRow) : ProofsByIssuer :=
  let domains := (proofsByIssuer.get? row.issuer.issuerId).getD .empty
  proofsByIssuer.set row.issuer.issuerId (domains.set row.domain row.expiresAt)

/-- The proof rows, grouped. -/
def groupProofs (rows : List DomainProofRow) : ProofsByIssuer := rows.foldl addProof .empty

/-- The loop that canonicalizes every group in place. -/
def canonicalizeGroups : List (String × OrderedMap String (Option Datetime)) →
    ProofsByIssuer → Except PyError ProofsByIssuer
  | [], proofsByIssuer => .ok proofsByIssuer
  | (issuerId, verifiedDomains) :: rest, proofsByIssuer =>
      match canonicalizeVerifiedDomainMap py verifiedDomains false with
      | .ok domains => canonicalizeGroups rest (proofsByIssuer.set issuerId domains)
      | .error (.canonicalizationError reason) =>
          .error (.trustStateUnavailableError
            ("issuer " ++ py.repr issuerId ++ " has ambiguous verified-domain state: "
              ++ reason))
      | .error exc => .error exc

/-- The record of each issuer row, over the group of its `issuer_id`. -/
def projectIssuerRows (proofsByIssuer : ProofsByIssuer) (rows : List IssuerRow) :
    Except PyError (List IssuerRecord) := do
  let records ← rows.mapM fun row =>
    projectIssuerRow py row ((proofsByIssuer.get? row.key.issuerId).getD .empty)
  return records.filterMap id

/-- `load_trust_snapshot`, over the token and the rows its transaction read. -/
def loadTrustSnapshot (token : Option TrustStateToken) (rows : FetchedRows) :
    Except PyError TrustSnapshot :=
  match token with
  | none =>
      .error (.trustStateUnavailableError
        "governance row 'trust_state' is missing or unreadable")
  | some token => do
      let grouped := groupProofs rows.proofRows
      let proofsByIssuer ← canonicalizeGroups py grouped.entries grouped
      let issuers ← projectIssuerRows py proofsByIssuer rows.issuerRows
      let projected := rows.certificateRows.map (projectCertificateRow py)
      return { token := token
               issuers := issuers
               keys := projected.filterMap Prod.fst
               defects := projected.filterMap Prod.snd }

/-- The store after a snapshot is swapped in. -/
def loadedStore {Governance : Type} (store : ScannerTrustStore Governance ProjectionDefect)
    (snapshot : TrustSnapshot) : ScannerTrustStore Governance ProjectionDefect :=
  store.replaceProjection snapshot.issuers snapshot.keys snapshot.defects

end TrustProjection
