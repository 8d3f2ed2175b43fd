import QrTrust.Network.SigningCustody

/-! # Signing a governance publication

    A publication plan is four artifacts.  The two manifests are signed by the
    root program and the two records by the delegated authority, and the
    publication metadata inside each body is then realigned with the signature
    the body got. -/

namespace GovernancePublication

open SigningCustody

/-- `ArtifactPublicationInput`. -/
structure ArtifactPublicationInput where
  artifactType : String
  artifactId : String
  version : Rat
  rootProgramId : String
  delegatedAuthorityId : Option String := none
  issuerId : Option String := none
  destinationPolicyId : Option String := none
  body : JsonValue
  /-- the time of the date, in milliseconds -/
  occurredAt : Rat
  eventType : String
  reason : String

/-- `GovernancePublicationPlanArtifacts`. -/
structure GovernancePublicationPlanArtifacts where
  rootManifest : ArtifactPublicationInput
  delegatedAuthority : ArtifactPublicationInput
  issuerRecord : ArtifactPublicationInput
  destinationPolicy : ArtifactPublicationInput

/-- The artifacts of a plan, in the order they are published. -/
def GovernancePublicationPlanArtifacts.toList (artifacts : GovernancePublicationPlanArtifacts) :
    List ArtifactPublicationInput :=
  [artifacts.rootManifest, artifacts.delegatedAuthority, artifacts.issuerRecord,
    artifacts.destinationPolicy]

/-- `signatureAlignedPublicationBody`. -/
def signatureAlignedPublicationBody (body : JsonValue) : JsonValue :=
  match body.prop "publication" with
  | some (.obj publication) =>
      body.withField "publication"
        (some (((JsonValue.obj publication).withField "signed_by" (body.prop "signed_by")).withField
          "signature_status" (body.prop "signature_status")))
  | _ => body

/-- The signer a publication is signed as. -/
structure SigningIdentity where
  signedBy : String
  rootProgramId : String
  delegatedAuthorityId : Option String := none

/-- `signPublicationInput`. -/
def signPublicationInput (input : ArtifactPublicationInput) (signer : TrustArtifactSigner)
    (signing : SigningIdentity) : Except String ArtifactPublicationInput := do
  let signed ← signer
    { body := input.body
      signedBy := signing.signedBy
      rootProgramId := signing.rootProgramId
      delegatedAuthorityId := JsString.truthy signing.delegatedAuthorityId }
  return { input with body := signatureAlignedPublicationBody signed.body }

/-- The identity a manifest is signed as: its root program. -/
def manifestIdentity (input : ArtifactPublicationInput) : SigningIdentity where
  signedBy := input.rootProgramId
  rootProgramId := input.rootProgramId

/-- The identity a record is signed as: its delegated authority, where it has one. -/
def recordIdentity (input : ArtifactPublicationInput) : SigningIdentity where
  signedBy := input.delegatedAuthorityId.getD input.rootProgramId
  rootProgramId := input.rootProgramId
  delegatedAuthorityId := JsString.truthy input.delegatedAuthorityId

/-- `signGovernancePublicationPlan`. -/
def signGovernancePublicationPlan (plan : GovernancePublicationPlanArtifacts)
    (signer : TrustArtifactSigner) : Except String GovernancePublicationPlanArtifacts := do
  let rootManifest ←
    signPublicationInput plan.rootManifest signer (manifestIdentity plan.rootManifest)
  let delegatedAuthority ←
    signPublicationInput plan.delegatedAuthority signer (manifestIdentity plan.delegatedAuthority)
  let issuerRecord ←
    signPublicationInput plan.issuerRecord signer (recordIdentity plan.issuerRecord)
  let destinationPolicy ←
    signPublicationInput plan.destinationPolicy signer (recordIdentity plan.destinationPolicy)
  return { rootManifest, delegatedAuthority, issuerRecord, destinationPolicy }

end GovernancePublication
