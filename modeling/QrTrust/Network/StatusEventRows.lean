import QrTrust.Network.ArtifactPublication

/-! # Rows of status events

    `statusEventCommand` writes a revocation to `qr_trust.status_events`.  What the
    event is about goes into two columns: the type of the target and an id, which
    is the first identifier that the target names, whatever its type. -/

namespace StatusEventRows

open ArtifactPublication

/-- A row of `qr_trust.status_events`. -/
structure StatusEventRow where
  statusEventId : String
  rootProgramId : String
  delegatedAuthorityId : Option String
  issuerId : Option String
  destinationPolicyId : Option String
  targetType : String
  targetId : String
  status : String
  reasonCode : String
  effectiveAt : String
  deriving DecidableEq, Repr

/-- The identifiers that a target can name. -/
inductive TargetField where
  | issuerId
  | certificateRef
  | destinationPolicyId
  | delegatedAuthorityId
  | keyId
  deriving DecidableEq, Repr

/-- The key of an identifier. -/
def TargetField.key : TargetField → String
  | .issuerId => "issuer_id"
  | .certificateRef => "certificate_ref"
  | .destinationPolicyId => "destination_policy_id"
  | .delegatedAuthorityId => "delegated_authority_id"
  | .keyId => "key_id"

/-- The identifiers, in the order of `targetIdFromStatusTarget`. -/
def TargetField.order : List TargetField :=
  [.issuerId, .certificateRef, .destinationPolicyId, .delegatedAuthorityId, .keyId]

/-- `stringValue` of a property of the target. -/
def namedBy (target : Option JsonValue) (field : TargetField) : Option String :=
  stringValue (target.bind (·.prop field.key))

/-- `targetIdFromStatusTarget`. -/
def targetIdFromStatusTarget (target : Option JsonValue) : Option String :=
  TargetField.order.findSome? (namedBy target)

/-- `requireString`. -/
def requireString (value : Option String) (message : String) : Except String String :=
  match value.filter (· ≠ "") with
  | some value => .ok value
  | none => .error message

/-- `statusEventCommand`: no row for an artifact of another type. -/
def statusEventCommand (artifact : SignedArtifact) : Except String (Option StatusEventRow) :=
  let body := artifact.body
  if body.stringField "artifact_type" ≠ some "revocation_status_event" then .ok none
  else do
    let target := recordProp body "target"
    let missing := fun (what : String) =>
      "Status artifact " ++ artifact.artifactId ++ " is missing " ++ what ++ "."
    let targetType ← requireString (stringValue (target.bind (·.prop "target_type")))
      (missing "target_type")
    let targetId ← requireString (targetIdFromStatusTarget target) (missing "target identifier")
    let statusEventId ← requireString (stringValue (body.prop "status_event_id"))
      (missing "status_event_id")
    let rootProgramId ← requireString (stringValue (body.prop "root_program_id"))
      (missing "root_program_id")
    let status ← requireString (stringValue (body.prop "status")) (missing "status")
    let effectiveAt ← requireString (stringValue (body.prop "effective_at"))
      (missing "effective_at")
    return some
      { statusEventId := statusEventId
        rootProgramId := rootProgramId
        delegatedAuthorityId := stringValue (body.prop "delegated_authority_id")
        issuerId := namedBy target .issuerId
        destinationPolicyId := namedBy target .destinationPolicyId
        targetType := targetType
        targetId := targetId
        status := status
        reasonCode := (stringValue (body.prop "reason")).getD "unspecified"
        effectiveAt := effectiveAt }

end StatusEventRows
