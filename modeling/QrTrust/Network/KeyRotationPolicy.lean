import QrTrust.Network.TrustKeys

/-! # The rotation policy of trust keys

    A rotation plan names the key in use, the key that follows it, and the
    times between which both are in use.  `assessTrustKeyRotation` collects
    reason codes for the plan; a plan without a rejecting or a warning code is
    accepted. -/

namespace KeyRotationPolicy

open TrustKeys

/-- `RotationAssessmentStatus`. -/
inductive RotationAssessmentStatus where
  | accepted
  | warning
  | rejected
  deriving DecidableEq, Repr

/-- `RotationReasonCode`. -/
inductive RotationReasonCode where
  | plannedOverlapAccepted
  | sameKeyId
  | scopeMismatch
  | rootProgramMismatch
  | signerMismatch
  | delegatedAuthorityMismatch
  | nextKeyNotActive
  | currentKeyTerminalWithoutEmergency
  | overlapTooShort
  | overlapTooLong
  | verifierCacheOutlivesRotation
  | emergencyRevocationNotApplied
  | emergencyRevocationSlaMissed
  | emergencyRevocationAccepted
  deriving DecidableEq, Repr

/-- `VerifierCacheRotationInstruction`. -/
inductive VerifierCacheRotationInstruction where
  | acceptOverlap
  | refreshBeforeGreen
  | failClosed
  deriving DecidableEq, Repr

/-- `TrustKeyRotationPolicy`. -/
structure TrustKeyRotationPolicy where
  scope : TrustKeyScope
  minimumOverlapSeconds : Rat
  maximumOverlapSeconds : Rat
  emergencyRevocationSlaSeconds : Rat
  cacheMustExpireBeforeRetiredKey : Bool

/-- The time value of a date in milliseconds; an invalid date has none, and a
    comparison with it is false. -/
abbrev TimeValue := Option Int

/-- `TrustKeyRotationPlan`. -/
structure TrustKeyRotationPlan where
  currentKey : TrustKeyRecord
  nextKey : TrustKeyRecord
  nextKeyActivatesAt : TimeValue
  currentKeyRetiresAt : TimeValue
  verifierCacheExpiresAt : Option TimeValue
  emergencyRevokedAt : Option TimeValue
  emergencyStatusEventPublishedAt : Option TimeValue

/-- `TrustKeyRotationAssessment`. -/
structure TrustKeyRotationAssessment where
  status : RotationAssessmentStatus
  reasonCodes : List RotationReasonCode
  overlapSeconds : Option Int
  verifierCacheInstruction : VerifierCacheRotationInstruction
  deriving DecidableEq, Repr

/-- `defaultRootTrustKeyRotationPolicy`. -/
def defaultRootTrustKeyRotationPolicy : TrustKeyRotationPolicy where
  scope := .rootProgram
  minimumOverlapSeconds := 7 * 24 * 60 * 60
  maximumOverlapSeconds := 45 * 24 * 60 * 60
  emergencyRevocationSlaSeconds := 60 * 60
  cacheMustExpireBeforeRetiredKey := true

/-- `defaultDelegatedAuthorityTrustKeyRotationPolicy`. -/
def defaultDelegatedAuthorityTrustKeyRotationPolicy : TrustKeyRotationPolicy where
  scope := .delegatedAuthority
  minimumOverlapSeconds := 24 * 60 * 60
  maximumOverlapSeconds := 14 * 24 * 60 * 60
  emergencyRevocationSlaSeconds := 15 * 60
  cacheMustExpireBeforeRetiredKey := true

/-- `rejectionCodes`. -/
def rejectionCodes : List RotationReasonCode :=
  [ .sameKeyId, .scopeMismatch, .rootProgramMismatch, .signerMismatch,
    .delegatedAuthorityMismatch, .nextKeyNotActive, .currentKeyTerminalWithoutEmergency,
    .overlapTooShort, .emergencyRevocationNotApplied ]

/-- `secondsBetween`: whole seconds, rounded down. -/
def secondsBetween (start stop : TimeValue) : Option Int := do
  let start ← start
  let stop ← stop
  return (stop - start) / 1000

/-- A reason code where its condition holds. -/
def reasonIf (condition : Bool) (code : RotationReasonCode) : List RotationReasonCode :=
  if condition then [code] else []

/-- The reason codes about the two keys. -/
def keyReasonCodes (policy : TrustKeyRotationPolicy) (plan : TrustKeyRotationPlan) :
    List RotationReasonCode :=
  reasonIf (plan.currentKey.keyId = plan.nextKey.keyId) .sameKeyId
  ++ reasonIf (plan.currentKey.scope ≠ policy.scope || plan.nextKey.scope ≠ policy.scope)
      .scopeMismatch
  ++ reasonIf (plan.currentKey.rootProgramId ≠ plan.nextKey.rootProgramId) .rootProgramMismatch
  ++ reasonIf (plan.currentKey.signerId ≠ plan.nextKey.signerId) .signerMismatch
  ++ reasonIf (plan.currentKey.scope = .delegatedAuthority
        && plan.currentKey.delegatedAuthorityId ≠ plan.nextKey.delegatedAuthorityId)
      .delegatedAuthorityMismatch
  ++ reasonIf (plan.nextKey.status ≠ .active) .nextKeyNotActive
  ++ reasonIf (plan.emergencyRevokedAt.isNone
        && (plan.currentKey.status = .revoked || plan.currentKey.status = .expired))
      .currentKeyTerminalWithoutEmergency

/-- The reason codes about the overlap and the caches that outlive it. -/
def overlapReasonCodes (policy : TrustKeyRotationPolicy) (plan : TrustKeyRotationPlan)
    (overlapSeconds : Option Int) : List RotationReasonCode :=
  (if overlapSeconds.any fun overlap => overlap < policy.minimumOverlapSeconds then
    [.overlapTooShort]
  else [.plannedOverlapAccepted])
  ++ reasonIf (overlapSeconds.any fun overlap => policy.maximumOverlapSeconds < overlap)
      .overlapTooLong
  ++ reasonIf (policy.cacheMustExpireBeforeRetiredKey
        && plan.verifierCacheExpiresAt.any fun expires =>
          expires.any fun expires => plan.currentKeyRetiresAt.any fun retires => retires < expires)
      .verifierCacheOutlivesRotation

/-- The reason codes about an emergency revocation. -/
def emergencyReasonCodes (policy : TrustKeyRotationPolicy) (plan : TrustKeyRotationPlan) :
    List RotationReasonCode :=
  match plan.emergencyRevokedAt with
  | none => []
  | some revokedAt =>
      (if plan.currentKey.status ≠ .revoked ∧ plan.currentKey.status ≠ .suspended then
        [.emergencyRevocationNotApplied]
      else [.emergencyRevocationAccepted])
      ++ match plan.emergencyStatusEventPublishedAt with
        | none => []
        | some publishedAt =>
            reasonIf ((secondsBetween revokedAt publishedAt).any fun latency =>
              policy.emergencyRevocationSlaSeconds < latency) .emergencyRevocationSlaMissed

/-- `assessmentStatus`. -/
def assessmentStatus (reasonCodes : List RotationReasonCode) : RotationAssessmentStatus :=
  if reasonCodes.any fun code => rejectionCodes.contains code then .rejected
  else if reasonCodes.contains .overlapTooLong
      || reasonCodes.contains .verifierCacheOutlivesRotation
      || reasonCodes.contains .emergencyRevocationSlaMissed then .warning
  else .accepted

/-- `cacheInstruction`. -/
def cacheInstruction (status : RotationAssessmentStatus)
    (reasonCodes : List RotationReasonCode) : VerifierCacheRotationInstruction :=
  if status = .rejected then .failClosed
  else if reasonCodes.contains .verifierCacheOutlivesRotation
      || reasonCodes.contains .emergencyRevocationAccepted then .refreshBeforeGreen
  else .acceptOverlap

/-- `dedupe`: the first of equal values stays. -/
def dedupe (values : List RotationReasonCode) : List RotationReasonCode :=
  values.foldl (fun seen value => if seen.contains value then seen else seen ++ [value]) []

/-- `assessTrustKeyRotation`. -/
def assessTrustKeyRotation (policy : TrustKeyRotationPolicy) (plan : TrustKeyRotationPlan) :
    TrustKeyRotationAssessment :=
  let overlapSeconds := secondsBetween plan.nextKeyActivatesAt plan.currentKeyRetiresAt
  let reasonCodes := keyReasonCodes policy plan
    ++ overlapReasonCodes policy plan overlapSeconds ++ emergencyReasonCodes policy plan
  let status := assessmentStatus reasonCodes
  { status
    reasonCodes := dedupe reasonCodes
    overlapSeconds
    verifierCacheInstruction := cacheInstruction status reasonCodes }

end KeyRotationPolicy
