import QrTrust.Network.CacheMaterialization
import QrTrust.Network.PublicationWorkers

/-! # Subjects of a subscriber

    The subject functions of `nats-governance-subscriber.ts`: which subjects a
    subscriber may be given, which subjects those allow, and what a materializer
    of a stream subscribes to.  A subject is a text; its tokens stand between
    dots. -/

namespace NatsSubjects

open NatsPropagation

/-- `subject.split(".")`. -/
def tokens (subject : String) : List String := (subject.toList.splitOn '.').map String.ofList

/-! ## Subjects that can be given to a subscriber -/

/-- `natsSubjectFamilies`. -/
def natsSubjectFamilies : List String :=
  ["root", "authority", "issuer", "destination", "certificate", "runtime", "verifier", "scanner"]

/-- `controlPlaneSubscriberSubjects`. -/
def controlPlaneSubscriberSubjects : List String :=
  ["qrtrust.control-plane.runtime.provider.upserted.v1",
    "qrtrust.control-plane.authority.nats-subscriber.authorization.changed.v1"]

/-- `natsSubjectTokenPattern.test(token)`: the first and the last character are
    letters or digits, those between them may be dashes too. -/
def natsSubjectTokenPattern (token : String) : Bool :=
  token.toList.head?.any isTokenChar && token.toList.getLast?.any isTokenChar
    && token.toList.all (fun c => isTokenChar c || c = '-')

/-- One round of the loop over the tokens in `isQrTrustSubscriberSubject`. -/
def tokenAllowed (token : String) : Bool :=
  if token = "*" || token = ">" then true
  else !(token.toList.contains '*' || token.toList.contains '>'
    || !natsSubjectTokenPattern token)

/-- `isQrTrustSubscriberSubject`. -/
def isQrTrustSubscriberSubject (subject : String) : Bool :=
  let tokens := tokens subject
  if tokens.length < 4 || tokens[0]? ≠ some "qrtrust" || tokens.any (·.length = 0)
      || !natsSubjectFamilies.contains (tokens[2]?.getD "") then false
  else if !tokens.all tokenAllowed then false
  else if tokens.dropLast.contains ">" then false
  else if tokens[1]? = some controlPlaneSubjectRoot then
    controlPlaneSubscriberSubjects.contains subject
  else if tokens.getLast? = some ">" then tokens.length = 4
  else tokens.getLast? = some "v1" && 5 ≤ tokens.length

/-! ## Subjects that a subject allows -/

/-- The loop of `natsSubjectMatches`, on the tokens that are left. -/
def tokensMatch : List String → List String → Bool
  | [], subjectTokens => subjectTokens.length = 0
  | allowedToken :: allowedTokens, subjectTokens =>
      if allowedToken = ">" then allowedTokens.length = 0 && 0 < subjectTokens.length
      else
        match subjectTokens with
        | [] => false
        | subjectToken :: subjectTokens =>
            if allowedToken = "*" then tokensMatch allowedTokens subjectTokens
            else if allowedToken ≠ subjectToken then false
            else tokensMatch allowedTokens subjectTokens

/-- `natsSubjectMatches`. -/
def natsSubjectMatches (allowed subject : String) : Bool :=
  tokensMatch (tokens allowed) (tokens subject)

/-- `NatsSubscriberAuthorization`. -/
structure NatsSubscriberAuthorization where
  subscriberId : String
  durableName : String
  subjects : List String
  deriving DecidableEq, Repr

/-- `natsSubscriberSubjectAllowed`. -/
def natsSubscriberSubjectAllowed (authorization : NatsSubscriberAuthorization)
    (subject : String) : Bool :=
  authorization.subjects.any fun allowedSubject => natsSubjectMatches allowedSubject subject

/-! ## Subjects of a stream -/

/-- `streamSubjectFamilies`. -/
def streamSubjectFamilies : JetStreamName → List String
  | .governance => ["root", "authority", "issuer", "destination", "certificate"]
  | .runtime => ["runtime", "verifier"]
  | .scannerAudit => ["scanner"]

/-- `streamMaterializationSubjects`. -/
def streamMaterializationSubjects : JetStreamName → List String
  | .governance =>
      ["qrtrust.*.root.manifest.published.v1", "qrtrust.*.authority.manifest.published.v1",
        "qrtrust.*.issuer.record.published.v1", "qrtrust.*.issuer.status.changed.v1",
        "qrtrust.*.destination.policy.published.v1", "qrtrust.*.destination.policy.revoked.v1",
        "qrtrust.*.certificate.status.changed.v1"]
  | .runtime => ["qrtrust.*.runtime.verdict.observed.v1"]
  | .scannerAudit => ["qrtrust.*.scanner.decision.recorded.v1"]

/-- `rootTokenFromSubject`. -/
def rootTokenFromSubject (subject : String) : Option String :=
  let tokens := tokens subject
  if tokens[0]? ≠ some "qrtrust" ∨ tokens[1]?.getD "" = "" ∨ tokens[2]?.getD "" = "" then none
  else tokens[1]?

/-- `natsSubscriberSubjectMatchesStream`. -/
def natsSubscriberSubjectMatchesStream (streamName : JetStreamName) (subject : String) : Bool :=
  if !isQrTrustSubscriberSubject subject then false
  else
    let family := (tokens subject)[2]?.getD ""
    family ≠ "" && (streamSubjectFamilies streamName).contains family

/-- `natsSubscriberSubjectsForStream`. -/
def natsSubscriberSubjectsForStream (authorization : NatsSubscriberAuthorization)
    (streamName : JetStreamName) : List String :=
  authorization.subjects.filter (natsSubscriberSubjectMatchesStream streamName)

/-- `value.replace(old, new)`, where `new` has no `$`: the first place of `old`. -/
def replaceFirst (old new : List Char) : List Char → List Char
  | [] => if old = [] then new else []
  | c :: rest =>
      if old.isPrefixOf (c :: rest) then new ++ (c :: rest).drop old.length
      else c :: replaceFirst old new rest

/-- A materialization subject under the root token of an authorized one. -/
def underRoot (rootToken subjectTemplate : String) : String :=
  String.ofList (replaceFirst "qrtrust.*.".toList ("qrtrust." ++ rootToken ++ ".").toList
    subjectTemplate.toList)

/-- What one authorized subject adds to the narrowed subjects. -/
def narrowedSubjects (streamName : JetStreamName) (allowedSubject : String) : List String :=
  if !natsSubscriberSubjectMatchesStream streamName allowedSubject then []
  else
    match rootTokenFromSubject allowedSubject with
    | none => []
    | some rootToken =>
        ((streamMaterializationSubjects streamName).map (underRoot rootToken)).filter
          (natsSubjectMatches allowedSubject)

/-- `natsSubscriberMaterializationSubjectsForStream`. -/
def natsSubscriberMaterializationSubjectsForStream (authorization : NatsSubscriberAuthorization)
    (streamName : JetStreamName) : List String :=
  CacheMaterialization.distinct
    (authorization.subjects.flatMap (narrowedSubjects streamName))

end NatsSubjects
