import QrTrust.Network.DomainProof

/-! # The destination-policy publication gate

    Before a destination policy is published, every host its rules name (the
    host of the expected final URL and the allowed hosts) must be backed by a
    domain proof.  Resolver URLs and expected final destinations of the redirect
    policy are not looked at. -/

namespace PublicationGate

open VerifierCache PolicyDecoding DomainProof

/-- `DestinationPolicyPublicationReasonCode`. -/
inductive PublicationReasonCode where
  | domainProof (code : DomainProofReasonCode)
  | destinationPolicyHasNoDestinations
  | destinationPolicyExpectedUrlInvalid
  | destinationPolicyHostInvalid
  | destinationPolicyHostVerified
  | destinationPolicyHostNotVerified
  | destinationPolicyIssuerNamespaceMismatch
  | destinationPolicyRulePublishable
  | destinationPolicyRuleBlocked
  deriving DecidableEq, Repr

/-- `DestinationPolicyPublicationGateInput`; the observation time as its ISO
    text. -/
structure GateInput where
  issuer : IssuerEnrollmentProjection
  destinationPolicy : DestinationPolicyProjection
  domainProofs : List DomainProofRecord
  observedAt : String

/-- `DestinationPolicyHostPublicationDecision`. -/
structure HostDecision where
  destinationId : String
  host : String
  evaluatedUrl : String
  boundary : DomainProofBoundaryDecision
  publishable : Bool
  reasonCodes : List PublicationReasonCode
  deriving DecidableEq, Repr

/-- `DestinationPolicyRulePublicationDecision`. -/
structure RuleDecision where
  destinationId : String
  expectedFinalUrl : String
  publishable : Bool
  hostDecisions : List HostDecision
  reasonCodes : List PublicationReasonCode
  deriving DecidableEq, Repr

/-- `DestinationPolicyPublicationGateDecision`; its status is `publishable`. -/
structure GateDecision where
  publishable : Bool
  reasonCodes : List PublicationReasonCode
  ruleDecisions : List RuleDecision
  verifiedHosts : List String
  blockedHosts : List String
  deriving DecidableEq, Repr

/-- `uniqueReasonCodes`. -/
def uniqueReasonCodes (codes : List PublicationReasonCode) : List PublicationReasonCode :=
  codes.foldl (fun acc code => if code ∈ acc then acc else acc ++ [code]) []

variable (js : JsRuntime)

/-- `parseExpectedFinalUrl`. -/
def parseExpectedFinalUrl (value : String) : Option Url :=
  (js.parseUrl value).filter fun url =>
    url.protocol = "https:" && url.username = "" && url.password = ""

/-- `isDnsHostname`. -/
def isDnsHostname (value : String) : Bool := isDnsName (normalizeHost js value)

/-- `destinationHostCandidates`. -/
def destinationHostCandidates (rule : DestinationPolicyRule) (expectedUrl : Url) : List String :=
  uniqueStrings (expectedUrl.hostname :: rule.allowedHosts.map (normalizeHost js))

/-- `urlForHost`; the constructor throws on a host it cannot parse. -/
def urlForHost (host protocol : String) : Except String Url :=
  match js.parseUrl (protocol ++ "//" ++ host ++ "/") with
  | some url => .ok url
  | none => .error "Invalid URL"

/-- `evaluateHostPublication`. -/
def evaluateHostPublication (input : GateInput) (destinationId : String) (destinationUrl : Url) :
    HostDecision :=
  let boundary := evaluateDomainProofBoundary js
    { issuer := input.issuer
      destinationPolicy := input.destinationPolicy
      domainProofs := input.domainProofs
      destinationUrl := destinationUrl
      observedAt := input.observedAt }
  let publishable := boundary.supportsBinding && boundary.domainControl = .proof .verified
  { destinationId := destinationId
    host := normalizeHost js destinationUrl.hostname
    evaluatedUrl := destinationUrl.href
    boundary := boundary
    publishable := publishable
    reasonCodes := uniqueReasonCodes
      (boundary.reasonCodes.map .domainProof
        ++ [if publishable then .destinationPolicyHostVerified
            else .destinationPolicyHostNotVerified]) }

/-- A rule decision that blocks before any host is evaluated. -/
def blockedRule (rule : DestinationPolicyRule) (reason : PublicationReasonCode) : RuleDecision :=
  { destinationId := rule.destinationId
    expectedFinalUrl := rule.expectedFinalUrl
    publishable := false
    hostDecisions := []
    reasonCodes := [reason, .destinationPolicyRuleBlocked] }

/-- `evaluateRulePublication`. -/
def evaluateRulePublication (input : GateInput) (rule : DestinationPolicyRule) :
    Except String RuleDecision :=
  match parseExpectedFinalUrl js rule.expectedFinalUrl with
  | none => .ok (blockedRule rule .destinationPolicyExpectedUrlInvalid)
  | some expectedUrl =>
      let hostCandidates := destinationHostCandidates js rule expectedUrl
      if hostCandidates.any fun host => !isDnsHostname js host then
        .ok (blockedRule rule .destinationPolicyHostInvalid)
      else do
        let hostUrls ← hostCandidates.mapM fun host => urlForHost js host expectedUrl.protocol
        let hostDecisions := hostUrls.map (evaluateHostPublication js input rule.destinationId)
        let publishable := hostDecisions ≠ [] && hostDecisions.all HostDecision.publishable
        return { destinationId := rule.destinationId
                 expectedFinalUrl := rule.expectedFinalUrl
                 publishable := publishable
                 hostDecisions := hostDecisions
                 reasonCodes := uniqueReasonCodes
                   (hostDecisions.flatMap HostDecision.reasonCodes
                     ++ [if publishable then .destinationPolicyRulePublishable
                         else .destinationPolicyRuleBlocked]) }

/-- A gate decision that blocks before any rule is evaluated. -/
def blockedGate (reason : PublicationReasonCode) : GateDecision :=
  { publishable := false
    reasonCodes := [reason]
    ruleDecisions := []
    verifiedHosts := []
    blockedHosts := [] }

/-- `evaluateDestinationPolicyPublicationGate`. -/
def evaluateDestinationPolicyPublicationGate (input : GateInput) : Except String GateDecision :=
  if input.issuer.ns ≠ input.destinationPolicy.ns then
    .ok (blockedGate .destinationPolicyIssuerNamespaceMismatch)
  else if input.destinationPolicy.approvedDestinations = [] then
    .ok (blockedGate .destinationPolicyHasNoDestinations)
  else do
    let ruleDecisions ←
      input.destinationPolicy.approvedDestinations.mapM (evaluateRulePublication js input)
    let hostDecisions := ruleDecisions.flatMap RuleDecision.hostDecisions
    return { publishable := ruleDecisions ≠ [] && ruleDecisions.all RuleDecision.publishable
             reasonCodes := uniqueReasonCodes (ruleDecisions.flatMap RuleDecision.reasonCodes)
             ruleDecisions := ruleDecisions
             verifiedHosts := uniqueStrings
               ((hostDecisions.filter HostDecision.publishable).map HostDecision.host)
             blockedHosts := uniqueStrings
               ((hostDecisions.filter fun d => !d.publishable).map HostDecision.host) }

end PublicationGate
