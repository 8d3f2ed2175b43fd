import QrTrust.Network.BundlePublication
import QrTrust.Network.PublicationGate

/-! # Publishing a destination policy behind the gate

    The policy-aware publication service stands in front of the plain one.  It
    hands every artifact on but a destination policy: that one it decodes,
    checks against the gate, and encodes again from the projection, so that the
    published body is not the body it was given. -/

namespace DestinationPolicyPublication

open VerifierCache VerifierSync DomainProof PublicationGate GovernancePublicationSource
  BundlePublication
open PolicyDecoding hiding ArtifactPublicationInput
open GovernancePublication (ArtifactPublicationInput)

/-! ## The plain service -/

/-- Why a publication ends without a result. -/
inductive PublicationError where
  | contractValidation (message cause : String)
  | policyPublication (message : String) (gate : GateDecision)
  | contextResolution (cause : String)
  /-- an exception that no handler catches -/
  | thrown (cause : String)

/-- `ArtifactPublicationResult`. -/
structure ArtifactPublicationResult where
  artifact : SignedArtifact
  event : NetworkEvent

/-- `ArtifactPublicationServiceShape`, as what it makes of a network. -/
abbrev ArtifactPublicationService :=
  Network → ArtifactPublicationInput → Except PublicationError ArtifactPublicationResult × Network

/-- `makeArtifactPublicationService`: the artifact is stored before the event is
    made, and an invalid date stops it in between. -/
def makeArtifactPublicationService (planning : PlanningHost) : ArtifactPublicationService :=
  fun network input =>
    let artifact := storedArtifact planning.js input
    match planning.dateText input.occurredAt with
    | none =>
        (.error (.thrown "Invalid time value"),
          { network with store := network.store.set input.artifactId artifact })
    | some _ =>
        (.ok ⟨artifact, publicationEvent planning input⟩, network.publishArtifact planning input)

/-! ## The body, encoded from a projection -/

/-- The redirect policy of a projection, as JSON. -/
def redirectPolicyBody (policy : RedirectPolicyProjection) : JsonValue :=
  .obj
    [("resolver_urls", stringsValue policy.resolverUrls),
     ("expected_final_destinations", stringsValue policy.expectedFinalDestinations),
     ("allowed_redirect_hosts", stringsValue policy.allowedRedirectHosts),
     ("max_redirect_hops", .num policy.maxRedirectHops),
     ("nested_shorteners_allowed", .bool policy.nestedShortenersAllowed),
     ("scanner_must_display_resolver_and_final_destination",
       .bool policy.scannerMustDisplayResolverAndFinalDestination)]

/-- The runtime-safety policy every encoded body gets. -/
def fixedRuntimeSafetyPolicy : JsonValue :=
  .obj
    [("provider", .str "deterministic-fixture"),
     ("verdict_ttl_seconds", .num 300),
     ("stale_behavior", .str "downgrade_to_caution"),
     ("unavailable_behavior", .str "downgrade_to_caution")]

/-- `destinationPolicyArtifactBody`. -/
def destinationPolicyArtifactBody (policy : DestinationPolicyProjection) : JsonValue :=
  .obj
    [("artifact_type", .str "destination_policy"),
     ("schema_version", .str "0.1.0"),
     ("root_program_id", .str policy.ns.rootProgramId),
     ("delegated_authority_id", .str policy.ns.delegatedAuthorityId),
     ("issuer_id", .str policy.ns.issuerId),
     ("destination_policy_id", .str policy.destinationPolicyId),
     ("approved_destinations", .arr (policy.approvedDestinations.map ruleBody)),
     ("redirect_policy", redirectPolicyBody policy.redirectPolicy),
     ("runtime_safety_policy", fixedRuntimeSafetyPolicy),
     ("publication",
       .obj
        [("published_at", .str policy.cacheGeneratedAt),
         ("valid_until", .str policy.cacheExpiresAt),
         ("signed_by", .str policy.ns.delegatedAuthorityId),
         ("signature_status", .str "ed25519-signed")])]

/-! ## The checks of a projection -/

section Checks

variable (js : JsRuntime)

/-- The checks of one rule in `validateDestinationPolicyProjection`. -/
def validateDestinationRule (rule : DestinationPolicyRule) : Except String Unit := do
  let _ ← stringValue (some (.str rule.destinationId)) "destination_id"
  let _ ← httpsUrlValue js (some (.str rule.expectedFinalUrl)) "expected_final_url"
  let _ ← rule.allowedHosts.mapM fun host =>
    hostnameValue js (some (.str host)) "allowed_hosts[]"
  let _ ← rule.pathPrefixes.mapM fun path =>
    pathPrefixValue (some (.str path)) "path_prefixes[]"
  let _ ← literalStringValue (some (.str rule.queryPolicy)) "query_policy"
    ["none", "allow_known_payment_query"]
  let _ ← (rule.allowedQueryKeys.getD []).mapM fun key =>
    stringValue (some (.str key)) "allowed_query_keys[]"
  return ()

/-- `validateDestinationPolicyProjection`. -/
def validateDestinationPolicyProjection (policy : DestinationPolicyProjection) :
    Except String Unit := do
  let _ ← policy.approvedDestinations.mapM (validateDestinationRule js)
  let redirect := policy.redirectPolicy
  let _ ← redirect.resolverUrls.mapM fun url =>
    httpsUrlValue js (some (.str url)) "resolver_urls[]"
  let _ ← redirect.expectedFinalDestinations.mapM fun url =>
    httpsUrlValue js (some (.str url)) "expected_final_destinations[]"
  let _ ← redirect.allowedRedirectHosts.mapM fun host =>
    hostnameValue js (some (.str host)) "allowed_redirect_hosts[]"
  let _ ← nonNegativeIntegerValue (some (.num redirect.maxRedirectHops)) "max_redirect_hops"
  return ()

end Checks

/-! ## The service in front -/

/-- `DestinationPolicyPublicationInput`. -/
structure DestinationPolicyPublicationInput where
  issuer : IssuerEnrollmentProjection
  destinationPolicy : DestinationPolicyProjection
  domainProofs : List DomainProofRecord
  artifactId : String
  version : Rat
  occurredAt : Rat
  reason : Option String

/-- `DestinationPolicyPublicationContext`. -/
structure DestinationPolicyPublicationContext where
  issuer : IssuerEnrollmentProjection
  domainProofs : List DomainProofRecord

/-- `DestinationPolicyPublicationContextResolverShape`. -/
abbrev ContextResolver :=
  ArtifactPublicationInput → DestinationPolicyProjection →
    Except String DestinationPolicyPublicationContext

variable (planning : PlanningHost)

/-- The ISO text of a date; an invalid date, which no publication survives, has
    none. -/
def isoText (time : Rat) : String := (planning.dateText time).getD ""

/-- The artifact that is published in place of the one that came in. -/
def policyPublicationInput (input : DestinationPolicyPublicationInput) :
    ArtifactPublicationInput where
  artifactType := "destination_policy"
  artifactId := input.artifactId
  version := input.version
  rootProgramId := input.destinationPolicy.ns.rootProgramId
  delegatedAuthorityId := some input.destinationPolicy.ns.delegatedAuthorityId
  issuerId := some input.destinationPolicy.ns.issuerId
  destinationPolicyId := some input.destinationPolicy.destinationPolicyId
  body := destinationPolicyArtifactBody input.destinationPolicy
  occurredAt := input.occurredAt
  eventType := "destination.policy.published"
  reason := input.reason.getD "destination policy publication after domain-control gate"

/-- `publishDestinationPolicy`. -/
def publishDestinationPolicy (publisher : ArtifactPublicationService) (network : Network)
    (input : DestinationPolicyPublicationInput) :
    Except PublicationError ArtifactPublicationResult × Network :=
  match validateDestinationPolicyProjection planning.js input.destinationPolicy with
  | .error cause =>
      (.error (.contractValidation
        "Destination policy publication rejected malformed policy projection." cause), network)
  | .ok () =>
      match evaluateDestinationPolicyPublicationGate planning.js
          { issuer := input.issuer
            destinationPolicy := input.destinationPolicy
            domainProofs := input.domainProofs
            observedAt := isoText planning input.occurredAt } with
      | .error cause => (.error (.thrown cause), network)
      | .ok gate =>
          if gate.publishable then publisher network (policyPublicationInput input)
          else
            (.error (.policyPublication
              "Destination policy publication blocked by domain-control gate." gate), network)

/-- The input as the decoder of the projection reads it. -/
def decoderInput (input : ArtifactPublicationInput) : PolicyDecoding.ArtifactPublicationInput where
  rootProgramId := input.rootProgramId
  delegatedAuthorityId := input.delegatedAuthorityId
  issuerId := input.issuerId
  destinationPolicyId := input.destinationPolicyId
  body := input.body
  occurredAt := isoText planning input.occurredAt

/-- `makeDestinationPolicyAwareArtifactPublicationService`. -/
def makeDestinationPolicyAwareArtifactPublicationService (publisher : ArtifactPublicationService)
    (contextResolver : ContextResolver) : ArtifactPublicationService :=
  fun network input =>
    if input.artifactType ≠ "destination_policy" then publisher network input
    else
      match destinationPolicyProjectionFromArtifactPublicationInput planning.js
          (decoderInput planning input) with
      | .error cause =>
          (.error (.contractValidation
            "Destination policy publication work item failed projection decoding." cause), network)
      | .ok destinationPolicy =>
          match contextResolver input destinationPolicy with
          | .error cause => (.error (.contextResolution cause), network)
          | .ok context =>
              publishDestinationPolicy planning publisher network
                { issuer := context.issuer
                  destinationPolicy := destinationPolicy
                  domainProofs := context.domainProofs
                  artifactId := input.artifactId
                  version := input.version
                  occurredAt := input.occurredAt
                  reason := JsString.truthy (some input.reason) }

end DestinationPolicyPublication
