import QrTrust.Network.PostgresArtifactStore

/-! # The subscriber of runtime observations

    `processNatsRuntimeMessage` reads the artifact that an event names, checks
    it, inserts its observation, and acknowledges the message.  What fails on
    the way is told apart by the text of its message: some texts terminate the
    message, every other failure gives it back.

    The stream delivers at least once: a message comes again after a lost
    acknowledgement, a refusal or a crash, while the first delivery may still be
    under way. -/

namespace RuntimeSubscriber

open NatsPropagation PublicationWorkers PostgresArtifactStore
open ArtifactPublication (SignedArtifact)

/-- What the subscriber needs of its host: the network's runtime, the JSON parser,
    and the texts that `timestamptz` reads. -/
structure SubscriberHost where
  js : JsRuntime
  parseJson : String → Option JsonValue
  parsesTimestamptz : String → Bool

/-! ## The observation contract -/

/-- `RuntimeSafetyObservation["verdict"]`. -/
inductive RuntimeVerdict where
  | clear
  | risky
  | blocked
  | unavailable
  deriving DecidableEq, Repr

/-- The text of a verdict. -/
def RuntimeVerdict.text : RuntimeVerdict → String
  | clear => "clear"
  | risky => "risky"
  | blocked => "blocked"
  | unavailable => "unavailable"

/-- The verdict a value is. -/
def runtimeVerdict (value : JsonValue) : Option RuntimeVerdict :=
  [.clear, .risky, .blocked, .unavailable].find? fun verdict : RuntimeVerdict =>
    value.asString = some verdict.text

/-- `RuntimeSafetyObservation`, as far as its row needs it. -/
structure RuntimeSafetyObservation where
  observationId : String
  observedAt : String
  expiresAt : Option String
  providerId : String
  destinationHost : String
  destinationUrl : String
  finalUrl : Option String
  verdict : RuntimeVerdict
  riskScore : Rat
  reasonCodes : List String
  deriving DecidableEq

/-- `Schema.int()` between two bounds; the upper one of a safe integer is always
    there. -/
def intBetween (low high : Rat) (value : JsonValue) : Option Rat :=
  value.asNumber.filter fun n => n.isInt && low ≤ n && n ≤ high

/-- `Schema.Literal`, of one or more texts. -/
def literal (texts : List String) : JsonValue → Option String := stringWhere (· ∈ texts)

/-- `Schema.Struct` of strings. -/
def hasStrings (keys : List String) (value : JsonValue) : Option Unit :=
  if keys.all fun key => (value.stringField key).isSome then some () else none

/-- `RuntimeSafetyObservationSchema` under `decodeUnknown`. -/
def decodeRuntimeSafetyObservation (js : JsRuntime) (body : JsonValue) :
    Option RuntimeSafetyObservation := do
  let nonEmpty := fun s : String => decide (s ≠ "")
  let isDateTime := fun s => (js.toISOString s).isSome
  let anyString := fun _ : String => true
  let _ ← (body.prop "artifact_type").bind (literal ["runtime_safety_observation"])
  let _ ← requiredString body "schema_version" nonEmpty
  let observationId ← requiredString body "observation_id" nonEmpty
  let observedAt ← requiredString body "observed_at" isDateTime
  let expiresAt ← optionalProp body "expires_at" (stringWhere isDateTime)
  let provider ← body.prop "provider"
  let providerId ← requiredString provider "provider_id" nonEmpty
  let _ ← (provider.prop "provider_kind").bind (literal
    ["redirect_inspector", "reputation_provider", "tls_https_inspector", "composite_runtime_safety"])
  let _ ← optionalProp provider "provider_version" JsonValue.asString
  let _ ← (provider.prop "response_status").bind
    (literal ["usable", "timeout", "auth_failed", "malformed", "unavailable"])
  let _ ← optionalProp provider "checked_at" (stringWhere isDateTime)
  let destination ← body.prop "destination"
  let destinationHost ← requiredString destination "destination_host" nonEmpty
  let destinationUrl ← requiredString destination "destination_url" anyString
  let _ ← requiredString destination "fingerprint" nonEmpty
  let _ ← optionalProp destination "resolver_url" JsonValue.asString
  let finalUrl ← optionalProp destination "final_url" JsonValue.asString
  let _ ← optionalProp destination "final_host" JsonValue.asString
  let _ ← optionalProp destination "observed_redirect_hops" (intBetween 0 9007199254740991)
  let _ ← optionalProp destination "https_status"
    (literal ["valid", "absent", "invalid", "not_checked"])
  let verdict ← (body.prop "verdict").bind runtimeVerdict
  let riskScore ← (body.prop "risk_score").bind (intBetween 0 100)
  let reasonCodes ← (body.arrayField "reason_codes").bind fun items =>
    items.mapM (stringWhere nonEmpty)
  let privacy ← body.prop "privacy"
  let _ ← (privacy.prop "payload_disclosure").bind
    (literal ["host_only", "normalized_url", "full_url", "provider_required"])
  let _ ← (privacy.prop "user_data_disclosure").bind
    (literal ["none", "pseudonymous", "provider_required"])
  let _ ← privacy.boolField "raw_provider_payload_retained"
  let role ← body.prop "decision_role"
  let _ ← (role.boolField "source_of_truth").filter fun b => !b
  let _ ← (role.prop "scanner_visible_impact").bind (literal
    ["may_support_green_when_prior_layers_pass", "may_downgrade_to_orange", "may_block_to_red",
      "no_decision_impact"])
  let _ ← optionalProp role "operator_note" JsonValue.asString
  let _ ← optionalProp body "governance" (hasStrings
    ["root_program_id", "delegated_authority_id", "issuer_id", "destination_policy_id"])
  some
    { observationId, observedAt, expiresAt, providerId, destinationHost, destinationUrl, finalUrl,
      verdict, riskScore, reasonCodes }

/-! ## The table -/

/-- A row of `qr_trust.runtime_observations`, without the key that the table makes. -/
structure RuntimeObservationRow where
  providerId : String
  destinationHost : String
  destinationUrl : String
  finalUrl : Option String
  verdict : String
  riskScore : Rat
  reasonCodes : List String
  observedAt : String
  expiresAt : Option String
  deriving DecidableEq

/-- `runtimeObservationCommand`. -/
def runtimeObservationCommand (observation : RuntimeSafetyObservation) : RuntimeObservationRow where
  providerId := observation.providerId
  destinationHost := observation.destinationHost
  destinationUrl := observation.destinationUrl
  finalUrl := observation.finalUrl
  verdict := observation.verdict.text
  riskScore := observation.riskScore
  reasonCodes := observation.reasonCodes
  observedAt := observation.observedAt
  expiresAt := observation.expiresAt

/-- Do the columns hold the row?  The contract has seen to the check constraints. -/
def executes (host : SubscriberHost) (row : RuntimeObservationRow) : Bool :=
  isText row.providerId && isText row.destinationHost && isText row.destinationUrl
    && row.finalUrl.all isText && row.reasonCodes.all isText
    && host.parsesTimestamptz row.observedAt && row.expiresAt.all host.parsesTimestamptz

/-! ## One message -/

section Messages

variable (host : SubscriberHost)

/-- `decodeNatsRuntimePayload`, of the text of a payload. -/
def decodeNatsRuntimePayload (payload : String) : Except NetworkError EventEnvelope :=
  match host.parseJson payload with
  | none => .error (persistenceError "Malformed NATS runtime JSON payload.")
  | some parsed =>
      match parsed.prop "envelope" with
      | none =>
          .error (persistenceError "Malformed NATS runtime payload: expected an envelope object.")
      | some envelope =>
          match decodeEventEnvelope host.js envelope with
          | none => .error (persistenceError
              "Malformed NATS runtime payload: envelope does not match NetworkEvent.")
          | some decoded => .ok decoded

/-- The first part of `materializeRuntimeObservation`: the observation of the
    artifact that an event names. -/
def runtimeObservation (get : String → Exit NetworkError (Option SignedArtifact))
    (event : EventEnvelope) : Exit NetworkError RuntimeSafetyObservation :=
  if event.type ≠ "runtime.verdict.observed" then
    .fail (persistenceError "Unsupported runtime subscriber event type.")
  else
    (get event.artifactId).bind fun found =>
      match found with
      | none => .fail (persistenceError "Runtime observation artifact is missing.")
      | some artifact =>
          if artifact.artifactHash ≠ event.artifactHash
              ∨ "sha256:" ++ host.js.hashJson artifact.body ≠ event.artifactHash then
            .fail (persistenceError "Runtime observation artifact hash mismatch.")
          else if artifact.artifactType ≠ "runtime_safety_observation" then
            .fail (persistenceError "Runtime subscriber artifact type is invalid.")
          else
            match decodeRuntimeSafetyObservation host.js artifact.body with
            | none =>
                .fail (persistenceError "Runtime observation artifact schema is invalid.")
            | some observation => .succeed observation

end Messages

/-- `value.includes(part)`. -/
def includes (value part : String) : Bool :=
  value.toList.tails.any fun tail => part.toList.isPrefixOf tail

/-- `RuntimeRejectionReason`. -/
inductive RuntimeRejectionReason where
  | unsupportedEventType
  | missingArtifact
  | artifactHashMismatch
  | invalidRuntimeObservation
  deriving DecidableEq, Repr

/-- `runtimeRejectionReason`. -/
def runtimeRejectionReason (error : NetworkError) : Option RuntimeRejectionReason :=
  if includes error.message "Unsupported runtime subscriber event type" then
    some .unsupportedEventType
  else if includes error.message "artifact is missing" then some .missingArtifact
  else if includes error.message "hash mismatch" then some .artifactHashMismatch
  else if includes error.message "schema is invalid"
      || includes error.message "artifact type is invalid" then some .invalidRuntimeObservation
  else none

/-! ## Deliveries -/

/-- What a delivery waits for. -/
inductive Phase where
  /-- for the artifact of its event -/
  | fetching (event : EventEnvelope)
  /-- for the insert of its observation -/
  | persisting (observation : RuntimeSafetyObservation)
  /-- for nothing: what is left is the acknowledgement -/
  | acking (observation : RuntimeSafetyObservation)

/-- Why a message was terminated. -/
inductive Termination where
  | malformed
  | rejected (reason : RuntimeRejectionReason)
  deriving DecidableEq, Repr

/-- The store, the table, and the deliveries under way, each with its message.
    `inserted` are the observations whose rows the table has, in order;
    `acknowledged` and `terminated` are what was done about messages. -/
structure State where
  artifacts : MemoryStore
  inserted : List RuntimeSafetyObservation
  deliveries : String → Option (String × Phase)
  acknowledged : List (String × String)
  terminated : List (String × Termination)

/-- The rows of `qr_trust.runtime_observations`: nothing in them names the
    observation. -/
def State.runtimeObservations (s : State) : List RuntimeObservationRow :=
  s.inserted.map runtimeObservationCommand

/-- How the insert goes wrong: nothing was inserted, or the row is there and its
    answer was lost. -/
inductive PersistenceFault where
  | refused (error : NetworkError)
  | unanswered (error : NetworkError)

/-- The failure that the subscriber sees. -/
def PersistenceFault.error : PersistenceFault → NetworkError
  | refused error => error
  | unanswered error => error

/-- What happens. -/
inductive Action where
  /-- an artifact is stored -/
  | publish (artifact : SignedArtifact)
  /-- the stream delivers a message, for the first time or again -/
  | deliver (delivery message : String)
  /-- the store answers, or fails -/
  | fetch (delivery : String) (fault : Option NetworkError)
  /-- the insert runs, or goes wrong -/
  | persist (delivery : String) (fault : Option PersistenceFault)
  /-- the message is acknowledged, whether or not the stream learns of it -/
  | acknowledge (delivery : String)
  /-- the delivery ends without an answer: a crash, or an exception nobody catches -/
  | crash (delivery : String)

namespace State

/-- A delivery goes on. -/
def moved (s : State) (delivery message : String) (phase : Phase) : State :=
  { s with deliveries := Function.update s.deliveries delivery (some (message, phase)) }

/-- A delivery is over. -/
def ended (s : State) (delivery : String) : State :=
  { s with deliveries := Function.update s.deliveries delivery none }

/-- A failure: the message is terminated, or given back. -/
def failed (s : State) (delivery message : String) (error : NetworkError) : State :=
  match runtimeRejectionReason error with
  | some reason =>
      { s.ended delivery with terminated := s.terminated ++ [(message, .rejected reason)] }
  | none => s.ended delivery

/-- The row of an observation is inserted. -/
def insert (s : State) (observation : RuntimeSafetyObservation) : State :=
  { s with inserted := s.inserted ++ [observation] }

/-- The insert of an observation; a row that the columns do not hold is refused. -/
def persisted (host : SubscriberHost) (s : State) (delivery message : String)
    (observation : RuntimeSafetyObservation) : Option PersistenceFault → State
  | none =>
      if executes host (runtimeObservationCommand observation) then
        (s.insert observation).moved delivery message (.acking observation)
      else
        s.failed delivery message
          (persistenceError "Postgres command runtime_observations.insert failed.")
  | some (.refused error) => s.failed delivery message error
  | some (.unanswered error) =>
      if executes host (runtimeObservationCommand observation) then
        (s.insert observation).failed delivery message error
      else s.failed delivery message error

/-- `artifactStore.get`: what is stored, or a failure. -/
def answer (s : State) (fault : Option NetworkError) (artifactId : String) :
    Exit NetworkError (Option SignedArtifact) :=
  match fault with
  | none => .succeed (s.artifacts.get? artifactId)
  | some error => .fail error

/-- One step of `processNatsRuntimeMessage`, of its store or of its stream. -/
def apply (host : SubscriberHost) (s : State) : Action → State
  | .publish artifact => { s with artifacts := s.artifacts.set artifact.artifactId artifact }
  | .deliver delivery message =>
      match s.deliveries delivery with
      | some _ => s
      | none =>
          match decodeNatsRuntimePayload host message with
          | .error _ => { s with terminated := s.terminated ++ [(message, .malformed)] }
          | .ok event => s.moved delivery message (.fetching event)
  | .fetch delivery fault =>
      match s.deliveries delivery with
      | some (message, .fetching event) =>
          match runtimeObservation host (s.answer fault) event with
          | .succeed observation => s.moved delivery message (.persisting observation)
          | .fail error => s.failed delivery message error
          | .die => s.ended delivery
      | _ => s
  | .persist delivery fault =>
      match s.deliveries delivery with
      | some (message, .persisting observation) =>
          s.persisted host delivery message observation fault
      | _ => s
  | .acknowledge delivery =>
      match s.deliveries delivery with
      | some (message, .acking observation) =>
          { s.ended delivery with
            acknowledged := s.acknowledged ++ [(message, observation.observationId)] }
      | _ => s
  | .crash delivery => s.ended delivery

end State

/-- Any number of deliveries, interleaved. -/
def machine (host : SubscriberHost) : Runs.Machine State Action Action where
  plan _ action := [action]
  apply := State.apply host

end RuntimeSubscriber
