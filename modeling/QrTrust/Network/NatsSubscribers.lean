import QrTrust.Backend.ManagementEndpoints
import QrTrust.Network.NatsSubjects

/-! # Approved subscribers

    The tables of approved subscribers, from both sides: the management endpoint
    that stores a subscriber with its subjects, and the worker that loads them
    before it subscribes. -/

namespace NatsSubscribers

open NatsPropagation NatsSubjects PublicationWorkers
open ManagementEndpoints (normalizeSubjects)

/-- `NatsSubscriberAuthorizationRequest`, as its schema admits it. -/
structure NatsSubscriberAuthorizationRequest where
  subscriberId : String
  displayName : String
  durableName : String
  description : String
  subjects : List String
  subscriberId_ne : subscriberId ≠ ""
  displayName_ne : displayName ≠ ""
  durableName_ne : durableName ≠ ""
  subjects_ne : subjects ≠ []

/-- A row of `nats_subscribers`, without its key. -/
structure NatsSubscriberRow where
  displayName : String
  durableName : String
  description : String
  status : String
  deriving DecidableEq, Repr

/-- `nats_subscribers`, and `nats_subscriber_subjects` as pairs of a subscriber and
    a subject. -/
structure Tables where
  natsSubscribers : OrderedMap String NatsSubscriberRow
  natsSubscriberSubjects : List (String × String)

namespace Tables

def empty : Tables := ⟨.empty, []⟩

/-- `subjects` of a subscriber. -/
def subjectsOf (tables : Tables) (subscriberId : String) : List String :=
  (tables.natsSubscriberSubjects.filter fun row => row.1 = subscriberId).map Prod.snd

/-- The statement of `build_nats_subscriber_authorization_mutation`: the subjects
    of the subscriber are replaced.  It fails when another subscriber has the
    durable name. -/
def authorize (tables : Tables) (subscriberId displayName durableName description : String)
    (subjects : List String) : Option Tables :=
  if tables.natsSubscribers.entries.any fun entry =>
      entry.1 ≠ subscriberId && entry.2.durableName = durableName then none
  else some
    { natsSubscribers :=
        tables.natsSubscribers.set subscriberId ⟨displayName, durableName, description, "active"⟩
      natsSubscriberSubjects :=
        tables.natsSubscriberSubjects.filter (fun row => row.1 ≠ subscriberId)
          ++ subjects.map fun subject => (subscriberId, subject) }

end Tables

/-- `authorize_nats_subscriber`, for a caller that may write them. -/
def authorizeNatsSubscriber (tables : Tables) (request : NatsSubscriberAuthorizationRequest) :
    Except PyError Tables := do
  let subjects ← normalizeSubjects request.subjects
  match tables.authorize request.subscriberId request.displayName request.durableName
      request.description subjects with
  | none => .error (.httpException 503 "management persistence unavailable")
  | some tables => .ok tables

/-- The tables after some requests; one that is refused stores nothing. -/
def run (tables : Tables) (requests : List NatsSubscriberAuthorizationRequest) : Tables :=
  requests.foldl (fun tables request => (authorizeNatsSubscriber tables request).toOption.getD tables)
    tables

/-! ## Loading a subscriber -/

/-- The rows of the query in `loadNatsSubscriberAuthorization`, where the database
    sorts texts by `collation`. -/
def authorizationRows (collation : String → String → Bool) (tables : Tables)
    (subscriberId : String) : List JsonValue :=
  match tables.natsSubscribers.get? subscriberId with
  | none => []
  | some row =>
      let subjects := tables.subjectsOf subscriberId
      if row.status ≠ "active" ∨ subjects = [] then []
      else
        [.obj
          [("subscriber_id", .str subscriberId), ("durable_name", .str row.durableName),
            ("subjects", .arr ((subjects.mergeSort collation).map .str))]]

/-- Is a value of `subjects` refused in `decodeNatsSubscriberAuthorizationRow`? -/
def invalidSubject (subject : JsonValue) : Bool :=
  match subject.asString with
  | none => true
  | some subject => subject = "" || !isQrTrustSubscriberSubject subject

/-- `decodeNatsSubscriberAuthorizationRow`. -/
def decodeNatsSubscriberAuthorizationRow (row : JsonValue) (expectedSubscriberId : String) :
    Except NetworkError NatsSubscriberAuthorization :=
  if row.stringField "subscriber_id" ≠ some expectedSubscriberId then
    .error (persistenceError "NATS subscriber authorization row has wrong id.")
  else
    let durableName := (row.stringField "durable_name").getD ""
    if durableName = "" then
      .error (persistenceError "NATS subscriber authorization row is missing durable_name.")
    else
      match row.arrayField "subjects" with
      | none => .error (persistenceError "NATS subscriber authorization row has invalid subjects.")
      | some subjects =>
          if subjects.any invalidSubject then
            .error (persistenceError "NATS subscriber authorization row has invalid subjects.")
          else .ok ⟨expectedSubscriberId, durableName, subjects.filterMap JsonValue.asString⟩

/-- `loadNatsSubscriberAuthorization`, of the rows that the query gave. -/
def loadNatsSubscriberAuthorization (rows : List JsonValue) (subscriberId : String) :
    Except NetworkError NatsSubscriberAuthorization :=
  match rows.head? with
  | none => .error (persistenceError "NATS subscriber is not active or authorized.")
  | some row => decodeNatsSubscriberAuthorizationRow row subscriberId

end NatsSubscribers
