import QrTrust.Lib.KeyedSort
import QrTrust.Network.PublicationWorkers
import QrTrust.Network.SignatureVerification

/-! # Two artifact stores

    `makeInMemoryArtifactStore` keeps the artifacts in a map.
    `makePostgresArtifactStore` writes them to `qr_trust.published_artifacts`,
    whose columns and constraints admit less than the map does, and reads them
    back through a `jsonb` column, which keeps the values of a body but has an
    order of its own for the keys. -/

namespace PostgresArtifactStore

open ArtifactPublication NatsPropagation PublicationWorkers SignatureVerification KeyedSort

/-- What the stores need of their host: the canonical text of a document and its
    digest, the JSON parser, and the texts that `timestamptz` reads. -/
structure StoreHost extends SignatureHost where
  sha256 : String → String
  parseJson : String → Option JsonValue
  parsesTimestamptz : String → Bool

/-- `hashJson`. -/
def hashJson (host : StoreHost) (value : JsonValue) : String :=
  host.sha256 (canonicalJsonStringify host.toSignatureHost value)

/-! ## The map -/

/-- The artifacts of `makeInMemoryArtifactStore`, by their id. -/
abbrev MemoryStore := OrderedMap String SignedArtifact

namespace MemoryStore

/-- `get`. -/
def get (artifacts : MemoryStore) (artifactId : String) :
    Exit NetworkError (Option SignedArtifact) :=
  .succeed (artifacts.get? artifactId)

/-- `put`. -/
def put (artifacts : MemoryStore) (artifact : SignedArtifact) :
    Exit NetworkError SignedArtifact × MemoryStore :=
  (.succeed artifact, artifacts.set artifact.artifactId artifact)

end MemoryStore

/-! ## The `jsonb` column -/

/-- A value of a column of type `text`: no character is U+0000. -/
def isText (s : String) : Bool := s.toList.all (· ≠ '\x00')

mutual
/-- A document that `jsonb` takes: every string and every key is a text. -/
def isJsonb : JsonValue → Bool
  | .str s => isText s
  | .arr items => areJsonb items
  | .obj fields => fieldsAreJsonb fields
  | _ => true
/-- The items of an array. -/
def areJsonb : List JsonValue → Bool
  | [] => true
  | item :: rest => isJsonb item && areJsonb rest
/-- The keys and values of an object. -/
def fieldsAreJsonb : List (String × JsonValue) → Bool
  | [] => true
  | (key, value) :: rest => isText key && isJsonb value && fieldsAreJsonb rest
end

/-- The order of the keys in a `jsonb` object: shorter first, then byte by byte,
    which for UTF-8 is character by character. -/
def jsonbKeyLess (a b : String) : Bool :=
  a.utf8ByteSize < b.utf8ByteSize || a.utf8ByteSize = b.utf8ByteSize && a < b

mutual
/-- A document as the driver parses it from a `jsonb` column: the keys of each
    object in the column's order, array indices first. -/
def readBack : JsonValue → JsonValue
  | .arr items => .arr (readBackItems items)
  | .obj fields => fromEntries (sortByKey jsonbKeyLess (readBackFields fields))
  | value => value
/-- The items of an array. -/
def readBackItems : List JsonValue → List JsonValue
  | [] => []
  | item :: rest => readBack item :: readBackItems rest
/-- The properties of an object. -/
def readBackFields : List (String × JsonValue) → List (String × JsonValue)
  | [] => []
  | (key, value) :: rest => (key, readBack value) :: readBackFields rest
end

/-! ## The table -/

/-- `PostgresArtifactRow`. -/
structure PostgresArtifactRow where
  artifactId : String
  artifactHash : String
  artifactType : String
  version : Rat
  canonicalJson : JsonValue

/-- `requireStringField`. -/
def requireStringField (field value : String) : Except String String :=
  if value = "" then .error ("Postgres artifact row is missing " ++ field ++ ".") else .ok value

/-- `requireNumberField`: a `bigint` arrives as text, and the pattern has no sign. -/
def requireNumberField (field : String) (value : Rat) : Except String Rat :=
  if value < 0 then .error ("Postgres artifact row is missing " ++ field ++ ".") else .ok value

/-- `postgresArtifactRowFromRecord`. -/
def postgresArtifactRowFromRecord (artifactId : String) (row : PublishedArtifactRow) :
    Except String PostgresArtifactRow := do
  let artifactId ← requireStringField "artifact_id" artifactId
  let artifactHash ← requireStringField "artifact_hash" row.artifactHash
  let artifactType ← requireStringField "artifact_type" row.artifactType
  let version ← requireNumberField "version" row.version
  return { artifactId, artifactHash, artifactType, version,
           canonicalJson := readBack row.canonicalJson }

/-- `decodePostgresArtifactRow`. -/
def decodePostgresArtifactRow (artifactId : String) (row : PublishedArtifactRow) :
    Exit NetworkError PostgresArtifactRow :=
  match postgresArtifactRowFromRecord artifactId row with
  | .ok decoded => .succeed decoded
  | .error _ => .fail (persistenceError "Postgres artifact row decoding failed.")

/-- `queryOne` of `artifactByIdCommand`.  Every row of the table is published. -/
def queryOne (rows : PublishedArtifacts) (artifactId : String) :
    Exit NetworkError (Option PostgresArtifactRow) :=
  if isText artifactId then
    match rows.get? artifactId with
    | none => .succeed none
    | some row => (decodePostgresArtifactRow artifactId row).bind fun decoded =>
        .succeed (some decoded)
  else .fail (persistenceError "Postgres command published_artifacts.get failed.")

/-- `canonicalJsonBody`; an exception of the parser is caught by nobody. -/
def canonicalJsonBody (host : StoreHost) (value : JsonValue) : Exit NetworkError JsonValue :=
  match value with
  | .str text =>
      match host.parseJson text with
      | some parsed => .succeed parsed
      | none => .die
  | other => .succeed other

/-- `get`. -/
def get (host : StoreHost) (rows : PublishedArtifacts) (artifactId : String) :
    Exit NetworkError (Option SignedArtifact) :=
  (queryOne rows artifactId).bind fun found =>
    match found with
    | none => .succeed none
    | some row => (canonicalJsonBody host row.canonicalJson).bind fun body =>
        .succeed (some
          { artifactId := row.artifactId
            artifactHash := row.artifactHash
            artifactType := row.artifactType
            version := row.version
            body })

/-- `execute` of `publishedArtifactCommand`: the parameters are read at the types of
    their columns, then the row is written. -/
def execute (host : StoreHost) (rows : PublishedArtifacts) (artifact : SignedArtifact) :
    Option PublishedArtifacts := do
  guard (isText artifact.artifactId)
  guard (isText artifact.artifactType)
  guard (isText artifact.artifactHash)
  guard (isJsonb artifact.body)
  guard ((artifactScopeFromBody artifact.body).publishedAt.all host.parsesTimestamptz)
  publishedArtifactCommand artifact rows

/-- `put`: a body that names no root throws before any statement is sent. -/
def put (host : StoreHost) (rows : PublishedArtifacts) (artifact : SignedArtifact) :
    Exit NetworkError SignedArtifact × PublishedArtifacts :=
  match (artifactScopeFromBody artifact.body).rootProgramId with
  | none => (.die, rows)
  | some _ =>
      match execute host rows artifact with
      | none => (.fail (persistenceError "Postgres command published_artifacts.upsert failed."), rows)
      | some rows => (.succeed artifact, rows)

/-! ## Both stores under the same calls -/

/-- The stores side by side. -/
structure Stores where
  memory : MemoryStore
  rows : PublishedArtifacts

/-- A call of the interface. -/
inductive Call where
  | put (artifact : SignedArtifact)
  | get (artifactId : String)

namespace Stores

/-- Before the first call. -/
def empty : Stores := ⟨OrderedMap.empty, OrderedMap.empty⟩

/-- The answer of the map. -/
def memoryAnswer (s : Stores) : Call → Exit NetworkError (Option SignedArtifact)
  | .put artifact => (s.memory.put artifact).1.bind fun stored => .succeed (some stored)
  | .get artifactId => s.memory.get artifactId

/-- The answer of the table. -/
def postgresAnswer (host : StoreHost) (s : Stores) :
    Call → Exit NetworkError (Option SignedArtifact)
  | .put artifact => (put host s.rows artifact).1.bind fun stored => .succeed (some stored)
  | .get artifactId => get host s.rows artifactId

/-- One call, on both stores. -/
def apply (host : StoreHost) (s : Stores) : Call → Stores
  | .put artifact => ⟨(s.memory.put artifact).2, (put host s.rows artifact).2⟩
  | .get _ => s

end Stores

/-- Any number of calls, one after the other. -/
def machine (host : StoreHost) : Runs.Machine Stores Call Call where
  plan _ call := [call]
  apply := Stores.apply host

end PostgresArtifactStore
