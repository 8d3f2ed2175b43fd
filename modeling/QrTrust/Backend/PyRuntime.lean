import QrTrust.Lib.OrderedMap
import QrTrust.Network.Json

/-! # The host language of the backend

    Strings, datetimes and exceptions as the backend services use them.  What
    the services take from Unicode tables, from the URL and date parsers, and
    from cryptography is a field of `PyRuntime`. -/

/-! ## Exceptions -/

/-- The exceptions the modelled functions raise. -/
inductive PyError where
  | typeError
  | overflowError
  | valueError (text : String)
  /-- `SignedSchemaError`, a `ValueError`. -/
  | signedSchemaError (text : String)
  /-- `QRArtifactError`, a `ValueError`. -/
  | qrArtifactError (text : String)
  /-- `CanonicalizationError`, a `ValueError`. -/
  | canonicalizationError (reason : String)
  | trustStateUnavailableError (text : String)
  | httpException (status : Nat) (detail : String)
  deriving DecidableEq, Repr

/-- `except ValueError as exc`: the text of the exceptions it catches. -/
def PyError.asValueError : PyError → Option String
  | valueError text => some text
  | signedSchemaError text => some text
  | qrArtifactError text => some text
  | canonicalizationError reason => some reason
  | _ => none

/-! ## Strings -/

namespace PyString

/-- `character.isspace()`. -/
def isspace (c : Char) : Bool :=
  c.toNat ∈ [9, 10, 11, 12, 13, 28, 29, 30, 31, 32, 133, 160, 5760, 8192, 8193, 8194, 8195,
    8196, 8197, 8198, 8199, 8200, 8201, 8202, 8232, 8233, 8239, 8287, 12288]

/-- `value.strip()`. -/
def strip (s : String) : String :=
  String.ofList ((s.toList.dropWhile isspace).reverse.dropWhile isspace).reverse

/-- `value.startswith(start)`. -/
def startswith (s start : String) : Bool := start.toList.isPrefixOf s.toList

/-- `value.endswith(suffix)`. -/
def endswith (s suffix : String) : Bool := suffix.toList.isSuffixOf s.toList

/-- `piece in value`. -/
def contains (s piece : String) : Bool :=
  s.toList.tails.any fun rest => piece.toList.isPrefixOf rest

/-- `value[:-1]`. -/
def dropLast (s : String) : String := String.ofList s.toList.dropLast

/-- `len(value)`. -/
def len (s : String) : Nat := s.toList.length

/-- `separator.join(values)`. -/
def join (separator : String) (values : List String) : String :=
  String.ofList ((values.map String.toList).intersperse separator.toList).flatten

/-- The hexadecimal digit of a number below 16. -/
def hexDigit (n : Nat) : Char :=
  Char.ofNat (if n < 10 then 48 + n else 87 + n)

/-- `\uXXXX`. -/
def unicodeEscape (unit : Nat) : List Char :=
  ['\\', 'u', hexDigit (unit / 4096 % 16), hexDigit (unit / 256 % 16),
    hexDigit (unit / 16 % 16), hexDigit (unit % 16)]

/-- A character inside a string of `json.dumps(…, ensure_ascii=True)`. -/
def jsonEscape (c : Char) : List Char :=
  if c = '"' then ['\\', '"']
  else if c = '\\' then ['\\', '\\']
  else if c = '\n' then ['\\', 'n']
  else if c = '\r' then ['\\', 'r']
  else if c = '\t' then ['\\', 't']
  else if c.toNat = 8 then ['\\', 'b']
  else if c.toNat = 12 then ['\\', 'f']
  else if 32 ≤ c.toNat ∧ c.toNat ≤ 126 then [c]
  else (JsString.codeUnits c).flatMap unicodeEscape

/-- `json.dumps` of a string. -/
def jsonString (s : String) : String :=
  String.ofList ('"' :: s.toList.flatMap jsonEscape ++ ['"'])

end PyString

/-! ## Decoded JSON -/

/-- A value as `json.loads` returns it. -/
inductive PyJson where
  | none
  | bool (b : Bool)
  | int (n : Int)
  | float (x : Rat)
  | str (s : String)
  | list (items : List PyJson)
  | dict (fields : List (String × PyJson))

namespace PyJson

/-- `value.get(key)` of a dict. -/
def get (fields : List (String × PyJson)) (key : String) : PyJson :=
  ((fields.find? fun field => field.1 = key).map Prod.snd).getD none

/-- The string a value is, where `isinstance(value, str)`. -/
def asStr : PyJson → Option String
  | str s => some s
  | _ => Option.none

/-- `isinstance(value, int)`; a Boolean is one. -/
def isInt : PyJson → Bool
  | int _ => true
  | bool _ => true
  | _ => false

/-- `value == n`, for a value that is an `int`. -/
def eqInt (value : PyJson) (n : Int) : Bool :=
  match value with
  | int m => m = n
  | bool b => (if b then 1 else 0) = n
  | _ => false

/-- Iterating `value or []`: a falsy value has no items, and a number none can be
    asked of. -/
def iterOrEmpty : PyJson → Except PyError (List PyJson)
  | none => .ok []
  | bool b => if b then .error .typeError else .ok []
  | int n => if n = 0 then .ok [] else .error .typeError
  | float x => if x = 0 then .ok [] else .error .typeError
  | str s => .ok (s.toList.map fun c => str (String.ofList [c]))
  | list items => .ok items
  | dict fields => .ok (fields.map fun field => str field.1)

/-- `_string_list`: the strings of a list that are not blank. -/
def stringList : PyJson → List String
  | list items => (items.filterMap asStr).filter fun item => PyString.strip item ≠ ""
  | _ => []

end PyJson

/-! ## Datetimes -/

/-- A `datetime`: its wall clock in microseconds since the year 1, and the offset
    of an aware one in microseconds. -/
structure Datetime where
  wall : Int
  utcoffset : Option Int
  deriving DecidableEq, Repr

namespace Datetime

/-- The wall clock of `datetime.max`. -/
def maxWall : Int := 315537897599999999

/-- An aware datetime in UTC. -/
def utc (instant : Int) : Datetime := ⟨instant, some 0⟩

/-- What two datetimes are ordered by; a naive one cannot be ordered with an
    aware one. -/
def compareKeys (a b : Datetime) : Except PyError (Int × Int) :=
  match a.utcoffset, b.utcoffset with
  | none, none => .ok (a.wall, b.wall)
  | some offset, some offset' => .ok (a.wall - offset, b.wall - offset')
  | _, _ => .error .typeError

/-- `a < b`. -/
def lt (a b : Datetime) : Except PyError Bool :=
  (compareKeys a b).map fun keys => keys.1 < keys.2

/-- `a <= b`. -/
def le (a b : Datetime) : Except PyError Bool :=
  (compareKeys a b).map fun keys => keys.1 ≤ keys.2

/-- `value + timedelta(seconds=seconds)`. -/
def addSeconds (value : Datetime) (seconds : Int) : Except PyError Datetime :=
  let wall := value.wall + seconds * 1000000
  if 0 ≤ wall ∧ wall ≤ maxWall then .ok { value with wall := wall } else .error .overflowError

/-- `value.replace(tzinfo=timezone.utc)` where `value.tzinfo is None`. -/
def withUtc (value : Datetime) : Datetime :=
  { value with utcoffset := some (value.utcoffset.getD 0) }

/-- The instant of an aware datetime. -/
def instant (value : Datetime) : Int := value.wall - value.utcoffset.getD 0

end Datetime

/-! ## The runtime -/

/-- `SplitResult`, as the services read it. -/
structure SplitResult where
  scheme : String
  username : Option String
  password : Option String
  hostname : Option String
  /-- Reading the port raises `ValueError` where it is out of range. -/
  port : Except String (Option Nat)
  path : String
  query : String

/-- The functions of the host language and its libraries that the services call. -/
structure PyRuntime where
  /-- `value.lower()`. -/
  lower : String → String
  /-- `repr(value)` of a string. -/
  repr : String → String
  /-- `repr(values)` of a list. -/
  reprList : List PyJson → String
  /-- `value.encode("idna").decode("ascii")`, or the text of its `UnicodeError`. -/
  encodeIdna : String → Except String String
  /-- `urlsplit(value)`, or the text of its `ValueError`. -/
  urlsplit : String → Except String SplitResult
  /-- `urlparse(value)`, which takes the parameters off the path. -/
  urlparse : String → Except String SplitResult
  /-- Does the pattern `\d` match the character? -/
  isDigit : Char → Bool
  /-- `parse_qsl(value, keep_blank_values=True)`. -/
  parseQsl : String → List (String × String)
  /-- `datetime.fromisoformat(value)`; `none` for its `ValueError`. -/
  fromisoformat : String → Option Datetime
  /-- Does `load_pem_public_key` accept the text? -/
  loadsPemPublicKey : String → Bool
  /-- Does the RSA-PSS signature (base64) of the payload verify under the PEM key? -/
  verifiesRsaPss : String → String → String → Bool
  /-- `sha256(value.encode("utf-8")).hexdigest()`. -/
  sha256 : String → String

/-- The settings of `config` that the services read. -/
structure BackendConfig where
  publicKey : String
  verifierClockSkewSeconds : Int
  verifierVerdictCacheTtlSeconds : Int
