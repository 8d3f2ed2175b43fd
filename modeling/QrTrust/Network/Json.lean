import Mathlib.Data.Rat.Defs
import Mathlib.Tactic.Common
import QrTrust.Lib.OrderedMap

/-! # JSON documents and the host language around them

    Artifact bodies are JSON documents of no promised shape; the sync service
    reads them property by property.  A property read gives `none` where the
    source gets `undefined`.  Functions of the host that the services call and
    that this development does not look into (the URL parser, the Unicode case
    mapping, the date parser, the hash) are the fields of `JsRuntime`. -/

/-- A JSON document. -/
inductive JsonValue where
  | null
  | bool (b : Bool)
  | num (n : Rat)
  | str (s : String)
  | arr (items : List JsonValue)
  | obj (fields : List (String × JsonValue))

namespace JsonValue

/-- `value[key]`; reading a property of anything but an object is `undefined`. -/
def prop : JsonValue → String → Option JsonValue
  | obj fields, key => (fields.find? fun field => field.1 = key).map Prod.snd
  | _, _ => none

/-- `value && typeof value === "object"`. -/
def isObjectLike : JsonValue → Bool
  | arr _ => true
  | obj _ => true
  | _ => false

/-- A plain object: object-like and no array. -/
def isRecord : JsonValue → Bool
  | obj _ => true
  | _ => false

/-- The string a value is, where `typeof value === "string"`. -/
def asString : JsonValue → Option String
  | str s => some s
  | _ => none

/-- The items of a value, where `Array.isArray(value)`. -/
def asArray : JsonValue → Option (List JsonValue)
  | arr items => some items
  | _ => none

/-- The Boolean a value is, where `typeof value === "boolean"`. -/
def asBool : JsonValue → Option Bool
  | bool b => some b
  | _ => none

/-- The number a value is, where `typeof value === "number"`. -/
def asNumber : JsonValue → Option Rat
  | num n => some n
  | _ => none

/-- The string under a key. -/
def stringField (v : JsonValue) (key : String) : Option String := (v.prop key).bind asString

/-- The array under a key. -/
def arrayField (v : JsonValue) (key : String) : Option (List JsonValue) :=
  (v.prop key).bind asArray

/-- The Boolean under a key. -/
def boolField (v : JsonValue) (key : String) : Option Bool := (v.prop key).bind asBool

/-- The number under a key. -/
def numberField (v : JsonValue) (key : String) : Option Rat := (v.prop key).bind asNumber

/-- The array of strings under a key. -/
def stringArrayField (v : JsonValue) (key : String) : Option (List String) :=
  (v.arrayField key).bind fun items => items.mapM asString

/-- A property that is absent or a string, as in
    `typeof x === "undefined" || typeof x === "string"`. -/
def optionalStringField (v : JsonValue) (key : String) : Option (Option String) :=
  match v.prop key with
  | none => some none
  | some value => value.asString.map some

/-- `value[key]` where null counts as absent: the left side of `??`. -/
def nonNull (v : JsonValue) (key : String) : Option JsonValue :=
  match v.prop key with
  | some null => none
  | other => other

/-- `isOneOf(value[key], allowed)`: the string under the key, if it is allowed. -/
def oneOfField (v : JsonValue) (key : String) (allowed : List String) : Option String :=
  (v.stringField key).filter fun s => s ∈ allowed

end JsonValue

/-! ## Strings of the host language -/

namespace JsString

/-- White space and line terminators, as `trim` and the pattern `\s` know them. -/
def isSpace (c : Char) : Bool :=
  c.toNat ∈ [9, 10, 11, 12, 13, 32, 160, 5760, 8192, 8193, 8194, 8195, 8196, 8197,
    8198, 8199, 8200, 8201, 8202, 8232, 8233, 8239, 8287, 12288, 65279]

/-- The UTF-16 code units of a character. -/
def codeUnits (c : Char) : List Nat :=
  if c.toNat < 0x10000 then [c.toNat]
  else [0xd800 + (c.toNat - 0x10000) / 0x400, 0xdc00 + (c.toNat - 0x10000) % 0x400]

/-- `value.trim()`. -/
def trim (s : String) : String :=
  String.ofList ((s.toList.dropWhile isSpace).reverse.dropWhile isSpace).reverse

/-- `value.endsWith(suffix)`. -/
def endsWith (s suffix : String) : Bool := suffix.toList.isSuffixOf s.toList

/-- `value.length`. -/
def length (s : String) : Nat := (s.toList.flatMap codeUnits).length

/-- `value.startsWith(prefix)`. -/
def startsWith (s start : String) : Bool := start.toList.isPrefixOf s.toList

/-- `value.replace(/\.$/, "")`: one trailing dot goes. -/
def dropTrailingDot (s : String) : String :=
  if endsWith s "." then String.ofList s.toList.dropLast else s

/-- `values.join("\u001f")`. -/
def joinUnitSeparator (values : List String) : String :=
  String.ofList ((values.map String.toList).intersperse ['\x1f']).flatten

/-- `a < b` on strings: lexicographic in code units. -/
def less (a b : String) : Bool :=
  (a.toList.flatMap codeUnits).lex (b.toList.flatMap codeUnits) fun x y => decide (x < y)

/-- The Boolean reading of an optional string: present and not empty. -/
def truthy (s : Option String) : Option String := s.filter (· ≠ "")

end JsString

/-! ## The runtime -/

/-- A parsed URL, as the services read it. -/
structure Url where
  href : String
  protocol : String
  username : String
  password : String
  hostname : String
  pathname : String
  searchParams : List (String × String)
  deriving DecidableEq, Repr

/-- `searchParams.get(name)`. -/
def Url.searchParam (url : Url) (name : String) : Option String :=
  (url.searchParams.find? fun param => param.1 = name).map Prod.snd

/-- The host functions the services call. -/
structure JsRuntime where
  /-- `new URL(value)`; `none` where the constructor throws. -/
  parseUrl : String → Option Url
  /-- `value.toLowerCase()`. -/
  toLowerCase : String → String
  /-- `new Date(value).toISOString()`; `none` where it throws. -/
  toISOString : String → Option String
  /-- `hashJson(value)`: the digest of the canonical text of a document. -/
  hashJson : JsonValue → String
