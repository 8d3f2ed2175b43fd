import QrTrust.Backend.PathCanonicalizationProofs

/-! # Form-encoded queries

    `parse_qsl` and `unquote` of `urllib.parse`, which read a query as servers do:
    pairs between ampersands, a key up to the first equals sign, a plus for a
    space, and escapes for the octets of UTF-8.  `decode` is
    `bytes.decode("utf-8", "replace")`. -/

namespace FormQuery

open DestinationCanonicalization

/-- `value.replace("+", " ")`. -/
def plusToSpace (text : List Char) : List Char := text.map fun c => if c = '+' then ' ' else c

/-- `unquote_to_bytes` of the ASCII runs of a text; what is not ASCII stays. -/
def octets : List Char → List (Nat ⊕ Char)
  | '%' :: high :: low :: rest =>
      match hexValue high, hexValue low with
      | some h, some l => .inl (16 * h + l) :: octets rest
      | _, _ => .inl 37 :: octets (high :: low :: rest)
  | c :: rest => (if c.toNat < 128 then .inl c.toNat else .inr c) :: octets rest
  | [] => []

variable (decode : List Nat → List Char)

/-- The text of a row of octets and characters, decoding run by run; `run` is the
    run that is being read. -/
def decodeRuns : List Nat → List (Nat ⊕ Char) → List Char
  | run, [] => decode run
  | run, .inl octet :: rest => decodeRuns (run ++ [octet]) rest
  | run, .inr c :: rest => decode run ++ c :: decodeRuns [] rest

/-- `unquote`. -/
def unquote (text : List Char) : List Char :=
  if '%' ∈ text then decodeRuns decode [] (octets text) else text

/-- The key and the value of a pair. -/
def formPair (pair : List Char) : String × String :=
  (String.ofList (unquote decode (plusToSpace (pair.takeWhile (· ≠ '=')))),
    String.ofList (unquote decode (plusToSpace ((pair.dropWhile (· ≠ '=')).drop 1))))

/-- `parse_qsl(query, keep_blank_values=True)`. -/
def parseQsl (query : String) : List (String × String) :=
  ((query.toList.splitOn '&').filter (· ≠ [])).map (formPair decode)

/-- The keys a server reads in a query. -/
def formKeys (query : String) : List String := (parseQsl decode query).map Prod.fst

/-- What is used of the decoder: ASCII decodes to itself. -/
def DecodesAscii : Prop :=
  ∀ run : List Nat, (∀ octet ∈ run, octet < 128) → decode run = run.map Char.ofNat

end FormQuery
