import QrTrust.Backend.ClaimsTextProofs
import QrTrust.Backend.DestinationCanonicalization

/-! # JSON texts and their decoder

    `json.loads`, and that it reads back what `json.dumps` writes: a value whose
    text is read before any other text (`Reads`) is read inside an object as well
    (`reads_jsonObject`).  Numbers and the words for infinities are left to
    `number`. -/

namespace JsonText

open SignedSchema PyString JsString DestinationCanonicalization

/-! ## The decoder -/

/-- White space between tokens. -/
def isBlank (c : Char) : Bool := c ∈ [' ', '\t', '\n', '\r']

/-- The text after white space. -/
def skipBlank (text : List Char) : List Char := text.dropWhile isBlank

/-- `_decode_uXXXX`: four hexadecimal digits. -/
def codeUnit : List Char → Option (Nat × List Char)
  | a :: b :: c :: d :: rest => do
      let a ← hexValue a
      let b ← hexValue b
      let c ← hexValue c
      let d ← hexValue d
      return (a * 4096 + b * 256 + c * 16 + d, rest)
  | _ => none

/-- `chr(unit)`; a surrogate by itself, which no string here can hold, becomes the
    replacement character. -/
def unitChar (unit : Nat) : Char :=
  if 0xd800 ≤ unit ∧ unit ≤ 0xdfff then Char.ofNat 0xfffd else Char.ofNat unit

/-- What follows `\u`: a high surrogate takes the low one that is escaped after it. -/
def escapedUnit (text : List Char) : Option (Char × List Char) := do
  let (high, rest) ← codeUnit text
  if 0xd800 ≤ high ∧ high ≤ 0xdbff ∧ ['\\', 'u'].isPrefixOf rest then
    let (low, rest') ← codeUnit (rest.drop 2)
    if 0xdc00 ≤ low ∧ low ≤ 0xdfff then
      return (Char.ofNat (0x10000 + (high - 0xd800) * 0x400 + (low - 0xdc00)), rest')
    else return (unitChar high, rest)
  else return (unitChar high, rest)

/-- `BACKSLASH`: the escapes of one letter. -/
def backslash (c : Char) : Option Char :=
  if c ∈ ['"', '\\', '/'] then some c
  else if c = 'b' then some (Char.ofNat 8)
  else if c = 'f' then some (Char.ofNat 12)
  else if c = 'n' then some '\n'
  else if c = 'r' then some '\r'
  else if c = 't' then some '\t'
  else none

/-- The first character of the rest of a string; a control character is refused. -/
def character : List Char → Option (Char × List Char)
  | [] => none
  | c :: rest =>
      if c ≠ '\\' then if c.toNat < 32 then none else some (c, rest)
      else match rest with
        | [] => none
        | escape :: rest =>
            if escape = 'u' then escapedUnit rest
            else (backslash escape).map fun c => (c, rest)

/-- `scanstring`: the characters up to the closing quote. -/
def scanString : Nat → List Char → Option (List Char × List Char)
  | 0, _ => none
  | _ + 1, [] => none
  | fuel + 1, c :: rest =>
      if c = '"' then some ([], rest)
      else do
        let (first, rest) ← character (c :: rest)
        let (chars, rest) ← scanString fuel rest
        return (first :: chars, rest)

/-- A string, from its opening quote. -/
def scanQuoted : List Char → Option (String × List Char)
  | [] => none
  | c :: rest =>
      if c = '"' then
        (scanString rest.length rest).map fun (chars, rest) => (String.ofList chars, rest)
      else none

/-- The words with a value. -/
def words : List (String × PyJson) :=
  [("null", .none), ("true", .bool true), ("false", .bool false)]

/-- A word at the start of a text. -/
def scanWord (text : List Char) : Option (PyJson × List Char) :=
  (words.find? fun word => word.1.toList.isPrefixOf text).map fun word =>
    (word.2, text.drop word.1.toList.length)

variable (number : List Char → Option (PyJson × List Char))

mutual

/-- `scan_once`: a value at the start of a text. -/
def scanOnce : Nat → List Char → Option (PyJson × List Char)
  | 0, _ => none
  | _ + 1, [] => none
  | fuel + 1, c :: rest =>
      if c = '"' then (scanQuoted (c :: rest)).map fun (text, rest) => (.str text, rest)
      else if c = '\x7b' then
        if (skipBlank rest).head? = some '\x7d' then some (.dict [], (skipBlank rest).tail)
        else (scanMembers fuel (skipBlank rest)).map fun (members, rest) =>
          -- a later member replaces an earlier one of its name
          (.dict (OrderedMap.ofList members).entries, rest)
      else if c = '[' then
        if (skipBlank rest).head? = some ']' then some (.list [], (skipBlank rest).tail)
        else (scanItems fuel (skipBlank rest)).map fun (items, rest) => (.list items, rest)
      else (scanWord (c :: rest)).or (number (c :: rest))

/-- `JSONObject`: the members up to the closing brace. -/
def scanMembers : Nat → List Char → Option (List (String × PyJson) × List Char)
  | 0, _ => none
  | fuel + 1, text => do
      let (name, rest) ← scanQuoted text
      match skipBlank rest with
      | ':' :: rest =>
          let (value, rest) ← scanOnce fuel (skipBlank rest)
          match skipBlank rest with
          | '\x7d' :: rest => return ([(name, value)], rest)
          | ',' :: rest =>
              let (members, rest) ← scanMembers fuel (skipBlank rest)
              return ((name, value) :: members, rest)
          | _ => none
      | _ => none

/-- `JSONArray`: the items up to the closing bracket. -/
def scanItems : Nat → List Char → Option (List PyJson × List Char)
  | 0, _ => none
  | fuel + 1, text => do
      let (value, rest) ← scanOnce fuel text
      match skipBlank rest with
      | ']' :: rest => return ([value], rest)
      | ',' :: rest =>
          let (items, rest) ← scanItems fuel (skipBlank rest)
          return (value :: items, rest)
      | _ => none

end

/-- `json.loads`; `none` for its `JSONDecodeError`. -/
def loads (text : String) : Option PyJson := do
  let (value, rest) ← scanOnce number text.toList.length (skipBlank text.toList)
  if skipBlank rest = [] then some value else none

/-! ## Characters -/

theorem hexValue_hexDigit {n : Nat} (hn : n < 16) : hexValue (hexDigit n) = some n := by
  have hall : ∀ d : Fin 16, hexValue (hexDigit d) = some d.val := by decide
  exact hall ⟨n, hn⟩

theorem codeUnit_digits {unit : Nat} (hunit : unit < 0x10000) (rest : List Char) :
    codeUnit (hexDigit (unit / 4096 % 16) :: hexDigit (unit / 256 % 16)
      :: hexDigit (unit / 16 % 16) :: hexDigit (unit % 16) :: rest) = some (unit, rest) := by
  have hsum : unit / 4096 % 16 * 4096 + unit / 256 % 16 * 256 + unit / 16 % 16 * 16 + unit % 16
      = unit := by omega
  have hdigit : ∀ n, hexValue (hexDigit (n % 16)) = some (n % 16) :=
    fun n => hexValue_hexDigit (Nat.mod_lt _ (by decide))
  simp only [codeUnit, hdigit]
  exact congrArg (fun n => some (n, rest)) hsum

/-- **UNIT**: a code unit is read back from its escape. -/
theorem codeUnit_unicodeEscape {unit : Nat} (hunit : unit < 0x10000) (rest : List Char) :
    codeUnit ((unicodeEscape unit ++ rest).drop 2) = some (unit, rest) :=
  codeUnit_digits hunit rest

/-- **WIDE**: a character is read back from the escapes of its code units. -/
theorem escapedUnit_codeUnits (c : Char) (rest : List Char) :
    escapedUnit (((codeUnits c).flatMap unicodeEscape ++ rest).drop 2) = some (c, rest) := by
  have hvalid := char_valid c
  rcases codeUnits_cases c with ⟨hunits, hsmall⟩ | ⟨high, low, hunits, hhigh, hlow, hvalue⟩
  · -- a character is no surrogate
    rw [hunits, List.flatMap_cons, List.flatMap_nil, List.append_nil, escapedUnit,
      codeUnit_unicodeEscape hsmall]
    have hnot : ¬ (0xd800 ≤ c.toNat ∧ c.toNat ≤ 0xdbff ∧ ['\\', 'u'].isPrefixOf rest = true) := by
      omega
    have hchar : unitChar c.toNat = c := by
      rw [unitChar, if_neg (by omega), Char.ofNat_toNat]
    simp only [Option.bind_eq_bind, Option.bind_some, if_neg hnot, hchar]
    rfl
  · rw [hunits, List.flatMap_cons, List.flatMap_cons, List.flatMap_nil, List.append_nil,
      List.append_assoc, escapedUnit, codeUnit_unicodeEscape (by omega)]
    have hpair : 0xd800 ≤ 0xd800 + high ∧ 0xd800 + high ≤ 0xdbff
        ∧ ['\\', 'u'].isPrefixOf (unicodeEscape (0xdc00 + low) ++ rest) = true :=
      ⟨by omega, by omega, by simp [unicodeEscape]⟩
    have hlow' : 0xdc00 ≤ 0xdc00 + low ∧ 0xdc00 + low ≤ 0xdfff := by omega
    have hsum : 0x10000 + (0xd800 + high - 0xd800) * 0x400 + (0xdc00 + low - 0xdc00)
        = c.toNat := by omega
    simp only [Option.bind_eq_bind, Option.bind_some, if_pos hpair,
      codeUnit_unicodeEscape (show 0xdc00 + low < 0x10000 by omega), if_pos hlow', hsum,
      Char.ofNat_toNat]
    rfl

/-- What is written as it is, is no control character. -/
theorem control_lt_of_jsonEscape {c : Char} (h : jsonEscape c = [c]) : ¬ c.toNat < 32 := by
  intro hcontrol
  rw [jsonEscape] at h
  split at h
  · cases h
  split at h
  · cases h
  split at h
  · cases h
  split at h
  · cases h
  split at h
  · cases h
  split at h
  · cases h
  split at h
  · cases h
  split at h
  · omega
  · have hlength := congrArg List.length h
    rcases codeUnits_cases c with ⟨hunits, -⟩ | ⟨high, low, hunits, -⟩
    · rw [hunits] at hlength
      cases hlength
    · rw [hunits] at hlength
      cases hlength

/-- **CHARACTER**: a character is read back from its escape. -/
theorem character_jsonEscape (c : Char) (rest : List Char) :
    character (jsonEscape c ++ rest) = some (c, rest) := by
  rcases jsonEscape_cases c with hc | ⟨-, hbackslash, hc⟩ | hc
  · simp only [shortEscaped, List.mem_cons, List.not_mem_nil, or_false] at hc
    rcases hc with rfl | rfl | rfl | rfl | rfl | rfl | rfl <;> rfl
  · rw [hc, List.singleton_append, character.eq_def]
    dsimp only
    rw [if_pos hbackslash, if_neg (control_lt_of_jsonEscape hc)]
  · rw [hc]
    have hunits : ∃ digits, (codeUnits c).flatMap unicodeEscape = '\\' :: 'u' :: digits := by
      obtain ⟨digits, hdigits, -⟩ := jsonEscape_wide hc
      exact ⟨digits, hc.symm.trans hdigits⟩
    obtain ⟨digits, hdigits⟩ := hunits
    have hread := escapedUnit_codeUnits c rest
    rw [hdigits] at hread ⊢
    exact hread

/-! ## Strings -/

/-- The characters of a string are read back, up to the closing quote. -/
theorem scanString_escaped (chars rest : List Char) {fuel : Nat} (hfuel : chars.length < fuel) :
    scanString fuel (chars.flatMap jsonEscape ++ '"' :: rest) = some (chars, rest) := by
  induction chars generalizing fuel with
  | nil =>
      obtain ⟨fuel, rfl⟩ := Nat.exists_eq_add_one.mpr (Nat.zero_lt_of_lt hfuel)
      rfl
  | cons c chars ih =>
      obtain ⟨fuel, rfl⟩ := Nat.exists_eq_add_one.mpr (Nat.zero_lt_of_lt hfuel)
      obtain ⟨first, escape, hescape, hquote⟩ := jsonEscape_start c
      have hread := character_jsonEscape c (chars.flatMap jsonEscape ++ '"' :: rest)
      rw [hescape] at hread
      rw [List.flatMap_cons, hescape, List.append_assoc, List.cons_append, scanString,
        if_neg hquote, ← List.cons_append, hread]
      simp only [Option.bind_eq_bind, Option.bind_some, ih (Nat.lt_of_succ_lt_succ hfuel)]
      rfl

theorem length_le_flatMap_jsonEscape (chars : List Char) :
    chars.length ≤ (chars.flatMap jsonEscape).length := by
  induction chars with
  | nil => exact Nat.le_refl _
  | cons c chars ih =>
      obtain ⟨first, escape, hescape, -⟩ := jsonEscape_start c
      rw [List.flatMap_cons, hescape, List.length_append, List.length_cons, List.length_cons]
      omega

/-- **STRING**: a string is read back before any text. -/
theorem scanQuoted_jsonString (text : String) (rest : List Char) :
    scanQuoted ((jsonString text).toList ++ rest) = some (text, rest) := by
  rw [toList_jsonString, List.cons_append, List.append_assoc, List.singleton_append, scanQuoted,
    if_pos rfl, scanString_escaped]
  · exact congrArg (fun text => some (text, rest)) (String.ofList_toList)
  · have hle := length_le_flatMap_jsonEscape text.toList
    rw [List.length_append, List.length_cons]
    omega

/-! ## Values -/

/-- The text is read as the value, before any other text. -/
structure Reads (value : PyJson) (text : String) : Prop where
  start : ∀ rest, skipBlank (text.toList ++ rest) = text.toList ++ rest
  scan : ∀ fuel rest, text.toList.length ≤ fuel →
    scanOnce number fuel (text.toList ++ rest) = some (value, rest)

variable {number}

theorem skipBlank_cons {c : Char} (hc : isBlank c = false) (rest : List Char) :
    skipBlank (c :: rest) = c :: rest := by
  rw [skipBlank, List.dropWhile_cons_of_neg (by simp [hc])]

theorem skipBlank_jsonString (text : String) (rest : List Char) :
    skipBlank ((jsonString text).toList ++ rest) = (jsonString text).toList ++ rest := by
  rw [toList_jsonString, List.cons_append, skipBlank_cons (by decide)]

theorem reads_jsonString (text : String) : Reads number (.str text) (jsonString text) where
  start := skipBlank_jsonString text
  scan fuel rest hfuel := by
    have hread := scanQuoted_jsonString text rest
    rw [toList_jsonString] at hfuel hread ⊢
    obtain ⟨fuel, rfl⟩ := Nat.exists_eq_add_one.mpr (Nat.zero_lt_of_lt hfuel)
    rw [List.cons_append] at hread ⊢
    rw [scanOnce, if_pos rfl, hread]
    rfl

theorem reads_null : Reads number .none "null" where
  start rest := skipBlank_cons (by decide) _
  scan fuel rest hfuel := by
    obtain ⟨fuel, rfl⟩ := Nat.exists_eq_add_one.mpr (Nat.zero_lt_of_lt hfuel)
    show scanOnce number (fuel + 1) ('n' :: ('u' :: 'l' :: 'l' :: rest)) = _
    rw [scanOnce, if_neg (by decide), if_neg (by decide), if_neg (by decide)]
    rfl

/-- The members of a mapping, from the texts of its values. -/
def jsonMembers (members : List (String × String)) : String :=
  join "," (members.map fun member => jsonString member.1 ++ ":" ++ member.2)

/-- `json.dumps` of a mapping. -/
def jsonObject (members : List (String × String)) : String :=
  "\x7b" ++ jsonMembers members ++ "\x7d"

theorem toList_jsonMembers_singleton (name text : String) :
    (jsonMembers [(name, text)]).toList = (jsonString name).toList ++ ':' :: text.toList := by
  simp [jsonMembers, join]

theorem toList_jsonMembers_cons (name text : String) (next : String × String)
    (members : List (String × String)) :
    (jsonMembers ((name, text) :: next :: members)).toList
      = (jsonString name).toList ++ ':' :: (text.toList
        ++ ',' :: (jsonMembers (next :: members)).toList) := by
  simp [jsonMembers, join]

theorem toList_jsonObject (members : List (String × String)) :
    (jsonObject members).toList = '\x7b' :: ((jsonMembers members).toList ++ ['\x7d']) := by
  simp [jsonObject]

theorem jsonMembers_start {members : List (String × String)} (hmembers : members ≠ []) :
    ∃ tail, (jsonMembers members).toList = '"' :: tail := by
  cases members with
  | nil => exact absurd rfl hmembers
  | cons member members =>
      cases members with
      | nil =>
          rw [toList_jsonMembers_singleton, toList_jsonString]
          exact ⟨_, rfl⟩
      | cons next members =>
          rw [toList_jsonMembers_cons, toList_jsonString]
          exact ⟨_, rfl⟩

theorem skipBlank_jsonMembers {members : List (String × String)} (hmembers : members ≠ [])
    (rest : List Char) :
    skipBlank ((jsonMembers members).toList ++ rest) = (jsonMembers members).toList ++ rest := by
  obtain ⟨tail, htail⟩ := jsonMembers_start hmembers
  rw [htail, List.cons_append, skipBlank_cons (by decide)]

/-- The member with the text is read as the member with the value. -/
def MemberReads (number : List Char → Option (PyJson × List Char)) (text : String × String)
    (value : String × PyJson) : Prop :=
  text.1 = value.1 ∧ Reads number value.2 text.2

/-- **MEMBERS**: they are read back, up to the closing brace. -/
theorem scanMembers_jsonMembers {texts : List (String × String)}
    {values : List (String × PyJson)} (hreads : List.Forall₂ (MemberReads number) texts values)
    (hne : texts ≠ []) {fuel : Nat} (rest : List Char)
    (hfuel : (jsonMembers texts).toList.length < fuel) :
    scanMembers number fuel ((jsonMembers texts).toList ++ '\x7d' :: rest)
      = some (values, rest) := by
  have hcolon : isBlank ':' = false := by decide
  have hcomma : isBlank ',' = false := by decide
  have hbrace : isBlank '\x7d' = false := by decide
  induction hreads generalizing fuel with
  | nil => exact absurd rfl hne
  | @cons member value texts values hmember hrest ih =>
      obtain ⟨name, text⟩ := member
      obtain ⟨name', value⟩ := value
      obtain ⟨rfl, hvalue⟩ : name = name' ∧ Reads number value text := hmember
      obtain ⟨fuel, rfl⟩ := Nat.exists_eq_add_one.mpr (Nat.zero_lt_of_lt hfuel)
      cases hrest with
      | nil =>
          rw [toList_jsonMembers_singleton] at hfuel ⊢
          rw [List.length_append, List.length_cons] at hfuel
          rw [List.append_assoc, List.cons_append, scanMembers, scanQuoted_jsonString]
          simp only [Option.bind_eq_bind, Option.bind_some, skipBlank_cons hcolon, hvalue.start,
            hvalue.scan fuel _ (by omega), skipBlank_cons hbrace]
          rfl
      | cons hnext hrest =>
          rw [toList_jsonMembers_cons] at hfuel ⊢
          rw [List.length_append, List.length_cons, List.length_append, List.length_cons] at hfuel
          have htail := @ih (List.cons_ne_nil _ _) fuel (by omega)
          rw [List.append_assoc, List.cons_append, List.append_assoc, List.cons_append, scanMembers,
            scanQuoted_jsonString]
          simp only [Option.bind_eq_bind, Option.bind_some, skipBlank_cons hcolon, hvalue.start,
            hvalue.scan fuel _ (by omega), skipBlank_cons hcomma,
            skipBlank_jsonMembers (List.cons_ne_nil _ _), htail]
          rfl

/-- **OBJECT**: an object is read back where its values are, the names distinct. -/
theorem reads_jsonObject {texts : List (String × String)} {values : List (String × PyJson)}
    (hreads : List.Forall₂ (MemberReads number) texts values) (hne : texts ≠ [])
    (hnodup : (values.map Prod.fst).Nodup) :
    Reads number (.dict values) (jsonObject texts) where
  start rest := by rw [toList_jsonObject, List.cons_append, skipBlank_cons (by decide)]
  scan fuel rest hfuel := by
    rw [toList_jsonObject] at hfuel ⊢
    rw [List.length_cons, List.length_append, List.length_singleton] at hfuel
    obtain ⟨fuel, rfl⟩ := Nat.exists_eq_add_one.mpr (Nat.zero_lt_of_lt hfuel)
    have hopen : skipBlank ((jsonMembers texts).toList ++ '\x7d' :: rest)
        = (jsonMembers texts).toList ++ '\x7d' :: rest := skipBlank_jsonMembers hne _
    have hquote : ((jsonMembers texts).toList ++ '\x7d' :: rest).head? = some '"' := by
      obtain ⟨tail, htail⟩ := jsonMembers_start hne
      rw [htail]
      rfl
    have hentries : (OrderedMap.ofList values).entries = values :=
      OrderedMap.entries_setAll_of_nodup hnodup
    rw [List.cons_append, List.append_assoc, List.singleton_append, scanOnce, if_neg (by decide),
      if_pos rfl, hopen, hquote, if_neg (by decide),
      scanMembers_jsonMembers hreads hne rest (by omega)]
    exact congrArg (fun entries => some (PyJson.dict entries, rest)) hentries

/-- **DOCUMENT**: a text that is read as a value is the text of that value. -/
theorem loads_of_reads {value : PyJson} {text : String} (h : Reads number value text) :
    loads number text = some value := by
  have hstart := h.start []
  have hscan := h.scan _ [] (Nat.le_refl _)
  rw [List.append_nil] at hstart hscan
  rw [loads, hstart, hscan]
  rfl

end JsonText
