import Mathlib.Data.String.Basic
import QrTrust.Lib.PrefixCode
import QrTrust.Network.SignatureVerification

/-! # One text, one document

    `JSON.stringify` is read back: the first letter of a text tells the kind of
    the document, an escaped string ends at the first quote that is not escaped,
    and arrays and objects end at their bracket.  So two documents with one text
    are one document (`stringify_injective`), as long as the host writes
    different numbers differently and uses the letters of numbers for them
    (`NumberTexts`). -/

namespace CanonicalText

open SignatureVerification PrefixCode

/-! ## Numbers and strings -/

/-- A letter of a number. -/
def isNumberLetter (c : Char) : Bool :=
  c ∈ ['0', '1', '2', '3', '4', '5', '6', '7', '8', '9', '-', '+', '.', 'e']

/-- How the host writes numbers. -/
structure NumberTexts (numberText : Rat → String) : Prop where
  injective : Function.Injective numberText
  letters : ∀ n, ∀ c ∈ (numberText n).toList, isNumberLetter c = true
  nonempty : ∀ n, (numberText n).toList ≠ []

/-- The characters that do not stand for themselves in a string. -/
def escaped : List Char := (List.range 32).map Char.ofNat ++ ['\x22', '\x5c']

theorem mem_escaped {c : Char} (h : c.toNat < 32 ∨ c.toNat = 34 ∨ c.toNat = 92) :
    c ∈ escaped := by
  rcases h with h | h | h
  · refine List.mem_append_left _ (List.mem_map.mpr ⟨c.toNat, List.mem_range.mpr h, ?_⟩)
    exact Char.ofNat_toNat c
  · refine List.mem_append_right _ (List.mem_cons.mpr (.inl ?_))
    rw [← Char.ofNat_toNat c, h]
  · refine List.mem_append_right _ (List.mem_cons_of_mem _ (List.mem_singleton.mpr ?_))
    rw [← Char.ofNat_toNat c, h]

theorem escapeChar_plain {c : Char} (h : c ∉ escaped) : escapeChar c = [c] := by
  have hlarge : ¬(c.toNat < 32 ∨ c.toNat = 34 ∨ c.toNat = 92) := fun hc => h (mem_escaped hc)
  rw [escapeChar]
  split <;> first | omega | skip
  rw [if_neg (by omega)]

/-- An escape begins with a backslash and goes on. -/
theorem escapeChar_escaped : ∀ c ∈ escaped, ∃ d rest, escapeChar c = '\x5c' :: d :: rest := by
  intro c hc
  have hshape : escaped.all (fun c => (escapeChar c).head? = some '\x5c'
      ∧ 2 ≤ (escapeChar c).length) = true := by decide +kernel
  obtain ⟨hhead, hlength⟩ := of_decide_eq_true (List.all_eq_true.mp hshape c hc)
  cases hescape : escapeChar c with
  | nil => simp [hescape] at hlength
  | cons b rest =>
      rw [hescape] at hhead hlength
      obtain rfl := Option.some.inj hhead
      cases rest with
      | nil => simp at hlength
      | cons d rest => exact ⟨d, rest, rfl⟩

/-- **ESCAPES**: no escape is the start of another. -/
theorem escapeChar_prefixFree : PrefixFree escapeChar := by
  have hescapes : escaped.all (fun a => escaped.all fun b =>
      escapeChar a <+: escapeChar b → a = b) = true := by decide +kernel
  have hbackslash : '\x5c' ∈ escaped := by decide +kernel
  intro a b hprefix
  by_cases ha : a ∈ escaped
  · by_cases hb : b ∈ escaped
    · exact of_decide_eq_true
        (List.all_eq_true.mp (List.all_eq_true.mp hescapes a ha) b hb) hprefix
    · -- an escape is longer than a plain character
      obtain ⟨d, rest, hescape⟩ := escapeChar_escaped a ha
      have hlength := hprefix.length_le
      rw [hescape, escapeChar_plain hb] at hlength
      simp at hlength
  · rw [escapeChar_plain ha] at hprefix
    by_cases hb : b ∈ escaped
    · obtain ⟨d, rest, hescape⟩ := escapeChar_escaped b hb
      rw [hescape] at hprefix
      obtain ⟨rfl, -⟩ := List.cons_prefix_cons.mp hprefix
      exact absurd hbackslash ha
    · rw [escapeChar_plain hb] at hprefix
      exact (List.cons_prefix_cons.mp hprefix).1

/-- No escape begins with a quote. -/
theorem escapeChar_start (c : Char) : ∃ d rest, escapeChar c = d :: rest ∧ d ≠ '\x22' := by
  by_cases hc : c ∈ escaped
  · obtain ⟨d, rest, hescape⟩ := escapeChar_escaped c hc
    exact ⟨_, _, hescape, by decide⟩
  · refine ⟨c, [], escapeChar_plain hc, ?_⟩
    rintro rfl
    exact hc (by decide +kernel)

theorem toList_quote (s : String) :
    (quote s).toList = '\x22' :: (s.toList.flatMap escapeChar ++ ['\x22']) := by
  simp [quote]

/-- **STRINGS**: a quoted string is read back before any text. -/
theorem quote_readsBack (s : String) : ReadsBack (fun _ => True) (fun s => (quote s).toList) s := by
  intro t rest rest' _ _ heq
  dsimp only at heq
  rw [toList_quote, toList_quote] at heq
  simp only [List.cons_append, List.append_assoc, List.cons.injEq, true_and,
    List.nil_append] at heq
  obtain ⟨hchars, hrest⟩ :=
    flatMap_readsBack escapeChar_prefixFree escapeChar_start s.toList t.toList rest rest' heq
  exact ⟨String.toList_inj.mp hchars, hrest⟩

/-! ## Documents -/

/-- What may stand behind a document: the end, a comma, or a closing bracket. -/
def Ends (s : List Char) : Prop := ∀ c ∈ s.head?, c ∈ [',', ']', '\x7d']

theorem ends_cons {c : Char} {s : List Char} (h : c ∈ [',', ']', '\x7d']) : Ends (c :: s) := by
  intro d hd
  obtain rfl := Option.mem_some_iff.mp hd
  exact h

variable {numberText : Rat → String}

/-- **NUMBERS**: a number is read back where a document may end. -/
theorem number_readsBack (hn : NumberTexts numberText) (n : Rat) :
    ReadsBack Ends (fun n => (numberText n).toList) n := by
  have hinjective : Function.Injective fun n => (numberText n).toList :=
    fun _ _ h => hn.injective (String.toList_inj.mp h)
  refine (readsBack_of_letters hinjective hn.letters n).mono fun s hs c hc => ?_
  have hends : [',', ']', '\x7d'].all (fun c => !isNumberLetter c) = true := by decide +kernel
  simpa using List.all_eq_true.mp hends c (hs c hc)

/-- The characters of the text of a document. -/
def text (numberText : Rat → String) (v : JsonValue) : List Char := (stringify numberText v).toList

/-- The characters of a property. -/
def fieldText (numberText : Rat → String) (field : String × JsonValue) : List Char :=
  (quote field.1).toList ++ ':' :: text numberText field.2

theorem stringifyItems_eq (items : List JsonValue) :
    stringifyItems numberText items = items.map (stringify numberText) := by
  induction items with
  | nil => rfl
  | cons item rest ih => rw [stringifyItems, List.map_cons, ih]

theorem stringifyFields_eq (fields : List (String × JsonValue)) :
    stringifyFields numberText fields
      = fields.map fun field => quote field.1 ++ ":" ++ stringify numberText field.2 := by
  induction fields with
  | nil => rfl
  | cons field rest ih =>
      obtain ⟨key, value⟩ := field
      rw [stringifyFields, List.map_cons, ih]

theorem text_arr (items : List JsonValue) :
    text numberText (.arr items)
      = '[' :: (separated ',' (text numberText) items ++ [']']) := by
  rw [text, stringify, stringifyItems_eq, separated_eq_intercalate]
  simp only [String.toList_append, String.toList_intercalate, List.map_map]
  rfl

theorem text_obj (fields : List (String × JsonValue)) :
    text numberText (.obj fields)
      = '\x7b' :: (separated ',' (fieldText numberText) fields ++ ['\x7d']) := by
  have hfield : (String.toList ∘ fun field : String × JsonValue =>
      quote field.1 ++ ":" ++ stringify numberText field.2) = fieldText numberText := by
    funext field
    simp [fieldText, text]
  rw [text, stringify, stringifyFields_eq, separated_eq_intercalate]
  simp only [String.toList_append, String.toList_intercalate, List.map_map, hfield]
  simp

/-- The kinds of documents. -/
inductive Kind where
  | null
  | bool
  | num
  | str
  | arr
  | obj
  deriving DecidableEq

/-- The kind of a document. -/
def kind : JsonValue → Kind
  | .null => .null
  | .bool _ => .bool
  | .num _ => .num
  | .str _ => .str
  | .arr _ => .arr
  | .obj _ => .obj

/-- The kind that the first letter of a text tells. -/
def kindOfLetter (c : Char) : Option Kind :=
  if isNumberLetter c then some .num
  else if c = 'n' then some .null
  else if c = 't' ∨ c = 'f' then some .bool
  else if c = '\x22' then some .str
  else if c = '[' then some .arr
  else if c = '\x7b' then some .obj
  else none

/-- **FIRST LETTER**: it tells the kind of the document. -/
theorem text_start (hn : NumberTexts numberText) (v : JsonValue) :
    ∃ c rest, text numberText v = c :: rest ∧ kindOfLetter c = some (kind v) := by
  cases v with
  | null => exact ⟨'n', ['u', 'l', 'l'], by simp [text, stringify], by decide⟩
  | bool b =>
      cases b with
      | true => exact ⟨'t', ['r', 'u', 'e'], by simp [text, stringify], by decide⟩
      | false => exact ⟨'f', ['a', 'l', 's', 'e'], by simp [text, stringify], by decide⟩
  | num n =>
      obtain ⟨c, rest, htext⟩ := List.exists_cons_of_ne_nil (hn.nonempty n)
      have hletter : isNumberLetter c = true := hn.letters n c (htext ▸ List.mem_cons_self)
      exact ⟨c, rest, htext, if_pos hletter⟩
  | str s => exact ⟨_, _, toList_quote s, (by decide : kindOfLetter '\x22' = some .str)⟩
  | arr items => exact ⟨_, _, text_arr items, (by decide : kindOfLetter '[' = some .arr)⟩
  | obj fields => exact ⟨_, _, text_obj fields, (by decide : kindOfLetter '\x7b' = some .obj)⟩

/-- No document begins with a closing bracket. -/
theorem text_open (hn : NumberTexts numberText) (v : JsonValue) :
    ∃ c rest, text numberText v = c :: rest ∧ c ≠ ']' := by
  obtain ⟨c, rest, htext, hkind⟩ := text_start hn v
  refine ⟨c, rest, htext, ?_⟩
  rintro rfl
  have hbracket : kindOfLetter ']' = none := by decide
  rw [hbracket] at hkind
  cases hkind

/-- A property begins with a quote. -/
theorem fieldText_open (field : String × JsonValue) :
    ∃ c rest, fieldText numberText field = c :: rest ∧ c ≠ '\x7d' := by
  have hquote := toList_quote field.1
  rw [fieldText, hquote]
  exact ⟨_, _, rfl, by decide⟩

/-- A property is read back when its value is. -/
theorem fieldText_readsBack (key : String) {value : JsonValue}
    (h : ReadsBack Ends (text numberText) value) :
    ReadsBack Ends (fieldText numberText) (key, value) := by
  have hkey : ReadsBack (fun _ => True) (fun key => (quote key).toList) (key, value).1 :=
    quote_readsBack key
  intro field s t hs ht heq
  rw [fieldText, fieldText] at heq
  exact pair_readsBack (fun _ => trivial) hkey h field s t hs ht heq

/-- Two documents that begin one text are of one kind. -/
theorem kind_eq (hn : NumberTexts numberText) {v w : JsonValue} {s t : List Char}
    (h : text numberText v ++ s = text numberText w ++ t) : kind v = kind w := by
  obtain ⟨c, rest, hv, hkind⟩ := text_start hn v
  obtain ⟨d, rest', hw, hkind'⟩ := text_start hn w
  rw [hv, hw] at h
  obtain rfl := (List.cons.inj h).1
  rw [hkind] at hkind'
  exact Option.some.inj hkind'

theorem null_readsBack (hn : NumberTexts numberText) :
    ReadsBack Ends (text numberText) .null := by
  intro w s t hs ht heq
  have hkind := kind_eq hn heq
  cases w with
  | null => exact ⟨rfl, List.append_cancel_left heq⟩
  | _ => cases hkind

theorem bool_readsBack (hn : NumberTexts numberText) (b : Bool) :
    ReadsBack Ends (text numberText) (.bool b) := by
  intro w s t hs ht heq
  have hkind := kind_eq hn heq
  cases w with
  | bool b' =>
      have hsame : b = b' := by
        cases b <;> cases b' <;> simp [text, stringify] at heq ⊢
      subst hsame
      exact ⟨rfl, List.append_cancel_left heq⟩
  | _ => cases hkind

theorem num_readsBack (hn : NumberTexts numberText) (n : Rat) :
    ReadsBack Ends (text numberText) (.num n) := by
  intro w s t hs ht heq
  have hkind := kind_eq hn heq
  cases w with
  | num n' =>
      obtain ⟨rfl, hst⟩ := number_readsBack hn n n' s t hs ht heq
      exact ⟨rfl, hst⟩
  | _ => cases hkind

theorem str_readsBack (hn : NumberTexts numberText) (a : String) :
    ReadsBack Ends (text numberText) (.str a) := by
  intro w s t hs ht heq
  have hkind := kind_eq hn heq
  cases w with
  | str b =>
      obtain ⟨rfl, hst⟩ := quote_readsBack a b s t trivial trivial heq
      exact ⟨rfl, hst⟩
  | _ => cases hkind

/-- An array is read back when its items are. -/
theorem arr_readsBack (hn : NumberTexts numberText) {items : List JsonValue}
    (h : ∀ item ∈ items, ReadsBack Ends (text numberText) item) :
    ReadsBack Ends (text numberText) (.arr items) := by
  intro w s t hs ht heq
  have hkind := kind_eq hn heq
  cases w with
  | arr items' =>
      rw [text_arr, text_arr] at heq
      simp only [List.cons_append, List.append_assoc, List.nil_append] at heq
      obtain ⟨rfl, hst⟩ := separated_readsBack
        (fun _ => ends_cons (by decide)) (fun _ => ends_cons (by decide)) (by decide)
        (text_open hn) items h items' s t (List.cons.inj heq).2
      exact ⟨rfl, hst⟩
  | _ => cases hkind

/-- An object is read back when its properties are. -/
theorem obj_readsBack (hn : NumberTexts numberText) {fields : List (String × JsonValue)}
    (h : ∀ field ∈ fields, ReadsBack Ends (fieldText numberText) field) :
    ReadsBack Ends (text numberText) (.obj fields) := by
  intro w s t hs ht heq
  have hkind := kind_eq hn heq
  cases w with
  | obj fields' =>
      rw [text_obj, text_obj] at heq
      simp only [List.cons_append, List.append_assoc, List.nil_append] at heq
      obtain ⟨rfl, hst⟩ := separated_readsBack
        (fun _ => ends_cons (by decide)) (fun _ => ends_cons (by decide)) (by decide)
        fieldText_open fields h fields' s t (List.cons.inj heq).2
      exact ⟨rfl, hst⟩
  | _ => cases hkind

mutual
/-- **DOCUMENTS**: a document is read back where one may end. -/
theorem text_readsBack (hn : NumberTexts numberText) (v : JsonValue) :
    ReadsBack Ends (text numberText) v := by
  cases v with
  | null => exact null_readsBack hn
  | bool b => exact bool_readsBack hn b
  | num n => exact num_readsBack hn n
  | str s => exact str_readsBack hn s
  | arr items => exact arr_readsBack hn (items_readBack hn items)
  | obj fields => exact obj_readsBack hn (fields_readBack hn fields)
/-- The items of an array. -/
theorem items_readBack (hn : NumberTexts numberText) (items : List JsonValue) :
    ∀ item ∈ items, ReadsBack Ends (text numberText) item := by
  cases items with
  | nil => exact fun item hitem => absurd hitem List.not_mem_nil
  | cons item rest =>
      exact List.forall_mem_cons.mpr ⟨text_readsBack hn item, items_readBack hn rest⟩
/-- The properties of an object. -/
theorem fields_readBack (hn : NumberTexts numberText) (fields : List (String × JsonValue)) :
    ∀ field ∈ fields, ReadsBack Ends (fieldText numberText) field := by
  cases fields with
  | nil => exact fun field hfield => absurd hfield List.not_mem_nil
  | cons field rest =>
      obtain ⟨key, value⟩ := field
      exact List.forall_mem_cons.mpr
        ⟨fieldText_readsBack key (text_readsBack hn value), fields_readBack hn rest⟩
end

/-- **INJECTIVE**: two documents with one text are one document. -/
theorem stringify_injective (hn : NumberTexts numberText) {v w : JsonValue}
    (h : stringify numberText v = stringify numberText w) : v = w := by
  have hends : Ends [] := fun c hc => by cases hc
  have htext : text numberText v ++ [] = text numberText w ++ [] := by
    rw [text, text, h]
  exact (text_readsBack hn v w [] [] hends hends htext).1

end CanonicalText
