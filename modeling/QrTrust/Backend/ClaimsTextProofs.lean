import QrTrust.Backend.SignedSchema
import QrTrust.Lib.PrefixCode

/-! # One text, one set of claims

    `json.dumps(…, ensure_ascii=True)` escapes each character by itself, and no
    escape is the start of another; so the canonical text of the claims is read
    back before whatever follows it (`canonicalizeClaims_readsBack`), and what an
    envelope id is taken of tells the claims and the signature apart. -/

namespace SignedSchema

open PrefixCode PyString JsString

/-! ## Hexadecimal -/

theorem hexDigit_injective {m n : Nat} (hm : m < 16) (hn : n < 16)
    (h : hexDigit m = hexDigit n) : m = n := by
  have hall : ∀ a b : Fin 16, hexDigit a = hexDigit b → a = b := by decide
  exact congrArg Fin.val (hall ⟨m, hm⟩ ⟨n, hn⟩ h)

/-- **UNITS**: a code unit is read off its escape. -/
theorem unicodeEscape_injective {m n : Nat} (hm : m < 65536) (hn : n < 65536)
    (h : unicodeEscape m = unicodeEscape n) : m = n := by
  simp only [unicodeEscape, List.cons.injEq, true_and, and_true] at h
  obtain ⟨h₁, h₂, h₃, h₄⟩ := h
  have d₁ := hexDigit_injective (Nat.mod_lt _ (by decide)) (Nat.mod_lt _ (by decide)) h₁
  have d₂ := hexDigit_injective (Nat.mod_lt _ (by decide)) (Nat.mod_lt _ (by decide)) h₂
  have d₃ := hexDigit_injective (Nat.mod_lt _ (by decide)) (Nat.mod_lt _ (by decide)) h₃
  have d₄ := hexDigit_injective (Nat.mod_lt _ (by decide)) (Nat.mod_lt _ (by decide)) h₄
  omega

theorem char_valid (c : Char) : c.toNat < 0xd800 ∨ 0xdfff < c.toNat ∧ c.toNat < 0x110000 := c.valid

/-- The code units of a character: itself, or a pair of surrogates. -/
theorem codeUnits_cases (c : Char) :
    (codeUnits c = [c.toNat] ∧ c.toNat < 0x10000)
      ∨ ∃ high low, codeUnits c = [0xd800 + high, 0xdc00 + low] ∧ high < 0x400 ∧ low < 0x400
        ∧ c.toNat = 0x10000 + 0x400 * high + low := by
  by_cases hsmall : c.toNat < 0x10000
  · exact .inl ⟨by rw [codeUnits, if_pos hsmall], hsmall⟩
  · have hvalid := char_valid c
    refine .inr ⟨(c.toNat - 0x10000) / 0x400, (c.toNat - 0x10000) % 0x400, ?_, ?_, ?_, ?_⟩
    · rw [codeUnits, if_neg hsmall]
    · omega
    · omega
    · omega

theorem length_unicodeEscape (n : Nat) : (unicodeEscape n).length = 6 := rfl

/-- A first escape is read off, the rest is a prefix of the rest. -/
theorem unicodeEscape_start {m n : Nat} {s t : List Char} (hm : m < 65536) (hn : n < 65536)
    (h : unicodeEscape m ++ s <+: unicodeEscape n ++ t) : m = n ∧ s <+: t := by
  obtain ⟨rest, h⟩ := h
  rw [List.append_assoc] at h
  obtain ⟨hunit, htail⟩ := List.append_inj h rfl
  exact ⟨unicodeEscape_injective hm hn hunit, rest, htail⟩

/-- **WIDE CHARACTERS**: the escapes of the code units of a character start those of
    no other. -/
theorem codeUnits_prefixFree : PrefixFree fun c => (codeUnits c).flatMap unicodeEscape := by
  intro a b h
  dsimp only at h
  rcases codeUnits_cases a with ⟨ha, hsmall⟩ | ⟨high, low, ha, hhigh, hlow, hvalue⟩
  · rcases codeUnits_cases b with ⟨hb, hsmall'⟩ | ⟨high', low', hb, hhigh', hlow', -⟩
    · rw [ha, hb, List.flatMap_cons, List.flatMap_cons] at h
      exact Char.toNat_inj.mp (unicodeEscape_start hsmall hsmall' h).1
    · -- a character is no surrogate
      rw [ha, hb, List.flatMap_cons, List.flatMap_cons] at h
      have hsame := (unicodeEscape_start hsmall (by omega) h).1
      have hvalid := char_valid a
      omega
  · rcases codeUnits_cases b with ⟨hb, hsmall'⟩ | ⟨high', low', hb, hhigh', hlow', hvalue'⟩
    · rw [ha, hb, List.flatMap_cons, List.flatMap_cons] at h
      have hnil := (unicodeEscape_start (by omega) hsmall' h).2.length_le
      simp [length_unicodeEscape] at hnil
    · rw [ha, hb, List.flatMap_cons, List.flatMap_cons, List.flatMap_cons, List.flatMap_cons] at h
      obtain ⟨hfirst, hrest⟩ := unicodeEscape_start (by omega) (by omega) h
      have hsecond := (unicodeEscape_start (by omega) (by omega) hrest).1
      exact Char.toNat_inj.mp (by omega)

/-! ## Strings -/

/-- The characters with an escape of their own. -/
def shortEscaped : List Char :=
  ['\x22', '\x5c', '\n', '\r', '\t', Char.ofNat 8, Char.ofNat 12]

/-- The ways a character is written. -/
theorem jsonEscape_cases (c : Char) :
    c ∈ shortEscaped ∨ (c ≠ '\x22' ∧ c ≠ '\x5c' ∧ jsonEscape c = [c])
      ∨ jsonEscape c = (codeUnits c).flatMap unicodeEscape := by
  by_cases hshort : c ∈ shortEscaped
  · exact .inl hshort
  · simp only [shortEscaped, List.mem_cons, List.not_mem_nil, or_false, not_or] at hshort
    obtain ⟨h₁, h₂, h₃, h₄, h₅, h₆, h₇⟩ := hshort
    have h₆' : c.toNat ≠ 8 := fun h => h₆ (by rw [← Char.ofNat_toNat c, h])
    have h₇' : c.toNat ≠ 12 := fun h => h₇ (by rw [← Char.ofNat_toNat c, h])
    rw [jsonEscape, if_neg h₁, if_neg h₂, if_neg h₃, if_neg h₄, if_neg h₅, if_neg h₆', if_neg h₇']
    split
    · exact .inr (.inl ⟨h₁, h₂, rfl⟩)
    · exact .inr (.inr rfl)

theorem jsonEscape_short {c : Char} (h : c ∈ shortEscaped) :
    ∃ d, jsonEscape c = ['\x5c', d] ∧ d ≠ 'u' := by
  have hshape : shortEscaped.all (fun c => jsonEscape c = ['\x5c', (jsonEscape c).getLastD 'u']
      ∧ (jsonEscape c).getLastD 'u' ≠ 'u') = true := by decide +kernel
  obtain ⟨hescape, hne⟩ := of_decide_eq_true (List.all_eq_true.mp hshape c h)
  exact ⟨_, hescape, hne⟩

theorem jsonEscape_wide {c : Char} (h : jsonEscape c = (codeUnits c).flatMap unicodeEscape) :
    ∃ rest, jsonEscape c = '\x5c' :: 'u' :: rest ∧ 2 ≤ rest.length := by
  rw [h]
  rcases codeUnits_cases c with ⟨hunits, -⟩ | ⟨high, low, hunits, -⟩
  · rw [hunits]
    exact ⟨_, rfl, by simp⟩
  · rw [hunits]
    exact ⟨_, rfl, by simp [unicodeEscape]⟩

/-- **ESCAPES**: no escape is the start of another. -/
theorem jsonEscape_prefixFree : PrefixFree jsonEscape := by
  have hescapes : shortEscaped.all (fun a => shortEscaped.all fun b =>
      jsonEscape a <+: jsonEscape b → a = b) = true := by decide +kernel
  intro a b hprefix
  rcases jsonEscape_cases a with ha | ⟨-, hbackslash, ha⟩ | ha
  · obtain ⟨d, hshort, hd⟩ := jsonEscape_short ha
    rcases jsonEscape_cases b with hb | ⟨-, -, hb⟩ | hb
    · exact of_decide_eq_true
        (List.all_eq_true.mp (List.all_eq_true.mp hescapes a ha) b hb) hprefix
    · have hlength := hprefix.length_le
      rw [hshort, hb] at hlength
      simp at hlength
    · obtain ⟨rest, hwide, -⟩ := jsonEscape_wide hb
      rw [hshort, hwide] at hprefix
      exact absurd (List.cons_prefix_cons.mp (List.cons_prefix_cons.mp hprefix).2).1 hd
  · rw [ha] at hprefix
    rcases jsonEscape_cases b with hb | ⟨-, -, hb⟩ | hb
    · obtain ⟨d, hshort, -⟩ := jsonEscape_short hb
      rw [hshort] at hprefix
      exact absurd (List.cons_prefix_cons.mp hprefix).1 hbackslash
    · rw [hb] at hprefix
      exact (List.cons_prefix_cons.mp hprefix).1
    · obtain ⟨rest, hwide, -⟩ := jsonEscape_wide hb
      rw [hwide] at hprefix
      exact absurd (List.cons_prefix_cons.mp hprefix).1 hbackslash
  · obtain ⟨rest, hwide, hlong⟩ := jsonEscape_wide ha
    rcases jsonEscape_cases b with hb | ⟨-, -, hb⟩ | hb
    · obtain ⟨d, hshort, -⟩ := jsonEscape_short hb
      have hlength := hprefix.length_le
      rw [hwide, hshort] at hlength
      simp only [List.length_cons, List.length_nil] at hlength
      omega
    · have hlength := hprefix.length_le
      rw [hwide, hb] at hlength
      simp at hlength
    · rw [ha, hb] at hprefix
      exact codeUnits_prefixFree a b hprefix

/-- No escape begins with a quote. -/
theorem jsonEscape_start (c : Char) : ∃ d rest, jsonEscape c = d :: rest ∧ d ≠ '\x22' := by
  rcases jsonEscape_cases c with hc | ⟨hquote, -, hc⟩ | hc
  · obtain ⟨d, hshort, -⟩ := jsonEscape_short hc
    exact ⟨_, _, hshort, by decide⟩
  · exact ⟨c, [], hc, hquote⟩
  · obtain ⟨rest, hwide, -⟩ := jsonEscape_wide hc
    exact ⟨_, _, hwide, by decide⟩

theorem toList_jsonString (s : String) :
    (jsonString s).toList = '\x22' :: (s.toList.flatMap jsonEscape ++ ['\x22']) := by
  simp [jsonString]

/-- A JSON string is read back before any text. -/
theorem jsonString_readsBack {s s' : String} {rest rest' : List Char}
    (h : (jsonString s).toList ++ rest = (jsonString s').toList ++ rest') :
    s = s' ∧ rest = rest' := by
  rw [toList_jsonString, toList_jsonString] at h
  simp only [List.cons_append, List.append_assoc, List.cons.injEq, true_and,
    List.nil_append] at h
  obtain ⟨hchars, hrest⟩ :=
    flatMap_readsBack jsonEscape_prefixFree jsonEscape_start s.toList s'.toList rest rest' h
  exact ⟨String.toList_inj.mp hchars, hrest⟩

/-- So is a string that may be null. -/
theorem jsonStringOrNull_readsBack {s s' : Option String} {rest rest' : List Char}
    (h : ((s.map jsonString).getD "null").toList ++ rest
      = ((s'.map jsonString).getD "null").toList ++ rest') : s = s' ∧ rest = rest' := by
  have hstart : ∀ (text : String) (front back : List Char),
      (jsonString text).toList ++ front ≠ "null".toList ++ back := by
    intro text front back heq
    rw [toList_jsonString] at heq
    exact absurd (List.cons.inj heq).1 (by decide)
  cases s with
  | none =>
      cases s' with
      | none => exact ⟨rfl, List.append_cancel_left h⟩
      | some text => exact absurd h.symm (hstart text rest' rest)
  | some text =>
      cases s' with
      | none => exact absurd h (hstart text rest rest')
      | some text' =>
          obtain ⟨rfl, hrest⟩ := jsonString_readsBack h
          exact ⟨rfl, hrest⟩

/-! ## Claims -/

/-- The characters of the canonical text. -/
theorem toList_canonicalizeClaims (claims : SignedQRCodeClaims) :
    (canonicalizeClaims claims).toList
      = '\x7b' :: ((jsonString "version").toList ++ ':' :: ((jsonString claims.version).toList
        ++ ',' :: ((jsonString "certificate_ref").toList
        ++ ':' :: ((jsonString claims.certificateRef).toList
        ++ ',' :: ((jsonString "issued_at").toList ++ ':' :: ((jsonString claims.issuedAt).toList
        ++ ',' :: ((jsonString "expires_at").toList
        ++ ':' :: (((claims.expiresAt.map jsonString).getD "null").toList
        ++ ',' :: ((jsonString "payload").toList ++ ':' :: ((jsonString claims.payload).toList
        ++ ['\x7d'])))))))))) := by
  simp [canonicalizeClaims, PyString.join, List.intersperse]

/-- **CLAIMS**: the canonical text of the claims is read back before any text. -/
theorem canonicalizeClaims_readsBack {claims claims' : SignedQRCodeClaims}
    {rest rest' : List Char}
    (h : (canonicalizeClaims claims).toList ++ rest = (canonicalizeClaims claims').toList ++ rest') :
    claims = claims' ∧ rest = rest' := by
  rw [toList_canonicalizeClaims, toList_canonicalizeClaims] at h
  simp only [List.cons_append, List.append_assoc, List.cons.injEq, true_and] at h
  have h := (List.cons.inj (List.append_cancel_left h)).2
  obtain ⟨hversion, h⟩ := jsonString_readsBack h
  have h := (List.cons.inj (List.append_cancel_left (List.cons.inj h).2)).2
  obtain ⟨hcertificateRef, h⟩ := jsonString_readsBack h
  have h := (List.cons.inj (List.append_cancel_left (List.cons.inj h).2)).2
  obtain ⟨hissuedAt, h⟩ := jsonString_readsBack h
  have h := (List.cons.inj (List.append_cancel_left (List.cons.inj h).2)).2
  obtain ⟨hexpiresAt, h⟩ := jsonStringOrNull_readsBack h
  have h := (List.cons.inj (List.append_cancel_left (List.cons.inj h).2)).2
  obtain ⟨hpayload, h⟩ := jsonString_readsBack h
  refine ⟨?_, (List.cons.inj h).2⟩
  cases claims
  cases claims'
  simp_all

/-- What an envelope id is taken of. -/
def envelopeMaterial (claims : SignedQRCodeClaims) (signature : String) : String :=
  canonicalizeClaims claims ++ "." ++ signature

/-- **MATERIAL**: it tells the claims and the signature apart. -/
theorem envelopeMaterial_injective {claims claims' : SignedQRCodeClaims}
    {signature signature' : String}
    (h : envelopeMaterial claims signature = envelopeMaterial claims' signature') :
    claims = claims' ∧ signature = signature' := by
  have hlist := congrArg String.toList h
  simp only [envelopeMaterial, String.toList_append, List.append_assoc] at hlist
  obtain ⟨hclaims, hrest⟩ := canonicalizeClaims_readsBack hlist
  exact ⟨hclaims, String.toList_inj.mp (List.append_cancel_left hrest)⟩

end SignedSchema
