import Mathlib.Data.List.DropRight
import QrTrust.Network.Json

/-! # Strings of the host language, as lists of characters

    What trimming, dropping a trailing dot and suffix tests do to each other,
    and the ASCII case mapping as one instance of the host's. -/

namespace JsString

variable {s t suffix : String}

theorem endsWith_iff : endsWith s suffix = true ↔ suffix.toList <:+ s.toList := by
  rw [endsWith, List.isSuffixOf_iff_suffix]

/-- A text without white space at all. -/
def NoSpace (s : String) : Prop := ∀ c ∈ s.toList, isSpace c = false

/-- Trimming a text without white space changes nothing. -/
theorem trim_of_noSpace (h : NoSpace s) : trim s = s := by
  have hdrop : ∀ cs : List Char, (∀ c ∈ cs, isSpace c = false) → cs.dropWhile isSpace = cs := by
    intro cs hcs
    cases cs with
    | nil => rfl
    | cons c rest =>
        rw [List.dropWhile_cons, hcs c (List.mem_cons_self ..)]
        rfl
  rw [trim, hdrop s.toList h,
    hdrop s.toList.reverse fun c hc => h c (List.mem_reverse.mp hc), List.reverse_reverse,
    String.ofList_toList]

/-- What trimming leaves has no white space at either end. -/
theorem trim_trim (s : String) : trim (trim s) = trim s := by
  have htrim : ∀ s : String, (trim s).toList = (s.toList.dropWhile isSpace).rdropWhile isSpace := by
    intro s
    rw [trim, String.toList_ofList]
    rfl
  -- the first character that stays at the front also stays once the end is cut
  have hfront : ((s.toList.dropWhile isSpace).rdropWhile isSpace).dropWhile isSpace
      = (s.toList.dropWhile isSpace).rdropWhile isSpace := by
    rw [List.dropWhile_eq_self_iff]
    intro hpos
    have hcut := List.rdropWhile_prefix isSpace (s.toList.dropWhile isSpace)
    rw [hcut.getElem hpos]
    exact List.dropWhile_get_zero_not isSpace s.toList (lt_of_lt_of_le hpos hcut.length_le)
  apply String.toList_inj.mp
  rw [htrim (trim s), htrim s, hfront, List.rdropWhile_idempotent]

theorem NoSpace.of_suffix (h : NoSpace s) (hsuffix : t.toList <:+ s.toList) : NoSpace t :=
  fun c hc => h c (hsuffix.subset hc)

/-! ## The trailing dot -/

theorem toList_dropTrailingDot (s : String) :
    (dropTrailingDot s).toList
      = if ['.'] <:+ s.toList then s.toList.dropLast else s.toList := by
  have hdot : endsWith s "." = true ↔ ['.'] <:+ s.toList := endsWith_iff
  rw [dropTrailingDot]
  by_cases h : ['.'] <:+ s.toList
  · rw [if_pos (hdot.mpr h), if_pos h, String.toList_ofList]
  · rw [if_neg (fun he => h (hdot.mp he)), if_neg h]

/-- Two texts that end in the same character lose their trailing dot together. -/
theorem dropTrailingDot_suffix {before : List Char}
    (h : s.toList = before ++ t.toList) (hne : t.toList ≠ []) :
    (dropTrailingDot s).toList = before ++ (dropTrailingDot t).toList := by
  have hlast : ['.'] <:+ s.toList ↔ ['.'] <:+ t.toList := by
    constructor
    · intro hs
      rw [h] at hs
      obtain ⟨front, hfront⟩ := hs
      have heq : t.toList.getLast hne = '.' := by
        have := congrArg List.getLast? hfront
        rw [List.getLast?_append_of_ne_nil _ hne, List.getLast?_append_of_ne_nil _ (by simp),
          List.getLast?_eq_getLast_of_ne_nil hne] at this
        exact (Option.some.inj this).symm
      exact ⟨t.toList.dropLast, by rw [← heq, List.dropLast_append_getLast hne]⟩
    · intro ht
      rw [h]
      exact ht.trans (List.suffix_append ..)
  rw [toList_dropTrailingDot, toList_dropTrailingDot]
  by_cases ht : ['.'] <:+ t.toList
  · rw [if_pos ht, if_pos (hlast.mpr ht), h, List.dropLast_append_of_ne_nil hne]
  · rw [if_neg ht, if_neg (fun hs => ht (hlast.mp hs)), h]

/-! ## The ASCII case mapping -/

/-- Lower case, ASCII letters only. -/
def asciiLowerCase (s : String) : String := String.ofList (s.toList.map Char.toLower)

/-- Lower-casing an ASCII letter adds 32 to its code. -/
theorem toNat_toLower (c : Char) :
    c.toLower.toNat = if 65 ≤ c.toNat ∧ c.toNat ≤ 90 then c.toNat + 32 else c.toNat := by
  by_cases h : 65 ≤ c.toNat ∧ c.toNat ≤ 90
  · rw [if_pos h]
    have hdef : c.toLower.val = c.val + ('a'.val - 'A'.val) :=
      congrArg Char.val (dif_pos (⟨h.1, h.2⟩ : c.val ≥ 'A'.val ∧ c.val ≤ 'Z'.val))
    show c.toLower.val.toNat = c.val.toNat + 32
    rw [hdef, UInt32.toNat_add]
    show (c.val.toNat + 32) % 4294967296 = c.val.toNat + 32
    have hle : c.val.toNat ≤ 90 := h.2
    omega
  · rw [if_neg h]
    have hdef : c.toLower = c :=
      dif_neg (fun hv : c.val ≥ 'A'.val ∧ c.val ≤ 'Z'.val => h ⟨hv.1, hv.2⟩)
    rw [hdef]

/-- No white space stands among the ASCII letters. -/
theorem isSpace_of_letter {c : Char} (h : 65 ≤ c.toNat ∧ c.toNat ≤ 122) : isSpace c = false := by
  have hcodes : ∀ n ∈ [9, 10, 11, 12, 13, 32, 160, 5760, 8192, 8193, 8194, 8195, 8196, 8197,
      8198, 8199, 8200, 8201, 8202, 8232, 8233, 8239, 8287, 12288, 65279], n < 65 ∨ 122 < n := by
    decide
  apply decide_eq_false
  intro hmem
  have hbound := hcodes c.toNat hmem
  omega

theorem isSpace_toLower (c : Char) : isSpace c.toLower = isSpace c := by
  by_cases h : 65 ≤ c.toNat ∧ c.toNat ≤ 90
  · have hlower : c.toLower.toNat = c.toNat + 32 := by rw [toNat_toLower, if_pos h]
    rw [isSpace_of_letter (by omega), isSpace_of_letter (by omega)]
  · rw [isSpace, isSpace, toNat_toLower, if_neg h]

theorem toLower_eq_dot_iff (c : Char) : c.toLower = '.' ↔ c = '.' := by
  have hdot : ∀ d : Char, d = '.' ↔ d.toNat = 46 := by
    intro d
    constructor
    · rintro rfl; rfl
    · intro hd
      exact Char.toNat_inj.mp hd
  rw [hdot, hdot, toNat_toLower]
  split <;> omega

theorem dropWhile_map_toLower (cs : List Char) :
    (cs.map Char.toLower).dropWhile isSpace = (cs.dropWhile isSpace).map Char.toLower := by
  induction cs with
  | nil => rfl
  | cons c rest ih =>
      rw [List.map_cons, List.dropWhile_cons, List.dropWhile_cons, isSpace_toLower]
      by_cases hc : isSpace c = true
      · rw [if_pos hc, if_pos hc]; exact ih
      · rw [if_neg hc, if_neg hc, List.map_cons]

/-- The ASCII mapping commutes with trimming. -/
theorem asciiLowerCase_trim (s : String) : asciiLowerCase (trim s) = trim (asciiLowerCase s) := by
  simp only [asciiLowerCase, trim, String.toList_ofList, dropWhile_map_toLower, ← List.map_reverse]

/-- The ASCII mapping commutes with dropping a trailing dot. -/
theorem asciiLowerCase_dropTrailingDot (s : String) :
    asciiLowerCase (dropTrailingDot s) = dropTrailingDot (asciiLowerCase s) := by
  have hlast : ['.'] <:+ s.toList.map Char.toLower ↔ ['.'] <:+ s.toList := by
    constructor
    · rintro ⟨front, hfront⟩
      obtain ⟨front', last', hs, -, hlast⟩ := List.append_eq_map_iff.mp hfront
      obtain ⟨c, rest, rfl, hc, hrest⟩ := List.map_eq_cons_iff.mp hlast
      obtain rfl := List.map_eq_nil_iff.mp hrest
      rw [(toLower_eq_dot_iff c).mp hc] at hs
      exact ⟨front', hs.symm⟩
    · rintro ⟨front, hfront⟩
      exact ⟨front.map Char.toLower, by rw [← hfront, List.map_append]; rfl⟩
  apply String.toList_inj.mp
  rw [toList_dropTrailingDot]
  simp only [asciiLowerCase, String.toList_ofList, toList_dropTrailingDot, hlast]
  split
  · rw [List.map_dropLast]
  · rfl

end JsString
