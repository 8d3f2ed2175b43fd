import Mathlib.Data.List.Perm.Basic
import Mathlib.Data.Nat.Digits.Defs
import QrTrust.Lib.KeyedSort
import QrTrust.Network.CanonicalJsonProofs
import QrTrust.Network.CanonicalTextProofs
import QrTrust.Network.SignatureCoverageProofs

/-! # One value, one canonical text

    The canonical text puts the keys of each object in one order, as far as the
    comparison of keys tells them apart.  Keys that it ranks equal stay in the
    order they were added in, unless they are array indices, which an object
    enumerates by number (`canonicalJsonStringify_eq_iff`). -/

namespace CanonicalValue

open JsonValue SignatureVerification KeyedSort CanonicalJson

/-! ## Array indices -/

/-- The value of a digit. -/
def digitValue (c : Char) : Nat := c.toNat - 48

/-- The number that digits write, the last digit first. -/
theorem foldl_eq_ofDigits (digits : List Char) :
    digits.foldl (fun acc c => 10 * acc + (c.toNat - 48)) 0
      = Nat.ofDigits 10 (digits.reverse.map digitValue) := by
  rw [← List.foldr_reverse]
  induction digits.reverse with
  | nil => rfl
  | cons c rest ih =>
      rw [List.foldr_cons, ih, List.map_cons, Nat.ofDigits_cons, digitValue]
      omega

/-- What makes a text an array index. -/
theorem arrayIndex_eq_some {key : String} {n : Nat} (h : arrayIndex key = some n) :
    (key.toList ≠ [] ∧ (∀ c ∈ key.toList, 48 ≤ c.toNat ∧ c.toNat ≤ 57)
      ∧ (key.toList.head? ≠ some '0' ∨ key.toList.length = 1))
      ∧ Nat.ofDigits 10 (key.toList.reverse.map digitValue) = n := by
  rw [arrayIndex] at h
  split at h
  · rename_i hshape
    obtain ⟨hne, hdigits, hzero, -⟩ := hshape
    refine ⟨⟨hne, fun c hc => of_decide_eq_true (List.all_eq_true.mp hdigits c hc), hzero⟩, ?_⟩
    rw [← foldl_eq_ofDigits]
    exact Option.some.inj h
  · cases h

/-- Digits are told apart by their values. -/
theorem digitValue_inj {c d : Char} (hc : 48 ≤ c.toNat ∧ c.toNat ≤ 57)
    (hd : 48 ≤ d.toNat ∧ d.toNat ≤ 57) (h : digitValue c = digitValue d) : c = d := by
  rw [digitValue, digitValue] at h
  rw [← Char.ofNat_toNat c, ← Char.ofNat_toNat d]
  congr 1
  omega

/-- An index has the digits of its number, but for zero. -/
theorem digits_of_arrayIndex {key : String} {n : Nat} (h : arrayIndex key = some n) :
    key.toList.reverse.map digitValue = if n = 0 then [0] else Nat.digits 10 n := by
  obtain ⟨⟨hne, hdigits, hzero⟩, hvalue⟩ := arrayIndex_eq_some h
  obtain ⟨c, rest, hkey⟩ := List.exists_cons_of_ne_nil hne
  rw [hkey] at hdigits hzero hvalue ⊢
  rw [List.reverse_cons, List.map_append, List.map_singleton] at hvalue ⊢
  by_cases hc : c = '0'
  · -- a zero stands alone
    subst hc
    rcases hzero with hhead | hlength
    · exact absurd rfl hhead
    · obtain rfl := List.length_eq_zero_iff.mp (Nat.succ.inj hlength)
      have hn : n = 0 := hvalue.symm
      rw [if_pos hn]
      rfl
  · have hlast : digitValue c ≠ 0 := by
      intro hzero'
      refine hc (digitValue_inj (hdigits c (List.mem_cons_self ..)) (by decide) ?_)
      rw [hzero']
      rfl
    have hsmall : ∀ d ∈ rest.reverse.map digitValue ++ [digitValue c], d < 10 := by
      intro d hd
      rw [← List.map_singleton, ← List.map_append, ← List.reverse_cons] at hd
      obtain ⟨e, he, rfl⟩ := List.mem_map.mp hd
      have hbounds := hdigits e (List.mem_reverse.mp he)
      rw [digitValue]
      omega
    have hread := Nat.digits_ofDigits 10 (by decide) _ hsmall fun _ => by
      rw [List.getLast_append_singleton]
      exact hlast
    rw [hvalue] at hread
    rw [if_neg, hread]
    rintro rfl
    rw [Nat.digits_zero] at hread
    exact List.append_ne_nil_of_right_ne_nil _ (List.cons_ne_nil _ _) hread.symm

/-- Digits with one value each are one text. -/
theorem eq_of_map_digitValue {l l' : List Char}
    (hl : ∀ c ∈ l, 48 ≤ c.toNat ∧ c.toNat ≤ 57) (hl' : ∀ c ∈ l', 48 ≤ c.toNat ∧ c.toNat ≤ 57)
    (h : l.map digitValue = l'.map digitValue) : l = l' := by
  induction l generalizing l' with
  | nil => exact (List.map_eq_nil_iff.mp h.symm).symm
  | cons c l ih =>
      obtain ⟨d, rest, rfl, hvalue, hrest⟩ := List.map_eq_cons_iff.mp h.symm
      rw [List.forall_mem_cons] at hl hl'
      rw [digitValue_inj hl.1 hl'.1 hvalue.symm, ih hl.2 hl'.2 hrest.symm]

/-- **INDICES**: a number is the index of one key. -/
theorem arrayIndex_inj {a b : String} {n : Nat} (ha : arrayIndex a = some n)
    (hb : arrayIndex b = some n) : a = b := by
  have hsame := (digits_of_arrayIndex ha).trans (digits_of_arrayIndex hb).symm
  rw [List.map_reverse, List.map_reverse, List.reverse_inj] at hsame
  exact String.toList_inj.mp (eq_of_map_digitValue (arrayIndex_eq_some ha).1.2.1
    (arrayIndex_eq_some hb).1.2.1 hsame)

/-! ## The keys of an object -/

/-- The entry is not under an array index. -/
def plain (field : String × JsonValue) : Bool := (arrayIndex field.1).isNone

/-- **ENUMERATION**: two orders of the same entries make one object when the
    entries that are not under array indices come in one order. -/
theorem fromEntries_eq_iff {left right : List (String × JsonValue)}
    (hnodup : (left.map Prod.fst).Nodup) (hperm : left.Perm right) :
    fromEntries left = fromEntries right ↔ left.filter plain = right.filter plain := by
  have hindices :
      (left.filter fun field => (arrayIndex field.1).isSome).insertionSort
          (fun a b => (arrayIndex a.1).getD 0 ≤ (arrayIndex b.1).getD 0)
        = (right.filter fun field => (arrayIndex field.1).isSome).insertionSort
          (fun a b => (arrayIndex a.1).getD 0 ≤ (arrayIndex b.1).getD 0) := by
    have htotal : Std.Total fun a b : String × JsonValue =>
        (arrayIndex a.1).getD 0 ≤ (arrayIndex b.1).getD 0 := ⟨fun _ _ => Nat.le_total ..⟩
    have htrans : IsTrans (String × JsonValue) fun a b =>
        (arrayIndex a.1).getD 0 ≤ (arrayIndex b.1).getD 0 := ⟨fun _ _ _ => Nat.le_trans⟩
    refine List.Perm.eq_of_pairwise (fun a b ha hb hab hba => ?_)
      (List.pairwise_insertionSort _ _) (List.pairwise_insertionSort _ _)
      ((List.perm_insertionSort _ _).trans
        ((hperm.filter _).trans (List.perm_insertionSort _ _).symm))
    -- one number, so one key, so one entry
    rw [List.mem_insertionSort, List.mem_filter] at ha hb
    obtain ⟨n, hn⟩ := Option.isSome_iff_exists.mp ha.2
    obtain ⟨m, hm⟩ := Option.isSome_iff_exists.mp hb.2
    rw [hn, hm] at hab hba
    have hnumber : n = m := Nat.le_antisymm hab hba
    exact List.inj_on_of_nodup_map hnodup ha.1 (hperm.mem_iff.mpr hb.1)
      (arrayIndex_inj hn (hnumber ▸ hm))
  constructor
  · intro h
    have hfields := JsonValue.obj.inj h
    rw [hindices] at hfields
    exact List.append_cancel_left hfields
  · intro h
    rw [fromEntries, fromEntries, hindices]
    exact congrArg (fun rest => JsonValue.obj (_ ++ rest)) h

/-- Keys that the comparison ranks equal, and that are not array indices, come
    in one order. -/
def KeysInOrder (localeLess : String → String → Bool) (keys keys' : List String) : Prop :=
  ∀ a b, arrayIndex a = none → arrayIndex b = none →
    localeLess a b = false → localeLess b a = false →
    [a, b].Sublist keys → [a, b].Sublist keys'

variable {localeLess : String → String → Bool}

/-- Tied entries come in one order when their keys do. -/
theorem tiesAs_iff {left right : List (String × JsonValue)}
    (hnodup : (left.map Prod.fst).Nodup) (hperm : left.Perm right) :
    TiesAs localeLess plain left right
      ↔ KeysInOrder localeLess (left.map Prod.fst) (right.map Prod.fst) := by
  constructor
  · intro h a b ha hb hab hba hsub
    obtain ⟨pair, hpair, hkeys⟩ := List.sublist_map_iff.mp hsub
    obtain ⟨x, rest, rfl, rfl, hrest⟩ := List.map_eq_cons_iff.mp hkeys.symm
    obtain ⟨y, rest', rfl, rfl, hnil⟩ := List.map_eq_cons_iff.mp hrest
    obtain rfl := List.map_eq_nil_iff.mp hnil
    exact (h x y (by simp [plain, ha]) (by simp [plain, hb]) hab hba hpair).map Prod.fst
  · intro h x y hx hy hxy hyx hsub
    obtain ⟨pair, hpair, hkeys⟩ := List.sublist_map_iff.mp
      (h x.1 y.1 (Option.isNone_iff_eq_none.mp hx) (Option.isNone_iff_eq_none.mp hy) hxy hyx
        (hsub.map Prod.fst))
    obtain ⟨x', rest, rfl, hx', hrest⟩ := List.map_eq_cons_iff.mp hkeys.symm
    obtain ⟨y', rest', rfl, hy', hnil⟩ := List.map_eq_cons_iff.mp hrest
    obtain rfl := List.map_eq_nil_iff.mp hnil
    -- with distinct keys, the entries under the two keys are the two entries
    have hmem : ∀ z ∈ [x, y], z ∈ left := fun z hz => hsub.subset hz
    have hmem' : ∀ z ∈ [x', y'], z ∈ left := fun z hz => hperm.mem_iff.mpr (hpair.subset hz)
    have hxx : x' = x :=
      List.inj_on_of_nodup_map hnodup (hmem' x' (by simp)) (hmem x (by simp)) hx'
    have hyy : y' = y :=
      List.inj_on_of_nodup_map hnodup (hmem' y' (by simp)) (hmem y (by simp)) hy'
    rw [hxx, hyy] at hpair
    exact hpair

/-! ## One canonical form -/

mutual
/-- **EQUAL WITH TIES IN ORDER**: equal as JSON, and the tied keys of each object
    in one order. -/
inductive TieOrdered (localeLess : String → String → Bool) : JsonValue → JsonValue → Prop
  | null : TieOrdered localeLess null null
  | bool (b : Bool) : TieOrdered localeLess (bool b) (bool b)
  | num (n : Rat) : TieOrdered localeLess (num n) (num n)
  | str (s : String) : TieOrdered localeLess (str s) (str s)
  | arr {items others : List JsonValue} :
      TieOrderedItems localeLess items others → TieOrdered localeLess (arr items) (arr others)
  | obj {fields copies others : List (String × JsonValue)} :
      TieOrderedFields localeLess fields copies → copies.Perm others →
      KeysInOrder localeLess (fields.map Prod.fst) (others.map Prod.fst) →
      TieOrdered localeLess (obj fields) (obj others)
/-- Item by item. -/
inductive TieOrderedItems (localeLess : String → String → Bool) :
    List JsonValue → List JsonValue → Prop
  | nil : TieOrderedItems localeLess [] []
  | cons {item other : JsonValue} {rest others : List JsonValue} :
      TieOrdered localeLess item other → TieOrderedItems localeLess rest others →
      TieOrderedItems localeLess (item :: rest) (other :: others)
/-- Value by value, under the same keys. -/
inductive TieOrderedFields (localeLess : String → String → Bool) :
    List (String × JsonValue) → List (String × JsonValue) → Prop
  | nil : TieOrderedFields localeLess [] []
  | cons {key : String} {value other : JsonValue} {rest others : List (String × JsonValue)} :
      TieOrdered localeLess value other → TieOrderedFields localeLess rest others →
      TieOrderedFields localeLess ((key, value) :: rest) ((key, other) :: others)
end

mutual
/-- Values with their ties in order are equal as JSON. -/
theorem TieOrdered.storedAs {v w : JsonValue} (h : TieOrdered localeLess v w) :
    StoredAs v w := by
  cases h with
  | null => exact .null
  | bool b => exact .bool b
  | num n => exact .num n
  | str s => exact .str s
  | arr hitems => exact .arr hitems.storedItems
  | obj hfields hperm _ => exact .obj hfields.storedFields hperm
/-- Item by item. -/
theorem TieOrderedItems.storedItems {items others : List JsonValue}
    (h : TieOrderedItems localeLess items others) : StoredItems items others := by
  cases h with
  | nil => exact .nil
  | cons hitem hrest => exact .cons hitem.storedAs hrest.storedItems
/-- Value by value. -/
theorem TieOrderedFields.storedFields {fields others : List (String × JsonValue)}
    (h : TieOrderedFields localeLess fields others) : StoredFields fields others := by
  cases h with
  | nil => exact .nil
  | cons hvalue hrest => exact .cons hvalue.storedAs hrest.storedFields
end

/-- An object in canonical form: its entries, each canonical, sorted by key. -/
theorem canonicalizeForJson_obj (fields : List (String × JsonValue)) :
    canonicalizeForJson localeLess (.obj fields)
      = fromEntries (sortByKey localeLess (canonicalizeFields localeLess fields)) := by
  rw [canonicalizeForJson]
  rfl

theorem map_fst_canonicalizeFields (fields : List (String × JsonValue)) :
    (canonicalizeFields localeLess fields).map Prod.fst = fields.map Prod.fst := by
  rw [canonicalizeFields_eq, List.map_map]
  rfl

/-- **OBJECTS**: two objects have one canonical form when they have the same
    canonical entries and their tied keys come in one order. -/
theorem canonicalize_obj_eq_iff (hless : StrictWeak localeLess)
    {left right : List (String × JsonValue)} (hnodup : (left.map Prod.fst).Nodup) :
    canonicalizeForJson localeLess (.obj left) = canonicalizeForJson localeLess (.obj right)
      ↔ (canonicalizeFields localeLess left).Perm (canonicalizeFields localeLess right)
        ∧ KeysInOrder localeLess (left.map Prod.fst) (right.map Prod.fst) := by
  have hkeys : ((canonicalizeFields localeLess left).map Prod.fst).Nodup := by
    rw [map_fst_canonicalizeFields]
    exact hnodup
  have hsortedKeys :
      ((sortByKey localeLess (canonicalizeFields localeLess left)).map Prod.fst).Nodup :=
    ((perm_sortByKey _).map Prod.fst).nodup_iff.mpr hkeys
  -- what the equation says, once the entries are known to be the same
  have hties : (canonicalizeFields localeLess left).Perm (canonicalizeFields localeLess right) →
      (canonicalizeForJson localeLess (.obj left) = canonicalizeForJson localeLess (.obj right)
        ↔ KeysInOrder localeLess (left.map Prod.fst) (right.map Prod.fst)) := by
    intro hperm
    rw [canonicalizeForJson_obj, canonicalizeForJson_obj,
      fromEntries_eq_iff hsortedKeys
        ((perm_sortByKey _).trans (hperm.trans (perm_sortByKey _).symm)),
      hless.filter_sortByKey_eq_iff hkeys.of_map hperm, tiesAs_iff hkeys hperm,
      map_fst_canonicalizeFields, map_fst_canonicalizeFields]
  constructor
  · intro h
    have hperm :
        (canonicalizeFields localeLess left).Perm (canonicalizeFields localeLess right) := by
      rw [canonicalizeForJson_obj, canonicalizeForJson_obj] at h
      obtain ⟨entries, hentries, hleft⟩ :=
        exists_fromEntries (sortByKey localeLess (canonicalizeFields localeLess left))
      obtain ⟨entries', hentries', hright⟩ :=
        exists_fromEntries (sortByKey localeLess (canonicalizeFields localeLess right))
      rw [hentries, hentries'] at h
      obtain rfl := JsonValue.obj.inj h
      exact (perm_sortByKey _).symm.trans
        (hleft.symm.trans (hright.trans (perm_sortByKey _)))
    exact ⟨hperm, (hties hperm).mp h⟩
  · rintro ⟨hperm, horder⟩
    exact (hties hperm).mpr horder

mutual
/-- Values with their ties in order have one canonical form. -/
theorem canonicalize_eq_of_tieOrdered (hless : StrictWeak localeLess) {v w : JsonValue}
    (h : TieOrdered localeLess v w) (hdistinct : Distinct v) :
    canonicalizeForJson localeLess v = canonicalizeForJson localeLess w := by
  cases h with
  | null => rfl
  | bool b => rfl
  | num n => rfl
  | str s => rfl
  | arr hitems =>
      rw [canonicalizeForJson, canonicalizeForJson,
        canonicalizeItems_eq_of_tieOrdered hless hitems hdistinct]
  | obj hfields hperm horder =>
      refine (canonicalize_obj_eq_iff hless hdistinct.1).mpr ⟨?_, horder⟩
      rw [canonicalizeFields_eq_of_tieOrdered hless hfields hdistinct.2,
        canonicalizeFields_eq, canonicalizeFields_eq]
      exact hperm.map _
/-- Item by item. -/
theorem canonicalizeItems_eq_of_tieOrdered (hless : StrictWeak localeLess)
    {items others : List JsonValue} (h : TieOrderedItems localeLess items others)
    (hdistinct : DistinctItems items) :
    canonicalizeItems localeLess items = canonicalizeItems localeLess others := by
  cases h with
  | nil => rfl
  | cons hitem hrest =>
      rw [canonicalizeItems, canonicalizeItems,
        canonicalize_eq_of_tieOrdered hless hitem hdistinct.1,
        canonicalizeItems_eq_of_tieOrdered hless hrest hdistinct.2]
/-- Value by value. -/
theorem canonicalizeFields_eq_of_tieOrdered (hless : StrictWeak localeLess)
    {fields others : List (String × JsonValue)} (h : TieOrderedFields localeLess fields others)
    (hdistinct : DistinctFields fields) :
    canonicalizeFields localeLess fields = canonicalizeFields localeLess others := by
  cases h with
  | nil => rfl
  | cons hvalue hrest =>
      rw [canonicalizeFields, canonicalizeFields,
        canonicalize_eq_of_tieOrdered hless hvalue hdistinct.1,
        canonicalizeFields_eq_of_tieOrdered hless hrest hdistinct.2]
end

/-- An object stays an object in canonical form. -/
theorem exists_canonicalize_obj (fields : List (String × JsonValue)) :
    ∃ entries, canonicalizeForJson localeLess (.obj fields) = .obj entries := by
  rw [canonicalizeForJson_obj]
  exact ⟨_, rfl⟩

/-- The kind of a value is that of its canonical form. -/
theorem kind_canonicalizeForJson (v : JsonValue) :
    CanonicalText.kind (canonicalizeForJson localeLess v) = CanonicalText.kind v := by
  cases v with
  | obj fields =>
      obtain ⟨entries, hentries⟩ := @exists_canonicalize_obj localeLess fields
      rw [hentries]
      rfl
  | arr items =>
      rw [canonicalizeForJson]
      rfl
  | _ => rfl

/-- Entries whose images are those of others in some order have the images of
    the others, put in their own order. -/
theorem exists_perm_of_map_perm {α β : Type} {f : α → β} {left right : List α}
    (h : (left.map f).Perm (right.map f)) :
    ∃ copies : List α, left.map f = copies.map f ∧ copies.Perm right := by
  have himages : List.Forall₂ (fun b a => b = f a) (right.map f) right :=
    List.forall₂_map_left_iff.mpr (List.forall₂_same.mpr fun _ _ => rfl)
  obtain ⟨copies, hcopies, hperm⟩ := List.perm_comp_forall₂ h himages
  refine ⟨copies, ?_, hperm⟩
  rw [← List.forall₂_eq_eq_eq]
  exact List.forall₂_map_right_iff.mpr hcopies

mutual
/-- Values with one canonical form are equal as JSON, with their ties in order. -/
theorem tieOrdered_of_canonicalize_eq (hless : StrictWeak localeLess) (v : JsonValue)
    (hdistinct : Distinct v) :
    ∀ w, canonicalizeForJson localeLess v = canonicalizeForJson localeLess w →
      TieOrdered localeLess v w := by
  intro w h
  -- the two values are of one kind
  have hkind : CanonicalText.kind v = CanonicalText.kind w := by
    rw [← @kind_canonicalizeForJson localeLess v, h, kind_canonicalizeForJson]
  cases v with
  | null =>
      cases w with
      | null => exact .null
      | _ => cases hkind
  | bool b =>
      cases w with
      | bool b' =>
          obtain rfl := JsonValue.bool.inj h
          exact .bool b
      | _ => cases hkind
  | num n =>
      cases w with
      | num n' =>
          obtain rfl := JsonValue.num.inj h
          exact .num n
      | _ => cases hkind
  | str s =>
      cases w with
      | str s' =>
          obtain rfl := JsonValue.str.inj h
          exact .str s
      | _ => cases hkind
  | arr items =>
      cases w with
      | arr others =>
          rw [canonicalizeForJson, canonicalizeForJson] at h
          exact .arr (tieOrderedItems_of_canonicalize_eq hless items hdistinct others
            (JsonValue.arr.inj h))
      | _ => cases hkind
  | obj fields =>
      cases w with
      | obj others =>
          obtain ⟨hperm, horder⟩ := (canonicalize_obj_eq_iff hless hdistinct.1).mp h
          rw [canonicalizeFields_eq, canonicalizeFields_eq] at hperm
          obtain ⟨copies, hcopies, hothers⟩ := exists_perm_of_map_perm hperm
          rw [← canonicalizeFields_eq, ← canonicalizeFields_eq] at hcopies
          exact .obj (tieOrderedFields_of_canonicalize_eq hless fields hdistinct.2 copies hcopies)
            hothers horder
      | _ => cases hkind
/-- Item by item. -/
theorem tieOrderedItems_of_canonicalize_eq (hless : StrictWeak localeLess)
    (items : List JsonValue) (hdistinct : DistinctItems items) :
    ∀ others, canonicalizeItems localeLess items = canonicalizeItems localeLess others →
      TieOrderedItems localeLess items others := by
  intro others h
  cases items with
  | nil =>
      cases others with
      | nil => exact .nil
      | cons other rest => cases h
  | cons item items =>
      cases others with
      | nil => cases h
      | cons other others =>
          rw [canonicalizeItems, canonicalizeItems] at h
          obtain ⟨hitem, hrest⟩ := List.cons.inj h
          exact .cons (tieOrdered_of_canonicalize_eq hless item hdistinct.1 other hitem)
            (tieOrderedItems_of_canonicalize_eq hless items hdistinct.2 others hrest)
/-- Value by value. -/
theorem tieOrderedFields_of_canonicalize_eq (hless : StrictWeak localeLess)
    (fields : List (String × JsonValue)) (hdistinct : DistinctFields fields) :
    ∀ others, canonicalizeFields localeLess fields = canonicalizeFields localeLess others →
      TieOrderedFields localeLess fields others := by
  intro others h
  cases fields with
  | nil =>
      cases others with
      | nil => exact .nil
      | cons other rest => cases h
  | cons field fields =>
      obtain ⟨key, value⟩ := field
      cases others with
      | nil => cases h
      | cons other others =>
          obtain ⟨key', value'⟩ := other
          rw [canonicalizeFields, canonicalizeFields] at h
          obtain ⟨hfield, hrest⟩ := List.cons.inj h
          obtain ⟨rfl, hvalue⟩ := Prod.mk.inj hfield
          exact .cons (tieOrdered_of_canonicalize_eq hless value hdistinct.1 value' hvalue)
            (tieOrderedFields_of_canonicalize_eq hless fields hdistinct.2 others hrest)
end

/-! ## One canonical text -/

section Text

variable {host : SignatureHost}

/-- **ONE TEXT**: two values have one canonical text when they are equal as JSON
    with their ties in order, and only then. -/
theorem canonicalJsonStringify_eq_iff (hless : StrictWeak host.localeLess)
    (hn : CanonicalText.NumberTexts host.numberText) {v w : JsonValue} (hv : Distinct v) :
    canonicalJsonStringify host v = canonicalJsonStringify host w
      ↔ TieOrdered host.localeLess v w := by
  constructor
  · intro h
    exact tieOrdered_of_canonicalize_eq hless v hv w (CanonicalText.stringify_injective hn h)
  · intro h
    rw [canonicalJsonStringify, canonicalize_eq_of_tieOrdered hless h hv]
    rfl

/-- **CANONICAL**: for two values, one canonical text and equality as JSON are
    the same when equality puts the tied keys of each object in one order, and
    only then. -/
theorem canonical_iff (host : SignatureHost) (hless : StrictWeak host.localeLess)
    (hn : CanonicalText.NumberTexts host.numberText) (v w : JsonValue) (hv : Distinct v) :
    (canonicalJsonStringify host v = canonicalJsonStringify host w ↔ StoredAs v w)
      ↔ (StoredAs v w → TieOrdered host.localeLess v w) := by
  rw [canonicalJsonStringify_eq_iff hless hn hv]
  constructor
  · intro h hstored
    exact h.mpr hstored
  · intro h
    exact ⟨TieOrdered.storedAs, h⟩

/-- An object with two keys. -/
theorem distinct_pair {a b : String} {x y : JsonValue} (hne : a ≠ b) (hx : Distinct x)
    (hy : Distinct y) : Distinct (.obj [(a, x), (b, y)]) :=
  ⟨by simpa using hne, hx, hy, trivial⟩

/-- A comparison by code points, and an object with its keys in two orders. -/
theorem canonical_iff_version :
    (canonicalJsonStringify SignatureCoverage.markingHost
          (.obj [("version", .num 1), ("artifact_type", .str "issuer_record")])
        = canonicalJsonStringify SignatureCoverage.markingHost
          (.obj [("artifact_type", .str "issuer_record"), ("version", .num 1)])
      ↔ StoredAs (.obj [("version", .num 1), ("artifact_type", .str "issuer_record")])
          (.obj [("artifact_type", .str "issuer_record"), ("version", .num 1)])) := by
  refine (canonical_iff SignatureCoverage.markingHost strictTotal_lt.weak
    SignatureCoverage.marking_numberTexts _ _
    (@distinct_pair "version" "artifact_type" (.num 1) (.str "issuer_record") (by decide)
      trivial trivial)).mpr ?_
  intro hstored
  refine .obj (.cons (.num 1) (.cons (.str _) .nil)) (List.Perm.swap ..) ?_
  intro a b _ _ hab hba hsub
  -- the comparison tells all keys apart
  have heq : a = b :=
    le_antisymm (not_lt.mp (of_decide_eq_false hba)) (not_lt.mp (of_decide_eq_false hab))
  exact absurd heq (ne_of_sublist (by decide) hsub)

/-- Two tied keys in the one order and in the other. -/
theorem not_tieOrdered_swap {a b : String} (hne : a ≠ b) (ha : arrayIndex a = none)
    (hb : arrayIndex b = none) (hab : localeLess a b = false) (hba : localeLess b a = false)
    (x y : JsonValue) :
    StoredAs (.obj [(a, x), (b, y)]) (.obj [(b, y), (a, x)])
      ∧ ¬ TieOrdered localeLess (.obj [(a, x), (b, y)]) (.obj [(b, y), (a, x)]) := by
  constructor
  · exact .obj (StoredFields.refl _) (List.Perm.swap ..)
  · intro h
    cases h with
    | obj _ _ horder =>
        have hkeys : [b, a].Nodup := by simpa using Ne.symm hne
        exact not_sublist_of_sublist hkeys (List.Sublist.refl _)
          (horder a b ha hb hab hba (List.Sublist.refl _))

end Text

/-! ## A comparison that ranks no two keys equal -/

/-- The comparison ranks no two keys equal but array indices. -/
def RanksKeys (localeLess : String → String → Bool) : Prop :=
  ∀ a b, arrayIndex a = none → arrayIndex b = none → localeLess a b = false →
    localeLess b a = false → a = b

mutual
/-- With no ties, values that are equal as JSON have theirs in order. -/
theorem tieOrdered_of_storedAs (hranks : RanksKeys localeLess) {v w : JsonValue}
    (h : StoredAs v w) (hdistinct : Distinct v) : TieOrdered localeLess v w := by
  cases h with
  | null => exact .null
  | bool b => exact .bool b
  | num n => exact .num n
  | str s => exact .str s
  | arr hitems => exact .arr (tieOrderedItems_of_storedItems hranks hitems hdistinct)
  | obj hfields hperm =>
      refine .obj (tieOrderedFields_of_storedFields hranks hfields hdistinct.2) hperm ?_
      intro a b ha hb hab hba hsub
      exact absurd (hranks a b ha hb hab hba) (ne_of_sublist hdistinct.1 hsub)
/-- Item by item. -/
theorem tieOrderedItems_of_storedItems (hranks : RanksKeys localeLess)
    {items others : List JsonValue} (h : StoredItems items others)
    (hdistinct : DistinctItems items) : TieOrderedItems localeLess items others := by
  cases h with
  | nil => exact .nil
  | cons hitem hrest =>
      exact .cons (tieOrdered_of_storedAs hranks hitem hdistinct.1)
        (tieOrderedItems_of_storedItems hranks hrest hdistinct.2)
/-- Value by value. -/
theorem tieOrderedFields_of_storedFields (hranks : RanksKeys localeLess)
    {fields others : List (String × JsonValue)} (h : StoredFields fields others)
    (hdistinct : DistinctFields fields) : TieOrderedFields localeLess fields others := by
  cases h with
  | nil => exact .nil
  | cons hvalue hrest =>
      exact .cons (tieOrdered_of_storedAs hranks hvalue hdistinct.1)
        (tieOrderedFields_of_storedFields hranks hrest hdistinct.2)
end

/-- **EVERY VALUE**: the text is canonical for all values when the comparison
    ranks no two keys equal but array indices, and only then. -/
theorem canonical_all_iff {host : SignatureHost} (hless : StrictWeak host.localeLess)
    (hn : CanonicalText.NumberTexts host.numberText) :
    (∀ v w, Distinct v → Distinct w →
        (canonicalJsonStringify host v = canonicalJsonStringify host w ↔ StoredAs v w))
      ↔ RanksKeys host.localeLess := by
  constructor
  · intro h a b ha hb hab hba
    by_contra hne
    obtain ⟨hstored, hties⟩ := not_tieOrdered_swap hne ha hb hab hba null null
    have hleft := @distinct_pair a b null null hne trivial trivial
    have hright := @distinct_pair b a null null (Ne.symm hne) trivial trivial
    exact hties ((canonicalJsonStringify_eq_iff hless hn hleft).mp
      ((h _ _ hleft hright).mpr hstored))
  · intro hranks v w hv _
    rw [canonicalJsonStringify_eq_iff hless hn hv]
    exact ⟨TieOrdered.storedAs, fun hstored => tieOrdered_of_storedAs hranks hstored hv⟩

/-! ## A letter with its accent -/

/-- The letter with the accent as one character, where it was written as two. -/
def composeAccents : List Char → List Char
  | 'e' :: '\u0301' :: rest => 'é' :: composeAccents rest
  | c :: rest => c :: composeAccents rest
  | [] => []

/-- A host whose comparison, as that of the locale must, ranks two spellings of
    one letter equal. -/
def composingHost : SignatureHost :=
  { SignatureCoverage.markingHost with
    localeLess := fun a b => decide (composeAccents a.toList < composeAccents b.toList) }

theorem composingHost_localeLess : StrictWeak composingHost.localeLess where
  asymm hab := decide_eq_false (lt_asymm (of_decide_eq_true hab))
  not_above_trans hab hbc :=
    decide_eq_false (not_lt.mpr (le_trans (not_lt.mp (of_decide_eq_false hab))
      (not_lt.mp (of_decide_eq_false hbc))))

/-- An object with both spellings of a letter as keys, and its copy with the keys
    in the other order: equal as JSON, with two canonical texts. -/
theorem accents_in_two_orders :
    StoredAs (.obj [("é", .num 1), ("e\u0301", .num 2)])
        (.obj [("e\u0301", .num 2), ("é", .num 1)])
      ∧ ¬ (canonicalJsonStringify composingHost (.obj [("é", .num 1), ("e\u0301", .num 2)])
            = canonicalJsonStringify composingHost (.obj [("e\u0301", .num 2), ("é", .num 1)])
          ↔ StoredAs (.obj [("é", .num 1), ("e\u0301", .num 2)])
            (.obj [("e\u0301", .num 2), ("é", .num 1)])) := by
  obtain ⟨hstored, hties⟩ := @not_tieOrdered_swap composingHost.localeLess "é" "e\u0301"
    (by decide) (by decide) (by decide) (by decide) (by decide) (.num 1) (.num 2)
  refine ⟨hstored, fun h => hties ?_⟩
  exact (canonicalJsonStringify_eq_iff composingHost_localeLess
    SignatureCoverage.marking_numberTexts
    (@distinct_pair "é" "e\u0301" (.num 1) (.num 2) (by decide) trivial trivial)).mp
      (h.mpr hstored)

/-- Ranking two spellings of a letter equal, the host has values that are equal as
    JSON but not in their text, or the other way round. -/
theorem canonical_all_iff_accents :
    ¬ ∀ v w, Distinct v → Distinct w →
        (canonicalJsonStringify composingHost v = canonicalJsonStringify composingHost w
          ↔ StoredAs v w) := by
  intro hall
  have hranks := (canonical_all_iff composingHost_localeLess
    SignatureCoverage.marking_numberTexts).mp hall
  have hsame : "é" = "e\u0301" := hranks _ _ (by decide) (by decide) (by decide) (by decide)
  exact absurd hsame (by decide)

end CanonicalValue
