import QrTrust.Lib.KeyedSort
import QrTrust.Network.StoredJson
import QrTrust.Network.SignatureVerification

/-! # What a signature covers

    The signed text of a body is the canonical text of what is left of it
    without the signature fields.  Under a strict total order of the keys that
    text depends on the values under the other keys and on nothing else: not on
    the order of the keys at any depth, and not on what stands in a signature
    field (`signedForm_eq_of_prop`, `signedForm_stored`). -/

namespace CanonicalJson

open JsonValue SignatureVerification KeyedSort

variable {localeLess : String → String → Bool}

/-! ## The walks over lists are maps -/

theorem stripItems_eq (items : List JsonValue) :
    stripItems items = items.map stripSignatureMetadata := by
  induction items with
  | nil => rfl
  | cons item rest ih => rw [stripItems, List.map_cons, ih]

theorem stripFields_eq (fields : List (String × JsonValue)) :
    stripFields fields
      = (fields.filter fun field => !isSignatureMetadata field.1).map fun field =>
          (field.1, stripSignatureMetadata field.2) := by
  induction fields with
  | nil => rfl
  | cons field rest ih =>
      rw [stripFields, List.filter_cons]
      cases hmeta : isSignatureMetadata field.1 with
      | true => exact ih
      | false =>
          show _ :: stripFields rest = _
          rw [ih]
          rfl

theorem canonicalizeItems_eq (items : List JsonValue) :
    canonicalizeItems localeLess items = items.map (canonicalizeForJson localeLess) := by
  induction items with
  | nil => rfl
  | cons item rest ih => rw [canonicalizeItems, List.map_cons, ih]

theorem canonicalizeFields_eq (fields : List (String × JsonValue)) :
    canonicalizeFields localeLess fields
      = fields.map fun field => (field.1, canonicalizeForJson localeLess field.2) := by
  induction fields with
  | nil => rfl
  | cons field rest ih => rw [canonicalizeFields, List.map_cons, ih]

/-- `Object.fromEntries` only reorders the entries. -/
theorem exists_fromEntries (fields : List (String × JsonValue)) :
    ∃ entries, fromEntries fields = .obj entries ∧ entries.Perm fields := by
  refine ⟨_, rfl, ?_⟩
  have hnone : (fields.filter fun field => (arrayIndex field.1).isNone)
      = fields.filter fun field => !(arrayIndex field.1).isSome := by
    refine List.filter_congr fun field _ => ?_
    rw [Option.not_isSome]
  rw [hnone]
  exact ((List.perm_insertionSort _ _).append_right _).trans (List.filter_append_perm _ fields)

/-! ## The signed form -/

/-- The document a signature covers, in canonical form. -/
def signedForm (localeLess : String → String → Bool) (v : JsonValue) : JsonValue :=
  canonicalizeForJson localeLess (stripSignatureMetadata v)

/-- The entries of an object that a signature covers, each in its signed form. -/
def signedEntries (localeLess : String → String → Bool) (fields : List (String × JsonValue)) :
    List (String × JsonValue) :=
  (fields.filter fun field => !isSignatureMetadata field.1).map fun field =>
    (field.1, signedForm localeLess field.2)

theorem signedEntries_cons (key : String) (value : JsonValue)
    (rest : List (String × JsonValue)) :
    signedEntries localeLess ((key, value) :: rest)
      = if isSignatureMetadata key then signedEntries localeLess rest
        else (key, signedForm localeLess value) :: signedEntries localeLess rest := by
  rw [signedEntries, List.filter_cons]
  cases hmeta : isSignatureMetadata key with
  | true => rfl
  | false => rfl

theorem trustSignaturePayload_eq (host : SignatureHost) (v : JsonValue) :
    trustSignaturePayload host v = stringify host.numberText (signedForm host.localeLess v) := rfl

theorem nodup_signedEntries {fields : List (String × JsonValue)}
    (h : (fields.map Prod.fst).Nodup) :
    ((signedEntries localeLess fields).map Prod.fst).Nodup := by
  rw [signedEntries, List.map_map]
  exact h.sublist (List.filter_sublist.map Prod.fst)

/-- An object in its signed form: its covered entries in some order, which is sorted. -/
theorem exists_signedForm_obj (localeLess : String → String → Bool)
    (fields : List (String × JsonValue)) :
    ∃ covered, covered.Perm (signedEntries localeLess fields)
      ∧ signedForm localeLess (.obj fields) = fromEntries (sortByKey localeLess covered) := by
  obtain ⟨entries, hentries, hperm⟩ := exists_fromEntries (stripFields fields)
  refine ⟨canonicalizeFields localeLess entries, ?_, ?_⟩
  · rw [canonicalizeFields_eq, signedEntries]
    rw [stripFields_eq] at hperm
    have hmapped := hperm.map fun field => (field.1, canonicalizeForJson localeLess field.2)
    rw [List.map_map] at hmapped
    exact hmapped
  · rw [signedForm, stripSignatureMetadata, hentries, canonicalizeForJson]
    rfl

/-- **AN OBJECT**: its covered entries, sorted by key. -/
theorem signedForm_obj (hless : StrictTotal localeLess) {fields : List (String × JsonValue)}
    (h : (fields.map Prod.fst).Nodup) :
    signedForm localeLess (.obj fields)
      = fromEntries (sortByKey localeLess (signedEntries localeLess fields)) := by
  obtain ⟨covered, hcovered, hform⟩ := exists_signedForm_obj localeLess fields
  have hnodup : (covered.map Prod.fst).Nodup :=
    (hcovered.map Prod.fst).nodup_iff.mpr (nodup_signedEntries h)
  rw [hform, hless.sortByKey_eq_of_perm hnodup hcovered]

theorem mem_signedEntries {fields : List (String × JsonValue)} {key : String} {w : JsonValue} :
    (key, w) ∈ signedEntries localeLess fields ↔
      isSignatureMetadata key = false
        ∧ ∃ value, (key, value) ∈ fields ∧ signedForm localeLess value = w := by
  rw [signedEntries]
  constructor
  · intro h
    obtain ⟨⟨key', value⟩, hmem, heq⟩ := List.mem_map.mp h
    obtain ⟨rfl, rfl⟩ := Prod.mk.inj heq
    obtain ⟨hmem, hcovered⟩ := List.mem_filter.mp hmem
    exact ⟨by simpa using hcovered, value, hmem, rfl⟩
  · rintro ⟨hcovered, value, hmem, rfl⟩
    exact List.mem_map.mpr
      ⟨(key, value), List.mem_filter.mpr ⟨hmem, by simpa using hcovered⟩, rfl⟩

/-- **COVERED VALUES DECIDE**: two objects whose values under the covered keys
    have the same signed forms have the same signed form. -/
theorem signedForm_eq_of_prop (hless : StrictTotal localeLess)
    {left right : List (String × JsonValue)}
    (hleft : (left.map Prod.fst).Nodup) (hright : (right.map Prod.fst).Nodup)
    (h : ∀ key, isSignatureMetadata key = false →
      ((obj left).prop key).map (signedForm localeLess)
        = ((obj right).prop key).map (signedForm localeLess)) :
    signedForm localeLess (.obj left) = signedForm localeLess (.obj right) := by
  have hentry : ∀ {fields : List (String × JsonValue)}, (fields.map Prod.fst).Nodup →
      ∀ key w, (key, w) ∈ signedEntries localeLess fields ↔
        isSignatureMetadata key = false
          ∧ ((obj fields).prop key).map (signedForm localeLess) = some w := by
    intro fields hfields key w
    rw [mem_signedEntries, Option.map_eq_some_iff]
    refine and_congr_right fun _ => exists_congr fun value => ?_
    rw [prop_obj_iff hfields]
  have hperm : (signedEntries localeLess left).Perm (signedEntries localeLess right) := by
    refine (List.perm_ext_iff_of_nodup (nodup_signedEntries hleft).of_map
      (nodup_signedEntries hright).of_map).mpr ?_
    rintro ⟨key, w⟩
    rw [hentry hleft, hentry hright]
    refine and_congr_right fun hcovered => ?_
    rw [h key hcovered]
  rw [signedForm_obj hless hleft, signedForm_obj hless hright,
    hless.sortByKey_eq_of_perm (nodup_signedEntries hleft) hperm]

theorem signedForm_arr (items : List JsonValue) :
    signedForm localeLess (.arr items) = .arr (items.map (signedForm localeLess)) := by
  rw [signedForm, stripSignatureMetadata, canonicalizeForJson, stripItems_eq,
    canonicalizeItems_eq, List.map_map]
  rfl

/-! ## A stored copy -/

mutual
/-- **STORAGE**: a stored copy has the signed form of the original. -/
theorem signedForm_stored (hless : StrictTotal localeLess) {v w : JsonValue} (h : StoredAs v w)
    (hdistinct : Distinct v) : signedForm localeLess w = signedForm localeLess v := by
  cases h with
  | null => rfl
  | bool => rfl
  | num => rfl
  | str => rfl
  | arr hitems => rw [signedForm_arr, signedForm_arr, map_signedForm_stored hless hitems hdistinct]
  | @obj fields copies stored hfields hperm =>
      -- the copies have the covered entries of the original; storage permutes them
      have hcopies := signedEntries_stored hless hfields hdistinct.2
      have hreordered : (signedEntries localeLess copies).Perm (signedEntries localeLess stored) :=
        (hperm.filter _).map _
      rw [signedForm_obj hless (hfields.nodup hperm hdistinct.1),
        signedForm_obj hless hdistinct.1, ← hcopies]
      refine congrArg fromEntries (hless.sortByKey_eq_of_perm ?_ hreordered).symm
      rw [hcopies]
      exact nodup_signedEntries hdistinct.1
/-- The items of a stored copy, in their order. -/
theorem map_signedForm_stored (hless : StrictTotal localeLess) {items stored : List JsonValue}
    (h : StoredItems items stored) (hdistinct : DistinctItems items) :
    stored.map (signedForm localeLess) = items.map (signedForm localeLess) := by
  cases h with
  | nil => rfl
  | cons hitem hrest =>
      rw [List.map_cons, List.map_cons, signedForm_stored hless hitem hdistinct.1,
        map_signedForm_stored hless hrest hdistinct.2]
/-- The covered entries of a stored copy, before they are reordered. -/
theorem signedEntries_stored (hless : StrictTotal localeLess)
    {fields copies : List (String × JsonValue)} (h : StoredFields fields copies)
    (hdistinct : DistinctFields fields) :
    signedEntries localeLess copies = signedEntries localeLess fields := by
  cases h with
  | nil => rfl
  | @cons key value copy rest copies hvalue hrest =>
      rw [signedEntries_cons, signedEntries_cons, signedForm_stored hless hvalue hdistinct.1,
        signedEntries_stored hless hrest hdistinct.2]
end

/-- The signed text of a stored copy is that of the original. -/
theorem trustSignaturePayload_stored {host : SignatureHost} (hless : StrictTotal host.localeLess)
    {v w : JsonValue} (h : StoredAs v w) (hdistinct : Distinct v) :
    trustSignaturePayload host w = trustSignaturePayload host v := by
  rw [trustSignaturePayload_eq, trustSignaturePayload_eq, signedForm_stored hless h hdistinct]

end CanonicalJson
