import QrTrust.Lib.Fallible
import QrTrust.Network.VerifierSync

/-! # What a decoded destination policy says about its body

    The type guard `isDestinationPolicyArtifactBody` and the decoder
    `destinationPolicyProjectionFromArtifactPublicationInput` read the same
    body and disagree in one respect: the decoder fills what the body leaves
    out.  `decoded_guard_iff` makes that exact: a body that decodes passes the
    guard unless it leaves out a scope field or a publication date, or gives a
    rule `allowed_query_keys: null`. -/

namespace PolicyDecodingProofs

open VerifierCache PolicyDecoding VerifierSync Fallible

variable {js : JsRuntime} {v : Option JsonValue} {field : String}

/-! ## Property reads -/

/-- A property that is null or absent, and no other, is missing for `??`. -/
theorem nonNull_eq_none_iff (body : JsonValue) (key : String) :
    body.nonNull key = none ↔ body.prop key = none ∨ body.prop key = some .null := by
  rw [JsonValue.nonNull]
  constructor
  · intro h
    cases hp : body.prop key with
    | none => exact .inl rfl
    | some w =>
        rw [hp] at h
        cases w with
        | null => exact .inr rfl
        | _ => exact nomatch h
  · rintro (h | h) <;> rw [h]

theorem nonNull_eq_some {body w : JsonValue} {key : String}
    (h : body.nonNull key = some w) : body.prop key = some w := by
  rw [JsonValue.nonNull] at h
  split at h
  · exact nomatch h
  · exact h

/-- A missing property is no string. -/
theorem stringField_of_nonNull_none {body : JsonValue} {key : String}
    (h : body.nonNull key = none) : body.stringField key = none := by
  rw [JsonValue.stringField]
  rcases (nonNull_eq_none_iff body key).mp h with hp | hp <;> rw [hp] <;> rfl

theorem stringField_eq_some {body : JsonValue} {key s : String}
    (h : body.prop key = some (.str s)) : body.stringField key = some s := by
  rw [JsonValue.stringField, h]
  rfl

/-! ## One lemma for each field check -/

theorem stringValue_ok {s : String} (h : stringValue v field = .ok s) :
    v = some (.str s) ∧ s ≠ "" := by
  simp only [stringValue] at h
  split at h
  · split at h
    · obtain rfl := Except.ok.inj h
      exact ⟨rfl, ‹_›⟩
    · exact nomatch h
  · exact nomatch h

theorem arrayValue_ok {items : List JsonValue} (h : arrayValue v field = .ok items) :
    v = some (.arr items) := by
  simp only [arrayValue] at h
  split at h
  · obtain rfl := Except.ok.inj h
    rfl
  · exact nomatch h

theorem booleanValue_ok {b : Bool} (h : booleanValue v field = .ok b) :
    v = some (.bool b) := by
  simp only [booleanValue] at h
  split at h
  · obtain rfl := Except.ok.inj h
    rfl
  · exact nomatch h

theorem objectValue_ok {o : JsonValue} (h : objectValue v field = .ok o) : v = some o := by
  simp only [objectValue] at h
  split at h
  · obtain rfl := Except.ok.inj h
    rfl
  · exact nomatch h

theorem nonNegativeIntegerValue_ok {n : Rat}
    (h : nonNegativeIntegerValue v field = .ok n) : v = some (.num n) := by
  simp only [nonNegativeIntegerValue] at h
  split at h
  · split at h
    · obtain rfl := Except.ok.inj h
      rfl
    · exact nomatch h
  · exact nomatch h

theorem literalStringValue_ok {allowed : List String} {s : String}
    (h : literalStringValue v field allowed = .ok s) : v = some (.str s) := by
  simp only [literalStringValue] at h
  split at h
  · split at h
    · obtain rfl := Except.ok.inj h
      rfl
    · exact nomatch h
  · exact nomatch h

theorem optionalObjectValue_ok {o : Option JsonValue} (h : optionalObjectValue v = .ok o) :
    (o = none ∧ (v = none ∨ v = some .null)) ∨ ∃ w, o = some w ∧ v = some w ∧ w ≠ .null := by
  simp only [optionalObjectValue] at h
  split at h
  · obtain rfl := Except.ok.inj h
    exact .inl ⟨rfl, .inl rfl⟩
  · obtain rfl := Except.ok.inj h
    exact .inl ⟨rfl, .inr rfl⟩
  · rename_i w hnull
    cases hobj : objectValue (some w) "object" with
    | error e => rw [hobj] at h; exact nomatch h
    | ok w' =>
        rw [hobj] at h
        obtain rfl := Except.ok.inj h
        obtain rfl := Option.some.inj (objectValue_ok hobj)
        exact .inr ⟨w, rfl, rfl, fun hw => hnull (by rw [hw])⟩

/-- The checks that take a string and may change it. -/
theorem httpsUrlValue_ok {s : String} (h : httpsUrlValue js v field = .ok s) :
    ∃ raw, v = some (.str raw) := by
  obtain ⟨raw, hraw, -⟩ := bind_eq_ok_iff.mp h
  exact ⟨raw, (stringValue_ok hraw).1⟩

theorem hostnameValue_ok {s : String} (h : hostnameValue js v field = .ok s) :
    ∃ raw, v = some (.str raw) := by
  obtain ⟨raw, hraw, -⟩ := bind_eq_ok_iff.mp h
  exact ⟨raw, (stringValue_ok hraw).1⟩

theorem pathPrefixValue_ok {s : String} (h : pathPrefixValue v field = .ok s) :
    ∃ raw, v = some (.str raw) := by
  obtain ⟨raw, hraw, -⟩ := bind_eq_ok_iff.mp h
  exact ⟨raw, (stringValue_ok hraw).1⟩

/-- Items that pass a check for strings are strings. -/
theorem mapM_asString_isSome {items : List JsonValue} {results : List String}
    {check : JsonValue → Except String String}
    (hcheck : ∀ item s, check item = .ok s → ∃ raw, item = .str raw)
    (h : items.mapM check = .ok results) : (items.mapM JsonValue.asString).isSome := by
  have hall := mapM_eq_ok_iff.mp h
  clear h
  induction hall with
  | nil => rfl
  | cons hitem _ ih =>
      obtain ⟨raw, rfl⟩ := hcheck _ _ hitem
      obtain ⟨rest, hrest⟩ := Option.isSome_iff_exists.mp ih
      rw [List.mapM_cons, hrest]
      rfl

/-- An array that passes a check for strings is an array of strings. -/
theorem stringArrayField_isSome {body : JsonValue} {key : String} {items : List JsonValue}
    {results : List String} {check : JsonValue → Except String String}
    (harray : arrayValue (body.prop key) field = .ok items)
    (hcheck : ∀ item s, check item = .ok s → ∃ raw, item = .str raw)
    (h : items.mapM check = .ok results) : (body.stringArrayField key).isSome := by
  rw [JsonValue.stringArrayField, JsonValue.arrayField, arrayValue_ok harray]
  exact mapM_asString_isSome hcheck h

theorem mapM_httpsUrlValue {items : List JsonValue} {results : List String} {body : JsonValue}
    {key : String} (harray : arrayValue (body.prop key) field = .ok items)
    (h : (items.mapM fun url => httpsUrlValue js (some url) (field ++ "[]")) = .ok results) :
    (body.stringArrayField key).isSome :=
  stringArrayField_isSome harray
    (fun _ _ hitem => (httpsUrlValue_ok hitem).imp fun _ hraw => Option.some.inj hraw) h

theorem mapM_hostnameValue {items : List JsonValue} {results : List String} {body : JsonValue}
    {key : String} (harray : arrayValue (body.prop key) field = .ok items)
    (h : (items.mapM fun host => hostnameValue js (some host) (field ++ "[]")) = .ok results) :
    (body.stringArrayField key).isSome :=
  stringArrayField_isSome harray
    (fun _ _ hitem => (hostnameValue_ok hitem).imp fun _ hraw => Option.some.inj hraw) h

/-- `allowed_query_keys` that decode pass the guard unless they are null. -/
theorem optionalStringArrayProperty_ok {rule : JsonValue} {property : String}
    {keys : Option (List String)} (h : optionalStringArrayProperty rule property = .ok keys) :
    isOptionalStringArray (rule.prop property) = true ↔ rule.prop property ≠ some .null := by
  rw [optionalStringArrayProperty] at h
  split at h
  · rename_i hnull
    rcases (nonNull_eq_none_iff rule property).mp hnull with hp | hp
    · rw [hp]; simp [isOptionalStringArray]
    · rw [hp]; simp [isOptionalStringArray, JsonValue.asArray]
  · rename_i candidate hcandidate
    obtain ⟨items, hitems, hrest⟩ := bind_eq_ok_iff.mp h
    obtain ⟨results, hresults, -⟩ := bind_eq_ok_iff.mp hrest
    obtain rfl := Option.some.inj (arrayValue_ok hitems)
    have hstrings := mapM_asString_isSome
      (fun item s hs => ⟨s, Option.some.inj (stringValue_ok hs).1⟩) hresults
    rw [nonNull_eq_some hcandidate]
    simpa [isOptionalStringArray, JsonValue.asArray] using hstrings

/-! ## Rules, redirect policies, scope and dates -/

/-- A rule that decodes passes its guard unless its query keys are null. -/
theorem destinationPolicyRule_guard_iff {value : JsonValue} {rule : DestinationPolicyRule}
    (h : destinationPolicyRuleFromUnknown js value = .ok rule) :
    isDestinationPolicyDestination value = true ↔
      value.prop "allowed_query_keys" ≠ some .null := by
  obtain ⟨o, ho, h⟩ := bind_eq_ok_iff.mp h
  obtain rfl := Option.some.inj (objectValue_ok ho)
  obtain ⟨_, hid, h⟩ := bind_eq_ok_iff.mp h
  obtain ⟨_, hfinal, h⟩ := bind_eq_ok_iff.mp h
  obtain ⟨_, hhosts, h⟩ := bind_eq_ok_iff.mp h
  obtain ⟨_, hallowedHosts, h⟩ := bind_eq_ok_iff.mp h
  obtain ⟨_, hsubdomains, h⟩ := bind_eq_ok_iff.mp h
  obtain ⟨_, hpaths, h⟩ := bind_eq_ok_iff.mp h
  obtain ⟨_, hpathPrefixes, h⟩ := bind_eq_ok_iff.mp h
  obtain ⟨_, hquery, h⟩ := bind_eq_ok_iff.mp h
  obtain ⟨_, hkeys, -⟩ := bind_eq_ok_iff.mp h
  obtain ⟨final, hfinal⟩ := httpsUrlValue_ok hfinal
  have hpathStrings := stringArrayField_isSome hpaths
    (fun _ _ hitem => (pathPrefixValue_ok hitem).imp fun _ hraw => Option.some.inj hraw)
    hpathPrefixes
  have hsub : (value.boolField "allow_subdomains").isSome = true := by
    rw [JsonValue.boolField, booleanValue_ok hsubdomains]; rfl
  rw [isDestinationPolicyDestination, stringField_eq_some (stringValue_ok hid).1,
    stringField_eq_some hfinal, mapM_hostnameValue hhosts hallowedHosts, hsub, hpathStrings,
    stringField_eq_some (literalStringValue_ok hquery)]
  exact optionalStringArrayProperty_ok hkeys

/-- A redirect policy that decodes passes its guard. -/
theorem redirectPolicy_guard {redirectPolicy : RedirectPolicyProjection}
    (h : redirectPolicyFromUnknown js v = .ok redirectPolicy) :
    v.any isRedirectPolicy = true := by
  obtain ⟨o, ho, h⟩ := bind_eq_ok_iff.mp h
  obtain ⟨_, hresolvers, h⟩ := bind_eq_ok_iff.mp h
  obtain ⟨_, hresolverUrls, h⟩ := bind_eq_ok_iff.mp h
  obtain ⟨_, hfinals, h⟩ := bind_eq_ok_iff.mp h
  obtain ⟨_, hfinalUrls, h⟩ := bind_eq_ok_iff.mp h
  obtain ⟨_, hhosts, h⟩ := bind_eq_ok_iff.mp h
  obtain ⟨_, hredirectHosts, h⟩ := bind_eq_ok_iff.mp h
  obtain ⟨_, hhops, h⟩ := bind_eq_ok_iff.mp h
  obtain ⟨_, hnested, h⟩ := bind_eq_ok_iff.mp h
  obtain ⟨_, hdisplay, -⟩ := bind_eq_ok_iff.mp h
  have hnumber : (o.numberField "max_redirect_hops").isSome = true := by
    rw [JsonValue.numberField, nonNegativeIntegerValue_ok hhops]; rfl
  have hnestedBool : (o.boolField "nested_shorteners_allowed").isSome = true := by
    rw [JsonValue.boolField, booleanValue_ok hnested]; rfl
  have hdisplayBool :
      (o.boolField "scanner_must_display_resolver_and_final_destination").isSome = true := by
    rw [JsonValue.boolField, booleanValue_ok hdisplay]; rfl
  rw [objectValue_ok ho]
  show isRedirectPolicy o = true
  rw [isRedirectPolicy, mapM_httpsUrlValue hresolvers hresolverUrls,
    mapM_httpsUrlValue hfinals hfinalUrls, mapM_hostnameValue hhosts hredirectHosts, hnumber,
    hnestedBool, hdisplayBool]
  rfl

/-- A scope field that decodes is a string of the body unless the body leaves
    it out. -/
theorem scopeValue_guard_iff {body : JsonValue} {fallback : Option String} {key s : String}
    (h : scopeValue body fallback key = .ok s) :
    (body.stringField key).isSome = true ↔ body.nonNull key ≠ none := by
  cases hnull : body.nonNull key with
  | none => rw [stringField_of_nonNull_none hnull]; simp
  | some w =>
      rw [scopeValue, hnull] at h
      have hw : some w = some (.str s) := (stringValue_ok h).1
      rw [stringField_eq_some ((nonNull_eq_some hnull).trans hw)]
      simp

/-- The dates of a publication, null and absent alike missing. -/
def publicationDateOf (body : JsonValue) (key : String) : Option JsonValue :=
  (body.nonNull "publication").bind fun publication => publication.nonNull key

/-- A publication date that decodes is a string of the publication unless it is
    left out. -/
theorem publicationDate_guard_iff {body : JsonValue} {publication : Option JsonValue}
    {occurredAt key s : String}
    (hpublication : optionalObjectValue (body.prop "publication") = .ok publication)
    (h : publicationDate js publication occurredAt key = .ok s) :
    ((body.prop "publication").bind fun p => p.stringField key).isSome = true ↔
      publicationDateOf body key ≠ none := by
  rcases optionalObjectValue_ok hpublication with ⟨rfl, hp⟩ | ⟨w, rfl, hw, hnull⟩
  · have hmissing := (nonNull_eq_none_iff body "publication").mpr hp
    rw [publicationDateOf, hmissing]
    rcases hp with hp | hp <;> rw [hp] <;> simp [JsonValue.stringField, JsonValue.prop]
  · have hnonNull : body.nonNull "publication" = some w := by
      cases hb : body.nonNull "publication" with
      | some w' => rw [← hw, nonNull_eq_some hb]
      | none =>
          rcases (nonNull_eq_none_iff body "publication").mp hb with hp | hp
          · rw [hp] at hw; exact nomatch hw
          · rw [hp] at hw; exact absurd (Option.some.inj hw).symm hnull
    rw [publicationDateOf, hnonNull, hw]
    show (w.stringField key).isSome = true ↔ w.nonNull key ≠ none
    cases hkey : w.nonNull key with
    | none => rw [stringField_of_nonNull_none hkey]; simp
    | some date =>
        rw [publicationDate] at h
        have hdate : ((some w).bind fun p => p.nonNull key) = some date := hkey
        rw [hdate] at h
        have hs := (stringValue_ok h).1
        rw [stringField_eq_some ((nonNull_eq_some hkey).trans hs)]
        simp

/-! ## The guard and the decoder -/

/-- What a policy body leaves out for the decoder to fill. -/
inductive LeavesOut (body : JsonValue) : Prop
  | scopeField (key : String)
      (hkey : key ∈ ["root_program_id", "delegated_authority_id", "issuer_id",
        "destination_policy_id"])
      (hmissing : body.nonNull key = none)
  | publicationDate (key : String) (hkey : key ∈ ["published_at", "valid_until"])
      (hmissing : publicationDateOf body key = none)
  | queryKeys (rules : List JsonValue) (rule : JsonValue)
      (hrules : body.arrayField "approved_destinations" = some rules) (hrule : rule ∈ rules)
      (hnull : rule.prop "allowed_query_keys" = some .null)

/-- A body leaves nothing out when every field the decoder could fill is there. -/
theorem not_leavesOut_iff (body : JsonValue) {rules : List JsonValue}
    (hrules : body.arrayField "approved_destinations" = some rules) :
    ¬ LeavesOut body ↔
      (body.nonNull "root_program_id" ≠ none ∧ body.nonNull "delegated_authority_id" ≠ none
        ∧ body.nonNull "issuer_id" ≠ none ∧ body.nonNull "destination_policy_id" ≠ none)
      ∧ (publicationDateOf body "published_at" ≠ none
        ∧ publicationDateOf body "valid_until" ≠ none)
      ∧ ∀ rule ∈ rules, rule.prop "allowed_query_keys" ≠ some .null := by
  constructor
  · intro h
    refine ⟨⟨?_, ?_, ?_, ?_⟩, ⟨?_, ?_⟩, ?_⟩
    · exact fun hm => h (.scopeField "root_program_id" (by simp) hm)
    · exact fun hm => h (.scopeField "delegated_authority_id" (by simp) hm)
    · exact fun hm => h (.scopeField "issuer_id" (by simp) hm)
    · exact fun hm => h (.scopeField "destination_policy_id" (by simp) hm)
    · exact fun hm => h (.publicationDate "published_at" (by simp) hm)
    · exact fun hm => h (.publicationDate "valid_until" (by simp) hm)
    · exact fun rule hrule hnull => h (.queryKeys rules rule hrules hrule hnull)
  · rintro ⟨⟨hroot, hauthority, hissuer, hpolicy⟩, ⟨hpublished, hvalid⟩, hkeys⟩ hout
    cases hout with
    | scopeField key hkey hmissing =>
        simp only [List.mem_cons, List.not_mem_nil, or_false] at hkey
        rcases hkey with rfl | rfl | rfl | rfl
        · exact hroot hmissing
        · exact hauthority hmissing
        · exact hissuer hmissing
        · exact hpolicy hmissing
    | publicationDate key hkey hmissing =>
        simp only [List.mem_cons, List.not_mem_nil, or_false] at hkey
        rcases hkey with rfl | rfl
        · exact hpublished hmissing
        · exact hvalid hmissing
    | queryKeys rules' rule hrules' hrule hnull =>
        obtain rfl := Option.some.inj (hrules.symm.trans hrules')
        exact hkeys rule hrule hnull

/-- The rules of a policy that decodes pass their guards unless one of them has
    null query keys. -/
theorem rules_guard_iff {values : List JsonValue} {rules : List DestinationPolicyRule}
    (h : values.mapM (destinationPolicyRuleFromUnknown js) = .ok rules) :
    values.all isDestinationPolicyDestination = true ↔
      ∀ value ∈ values, value.prop "allowed_query_keys" ≠ some .null := by
  have hall := mapM_eq_ok_iff.mp h
  clear h
  induction hall with
  | nil => simp
  | @cons value rule values rules hvalue _ ih =>
      rw [List.all_cons, Bool.and_eq_true, destinationPolicyRule_guard_iff hvalue,
        List.forall_mem_cons]
      exact and_congr_right fun _ => ih

/-- **GUARD AGAINST DECODER**: a body of the policy type that decodes passes the
    type guard exactly when it leaves nothing out. -/
theorem decoded_guard_iff {input : ArtifactPublicationInput}
    {policy : DestinationPolicyProjection}
    (htype : hasArtifactType input.body "destination_policy" = true)
    (h : destinationPolicyProjectionFromArtifactPublicationInput js input = .ok policy) :
    isDestinationPolicyArtifactBody input.body = true ↔ ¬ LeavesOut input.body := by
  obtain ⟨body, hbody, h⟩ := bind_eq_ok_iff.mp h
  obtain rfl : input.body = body := Option.some.inj (objectValue_ok hbody)
  obtain ⟨values, hvalues, h⟩ := bind_eq_ok_iff.mp h
  obtain ⟨rules, hrules, h⟩ := bind_eq_ok_iff.mp h
  obtain ⟨_, hredirect, h⟩ := bind_eq_ok_iff.mp h
  obtain ⟨_, hroot, h⟩ := bind_eq_ok_iff.mp h
  obtain ⟨_, hauthority, h⟩ := bind_eq_ok_iff.mp h
  obtain ⟨_, hissuer, h⟩ := bind_eq_ok_iff.mp h
  obtain ⟨_, hpublication, h⟩ := bind_eq_ok_iff.mp h
  obtain ⟨_, hpolicy, h⟩ := bind_eq_ok_iff.mp h
  obtain ⟨_, hgenerated, h⟩ := bind_eq_ok_iff.mp h
  obtain ⟨_, hexpires, -⟩ := bind_eq_ok_iff.mp h
  have hfield : input.body.arrayField "approved_destinations" = some values := by
    rw [JsonValue.arrayField, arrayValue_ok hvalues]; rfl
  have hdates :
      ((input.body.prop "publication").any fun publication =>
        (publication.stringField "published_at").isSome
          && (publication.stringField "valid_until").isSome) = true ↔
        publicationDateOf input.body "published_at" ≠ none
          ∧ publicationDateOf input.body "valid_until" ≠ none := by
    rw [← publicationDate_guard_iff hpublication hgenerated,
      ← publicationDate_guard_iff hpublication hexpires]
    cases input.body.prop "publication" with
    | none => simp
    | some publication => simp
  rw [not_leavesOut_iff input.body hfield, ← hdates, ← rules_guard_iff hrules,
    ← scopeValue_guard_iff hroot, ← scopeValue_guard_iff hauthority,
    ← scopeValue_guard_iff hissuer, ← scopeValue_guard_iff hpolicy,
    isDestinationPolicyArtifactBody, htype, hfield, redirectPolicy_guard hredirect]
  simp only [Bool.and_eq_true, Option.any_some]
  tauto

end PolicyDecodingProofs
