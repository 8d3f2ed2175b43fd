import QrTrust.Network.DestinationPolicyPublicationProofs

/-! # Encoding a decoded policy

    The decoder trims, lower-cases and fills in; the encoder writes down what is
    left.  What passed a check of the decoder passes it again, so a decoded policy
    is one that the publication service takes (`valid_of_decoded`), and its encoded
    body decodes to the policy itself (`decode_encode_policy`). -/

namespace DestinationPolicyPublication

open VerifierCache PolicyDecodingProofs JsString Fallible
open PolicyDecoding hiding ArtifactPublicationInput

/-- Documented behaviour of the host: the empty text is no URL. -/
def EmptyIsNoUrl (js : JsRuntime) : Prop := js.parseUrl "" = none

variable {js : JsRuntime} {v : Option JsonValue} {field : String} {s : String}

/-! ## What passed a check passes it again -/

theorem httpsUrlValue_passes (hempty : EmptyIsNoUrl js) (h : httpsUrlValue js v field = .ok s) :
    httpsUrlValue js (some (.str s)) field = .ok s := by
  obtain ⟨raw, rfl⟩ := httpsUrlValue_ok h
  have htrim := httpsUrlValue_trim h
  obtain ⟨text, htext, hcheck⟩ := bind_eq_ok_iff.mp h
  obtain ⟨heq, -⟩ := stringValue_ok htext
  obtain rfl := JsonValue.str.inj (Option.some.inj heq)
  have hne : s ≠ "" := by
    rintro rfl
    rw [← htrim] at hcheck
    dsimp only at hcheck
    rw [show js.parseUrl "" = none from hempty] at hcheck
    cases hcheck
  refine bind_eq_ok_iff.mpr ⟨s, if_pos hne, ?_⟩
  rw [show trim s = trim raw by rw [htrim, trim_trim]]
  exact hcheck

theorem pathPrefixValue_passes (h : pathPrefixValue v field = .ok s) :
    pathPrefixValue (some (.str s)) field = .ok s := by
  obtain ⟨raw, rfl⟩ := pathPrefixValue_ok h
  have htrim := pathPrefixValue_trim h
  obtain ⟨text, htext, hcheck⟩ := bind_eq_ok_iff.mp h
  obtain ⟨heq, -⟩ := stringValue_ok htext
  obtain rfl := JsonValue.str.inj (Option.some.inj heq)
  have hne : s ≠ "" := by
    rintro rfl
    -- the empty text does not start with a slash
    rw [← htrim] at hcheck
    cases hcheck
  refine bind_eq_ok_iff.mpr ⟨s, if_pos hne, ?_⟩
  rw [show trim s = trim raw by rw [htrim, trim_trim]]
  exact hcheck

/-- A list of checked strings passes the check, item by item. -/
theorem strings_pass {check : JsonValue → Except String String} {items : List JsonValue}
    {values : List String} (hread : items.mapM check = .ok values)
    (hpasses : ∀ item value, check item = .ok value → check (.str value) = .ok value) :
    (values.mapM fun value => check (.str value)) = .ok values := by
  refine mapM_eq_ok_iff.mpr (List.forall₂_same.mpr fun value hvalue => ?_)
  obtain ⟨item, -, hitem⟩ := exists_source_of_mapM_eq_ok hread hvalue
  exact hpasses item value hitem

/-! ## A decoded policy passes the checks of the service -/

theorem queryKeys_pass {value : JsonValue} {keys : Option (List String)}
    (h : optionalStringArrayProperty value "allowed_query_keys" = .ok keys) :
    ((keys.getD []).mapM fun key => stringValue (some (.str key)) "allowed_query_keys[]")
      = .ok (keys.getD []) := by
  rw [optionalStringArrayProperty] at h
  split at h
  · obtain rfl := Except.ok.inj h
    rfl
  · obtain ⟨items, -, h⟩ := bind_eq_ok_iff.mp h
    obtain ⟨keys', hkeys, h⟩ := bind_eq_ok_iff.mp h
    obtain rfl := Except.ok.inj h
    exact strings_pass hkeys fun _ _ hitem => stringValue_again hitem

theorem valid_of_rule (hlower : LowerCaseKeepsDnsNames js) (hempty : EmptyIsNoUrl js)
    {value : JsonValue} {rule : DestinationPolicyRule}
    (hread : destinationPolicyRuleFromUnknown js value = .ok rule) :
    validateDestinationRule js rule = .ok () := by
  obtain ⟨body, -, h⟩ := bind_eq_ok_iff.mp hread
  obtain ⟨id, hid, h⟩ := bind_eq_ok_iff.mp h
  obtain ⟨url, hurl, h⟩ := bind_eq_ok_iff.mp h
  obtain ⟨_, -, h⟩ := bind_eq_ok_iff.mp h
  obtain ⟨hosts, hhosts, h⟩ := bind_eq_ok_iff.mp h
  obtain ⟨subdomains, -, h⟩ := bind_eq_ok_iff.mp h
  obtain ⟨_, -, h⟩ := bind_eq_ok_iff.mp h
  obtain ⟨paths, hpaths, h⟩ := bind_eq_ok_iff.mp h
  obtain ⟨query, hquery, h⟩ := bind_eq_ok_iff.mp h
  obtain ⟨keys, hkeys, h⟩ := bind_eq_ok_iff.mp h
  obtain rfl := Except.ok.inj h
  refine bind_eq_ok_iff.mpr ⟨id, stringValue_again hid, ?_⟩
  refine bind_eq_ok_iff.mpr ⟨url, httpsUrlValue_passes hempty hurl, ?_⟩
  refine bind_eq_ok_iff.mpr ⟨hosts,
    strings_pass hhosts fun _ _ hitem => hostnameValue_again hlower hitem, ?_⟩
  refine bind_eq_ok_iff.mpr ⟨paths,
    strings_pass hpaths fun _ _ hitem => pathPrefixValue_passes hitem, ?_⟩
  refine bind_eq_ok_iff.mpr ⟨query, literalStringValue_again hquery, ?_⟩
  exact bind_eq_ok_iff.mpr ⟨_, queryKeys_pass hkeys, rfl⟩

/-- The checks of the redirect policy in `validateDestinationPolicyProjection`. -/
theorem valid_of_redirectPolicy (hlower : LowerCaseKeepsDnsNames js) (hempty : EmptyIsNoUrl js)
    {redirect : RedirectPolicyProjection}
    (hread : PolicyDecoding.redirectPolicyFromUnknown js v = .ok redirect) :
    (redirect.resolverUrls.mapM fun url =>
        httpsUrlValue js (some (.str url)) "resolver_urls[]") = .ok redirect.resolverUrls
      ∧ (redirect.expectedFinalDestinations.mapM fun url =>
          httpsUrlValue js (some (.str url)) "expected_final_destinations[]")
        = .ok redirect.expectedFinalDestinations
      ∧ (redirect.allowedRedirectHosts.mapM fun host =>
          hostnameValue js (some (.str host)) "allowed_redirect_hosts[]")
        = .ok redirect.allowedRedirectHosts
      ∧ nonNegativeIntegerValue (some (.num redirect.maxRedirectHops)) "max_redirect_hops"
        = .ok redirect.maxRedirectHops := by
  obtain ⟨_, -, h⟩ := bind_eq_ok_iff.mp hread
  obtain ⟨_, -, h⟩ := bind_eq_ok_iff.mp h
  obtain ⟨resolverUrls, hresolvers, h⟩ := bind_eq_ok_iff.mp h
  obtain ⟨_, -, h⟩ := bind_eq_ok_iff.mp h
  obtain ⟨finalUrls, hfinals, h⟩ := bind_eq_ok_iff.mp h
  obtain ⟨_, -, h⟩ := bind_eq_ok_iff.mp h
  obtain ⟨hosts, hhosts, h⟩ := bind_eq_ok_iff.mp h
  obtain ⟨hops, hhops, h⟩ := bind_eq_ok_iff.mp h
  obtain ⟨nested, -, h⟩ := bind_eq_ok_iff.mp h
  obtain ⟨display, -, h⟩ := bind_eq_ok_iff.mp h
  obtain rfl := Except.ok.inj h
  refine ⟨?_, ?_, ?_, nonNegativeIntegerValue_again hhops⟩
  · exact strings_pass hresolvers fun _ _ hitem => httpsUrlValue_passes hempty hitem
  · exact strings_pass hfinals fun _ _ hitem => httpsUrlValue_passes hempty hitem
  · exact strings_pass hhosts fun _ _ hitem => hostnameValue_again hlower hitem

/-- **DECODED, HENCE VALID**: a decoded policy passes the checks that the service
    makes before it publishes one. -/
theorem valid_of_decoded (hlower : LowerCaseKeepsDnsNames js) (hempty : EmptyIsNoUrl js)
    {input : PolicyDecoding.ArtifactPublicationInput} {policy : DestinationPolicyProjection}
    (hread : destinationPolicyProjectionFromArtifactPublicationInput js input = .ok policy) :
    validateDestinationPolicyProjection js policy = .ok () := by
  obtain ⟨_, -, h⟩ := bind_eq_ok_iff.mp hread
  obtain ⟨_, -, h⟩ := bind_eq_ok_iff.mp h
  obtain ⟨rules, hrules, h⟩ := bind_eq_ok_iff.mp h
  obtain ⟨redirect, hredirect, h⟩ := bind_eq_ok_iff.mp h
  obtain ⟨_, -, h⟩ := bind_eq_ok_iff.mp h
  obtain ⟨_, -, h⟩ := bind_eq_ok_iff.mp h
  obtain ⟨_, -, h⟩ := bind_eq_ok_iff.mp h
  obtain ⟨_, -, h⟩ := bind_eq_ok_iff.mp h
  obtain ⟨_, -, h⟩ := bind_eq_ok_iff.mp h
  obtain ⟨_, -, h⟩ := bind_eq_ok_iff.mp h
  obtain ⟨_, -, h⟩ := bind_eq_ok_iff.mp h
  obtain rfl := Except.ok.inj h
  have hchecked : rules.mapM (validateDestinationRule js) = .ok (rules.map fun _ => ()) := by
    refine mapM_eq_ok_iff.mpr ?_
    rw [List.forall₂_map_right_iff, List.forall₂_same]
    intro rule hrule
    obtain ⟨value, -, hvalue⟩ := exists_source_of_mapM_eq_ok hrules hrule
    exact valid_of_rule hlower hempty hvalue
  obtain ⟨hresolvers, hfinals, hhosts, hhops⟩ := valid_of_redirectPolicy hlower hempty hredirect
  refine bind_eq_ok_iff.mpr ⟨_, hchecked, ?_⟩
  refine bind_eq_ok_iff.mpr ⟨_, hresolvers, ?_⟩
  refine bind_eq_ok_iff.mpr ⟨_, hfinals, ?_⟩
  refine bind_eq_ok_iff.mpr ⟨_, hhosts, ?_⟩
  exact bind_eq_ok_iff.mpr ⟨_, hhops, rfl⟩

/-- **ROUND TRIP**: the encoded body of a decoded policy decodes to the policy,
    whatever publication input carries it. -/
theorem decode_encode_policy (hlower : LowerCaseKeepsDnsNames js) (hempty : EmptyIsNoUrl js)
    {input : PolicyDecoding.ArtifactPublicationInput} {policy : DestinationPolicyProjection}
    (hread : destinationPolicyProjectionFromArtifactPublicationInput js input = .ok policy)
    (envelope : PolicyDecoding.ArtifactPublicationInput) :
    destinationPolicyProjectionFromArtifactPublicationInput js
      { envelope with body := destinationPolicyArtifactBody policy } = .ok policy :=
  policy_again hlower hread (valid_of_decoded hlower hempty hread) rfl

/-- The checkout policy: its encoding is read back under every envelope. -/
theorem decode_encode_policy_checkout :
    ∃ policy, destinationPolicyProjectionFromArtifactPublicationInput checkoutPlanning.js
        (decoderInput checkoutPlanning checkoutInput) = .ok policy
      ∧ ∀ envelope : PolicyDecoding.ArtifactPublicationInput,
        destinationPolicyProjectionFromArtifactPublicationInput checkoutPlanning.js
          { envelope with body := destinationPolicyArtifactBody policy } = .ok policy := by
  have hread : (destinationPolicyProjectionFromArtifactPublicationInput checkoutPlanning.js
      (decoderInput checkoutPlanning checkoutInput)).isOk = true := by decide +kernel
  obtain ⟨policy, hpolicy⟩ := exists_ok_of_isOk hread
  have hlower : LowerCaseKeepsDnsNames checkoutPlanning.js := fun _ _ => rfl
  have hempty : EmptyIsNoUrl checkoutPlanning.js := by
    show checkoutUrls.find? (·.href = "") = none
    decide
  exact ⟨policy, hpolicy, decode_encode_policy hlower hempty hpolicy⟩

end DestinationPolicyPublication
