import QrTrust.Network.BundlePublicationProofs
import QrTrust.Network.DestinationPolicyPublication
import QrTrust.Network.PublicationGateProofs
import QrTrust.Network.SignedPublicationProofs
import QrTrust.Network.SyncAcceptanceProofs

/-! # What the gated publication keeps of a policy

    The projection survives the detour: decoding the encoded body gives the
    projection back.  The signature and the runtime-safety policy do not, so a
    verifier that asks for a signer never accepts what the gated service
    publishes (`gated_publication_faithful_iff`). -/

namespace DestinationPolicyPublication

open VerifierCache VerifierSync DomainProof PublicationGate GovernancePublicationSource
  BundlePublication PolicyDecodingProofs SyncGate SyncAcceptance SignatureVerification JsString
  Fallible
open PolicyDecoding hiding ArtifactPublicationInput
open GovernancePublication (ArtifactPublicationInput)

/-- Documented behaviour of the host: a DNS name in lower case is its own lower
    case. -/
def LowerCaseKeepsDnsNames (js : JsRuntime) : Prop :=
  ∀ name, isDnsName name = true → js.toLowerCase name = name

variable {js : JsRuntime} {v : Option JsonValue} {field : String} {s : String}

/-! ## Checked values pass again -/

theorem noSpace_of_isDnsName (h : isDnsName s = true) : NoSpace s := by
  simp only [isDnsName, Bool.and_eq_true, Bool.not_eq_true'] at h
  obtain ⟨⟨-, hspace⟩, -⟩ := h
  intro c hc
  exact Bool.eq_false_iff.mpr fun hspaceC =>
    absurd (List.any_eq_true.mpr ⟨c, hc, hspaceC⟩) (Bool.eq_false_iff.mp hspace)

/-- A DNS name has a label after its last dot. -/
theorem dropTrailingDot_of_isDnsName (h : isDnsName s = true) : dropTrailingDot s = s := by
  simp only [isDnsName, Bool.and_eq_true] at h
  obtain ⟨-, hlabels⟩ := h
  apply String.toList_inj.mp
  rw [toList_dropTrailingDot, if_neg]
  rintro ⟨front, hfront⟩
  have hempty : [] ∈ s.toList.splitOn '.' := by
    rw [← hfront, List.splitOn, List.splitOnP_append_cons _ _ (by simp)]
    simp
  exact absurd (List.all_eq_true.mp hlabels [] hempty) (by decide)

/-- Normalising a DNS name again changes nothing. -/
theorem normalizeHost_of_isDnsName (hlower : LowerCaseKeepsDnsNames js) (h : isDnsName s = true) :
    normalizeHost js s = s := by
  rw [normalizeHost, trim_of_noSpace (noSpace_of_isDnsName h), dropTrailingDot_of_isDnsName h,
    hlower s h]

theorem stringValue_again (h : stringValue v field = .ok s) :
    stringValue (some (.str s)) field = .ok s := by
  obtain ⟨rfl, -⟩ := stringValue_ok h
  exact h

theorem literalStringValue_again {allowed : List String}
    (h : literalStringValue v field allowed = .ok s) :
    literalStringValue (some (.str s)) field allowed = .ok s := by
  obtain rfl := literalStringValue_ok h
  exact h

theorem nonNegativeIntegerValue_again {n : Rat} (h : nonNegativeIntegerValue v field = .ok n) :
    nonNegativeIntegerValue (some (.num n)) field = .ok n := by
  obtain rfl := nonNegativeIntegerValue_ok h
  exact h

theorem httpsUrlValue_trim {raw : String} (h : httpsUrlValue js (some (.str raw)) field = .ok s) :
    s = trim raw := by
  obtain ⟨text, htext, h⟩ := bind_eq_ok_iff.mp h
  obtain ⟨heq, -⟩ := stringValue_ok htext
  obtain rfl := JsonValue.str.inj (Option.some.inj heq)
  dsimp only at h
  split at h
  · cases h
  · split at h
    · cases h
    · split at h
      · cases h
      · exact (Except.ok.inj h).symm

/-- A URL that was read and is read again is itself. -/
theorem httpsUrlValue_again {s' : String} (h : httpsUrlValue js v field = .ok s)
    (hagain : httpsUrlValue js (some (.str s)) field = .ok s') :
    httpsUrlValue js (some (.str s)) field = .ok s := by
  obtain ⟨raw, rfl⟩ := httpsUrlValue_ok h
  obtain rfl := httpsUrlValue_trim h
  rw [httpsUrlValue_trim hagain, trim_trim] at hagain
  exact hagain

theorem pathPrefixValue_trim {raw : String} (h : pathPrefixValue (some (.str raw)) field = .ok s) :
    s = trim raw := by
  obtain ⟨text, htext, h⟩ := bind_eq_ok_iff.mp h
  obtain ⟨heq, -⟩ := stringValue_ok htext
  obtain rfl := JsonValue.str.inj (Option.some.inj heq)
  dsimp only at h
  split at h
  · exact (Except.ok.inj h).symm
  · cases h

/-- A path that was read and is read again is itself. -/
theorem pathPrefixValue_again {s' : String} (h : pathPrefixValue v field = .ok s)
    (hagain : pathPrefixValue (some (.str s)) field = .ok s') :
    pathPrefixValue (some (.str s)) field = .ok s := by
  obtain ⟨raw, rfl⟩ := pathPrefixValue_ok h
  obtain rfl := pathPrefixValue_trim h
  rw [pathPrefixValue_trim hagain, trim_trim] at hagain
  exact hagain

/-- A host name that was read is read again as itself. -/
theorem hostnameValue_again (hlower : LowerCaseKeepsDnsNames js)
    (h : hostnameValue js v field = .ok s) : hostnameValue js (some (.str s)) field = .ok s := by
  obtain ⟨raw, -, h⟩ := bind_eq_ok_iff.mp h
  dsimp only at h
  split at h
  · rename_i hname
    obtain rfl := Except.ok.inj h
    have hne : normalizeHost js raw ≠ "" := by
      intro hempty
      rw [hempty] at hname
      exact absurd hname (by decide)
    refine bind_eq_ok_iff.mpr ⟨normalizeHost js raw, if_pos hne, ?_⟩
    rw [normalizeHost_of_isDnsName hlower hname]
    exact if_pos hname
  · cases h

/-- A list of strings whose checks give them back is read back. -/
theorem strings_again {check : JsonValue → Except String String} {items : List JsonValue}
    {values : List String} (hread : items.mapM check = .ok values)
    (hagain : ∀ item value, check item = .ok value → value ∈ values →
      check (.str value) = .ok value) :
    (values.map JsonValue.str).mapM check = .ok values := by
  refine mapM_eq_ok_iff.mpr ?_
  rw [List.forall₂_map_left_iff, List.forall₂_same]
  intro value hvalue
  obtain ⟨item, -, hitem⟩ := exists_source_of_mapM_eq_ok hread hvalue
  exact hagain item value hitem hvalue

theorem httpsUrls_again {items : List JsonValue} {urls checked : List String}
    (hread : (items.mapM fun url => httpsUrlValue js (some url) field) = .ok urls)
    (hvalid : (urls.mapM fun url => httpsUrlValue js (some (.str url)) field) = .ok checked) :
    ((urls.map JsonValue.str).mapM fun url => httpsUrlValue js (some url) field) = .ok urls := by
  refine strings_again hread fun _ _ hitem hmem => ?_
  obtain ⟨_, -, hchecked⟩ := exists_of_mapM_eq_ok hvalid hmem
  exact httpsUrlValue_again hitem hchecked

theorem pathPrefixes_again {items : List JsonValue} {paths checked : List String}
    (hread : (items.mapM fun path => pathPrefixValue (some path) field) = .ok paths)
    (hvalid : (paths.mapM fun path => pathPrefixValue (some (.str path)) field) = .ok checked) :
    ((paths.map JsonValue.str).mapM fun path => pathPrefixValue (some path) field)
      = .ok paths := by
  refine strings_again hread fun _ _ hitem hmem => ?_
  obtain ⟨_, -, hchecked⟩ := exists_of_mapM_eq_ok hvalid hmem
  exact pathPrefixValue_again hitem hchecked

theorem hostnames_again (hlower : LowerCaseKeepsDnsNames js) {items : List JsonValue}
    {hosts : List String}
    (hread : (items.mapM fun host => hostnameValue js (some host) field) = .ok hosts) :
    ((hosts.map JsonValue.str).mapM fun host => hostnameValue js (some host) field)
      = .ok hosts :=
  strings_again hread fun _ _ hitem _ => hostnameValue_again hlower hitem

/-! ## The projection is read back -/

/-- The query keys of a rule are read back, or left out again. -/
theorem queryKeys_again {value : JsonValue} {rule : DestinationPolicyRule}
    (hread : optionalStringArrayProperty value "allowed_query_keys" = .ok rule.allowedQueryKeys) :
    optionalStringArrayProperty (ruleBody rule) "allowed_query_keys"
      = .ok rule.allowedQueryKeys := by
  rw [ruleBody]
  cases hkeys : rule.allowedQueryKeys with
  | none => rfl
  | some keys =>
      rw [hkeys, optionalStringArrayProperty] at hread
      split at hread
      · cases hread
      · obtain ⟨items, -, hread⟩ := bind_eq_ok_iff.mp hread
        obtain ⟨keys', hmapped, hread⟩ := bind_eq_ok_iff.mp hread
        obtain rfl := Option.some.inj (Except.ok.inj hread)
        have hagain := strings_again hmapped fun _ _ hitem _ => stringValue_again hitem
        exact bind_eq_ok_iff.mpr ⟨_, rfl, bind_eq_ok_iff.mpr ⟨_, hagain, rfl⟩⟩

theorem prop_ruleBody (rule : DestinationPolicyRule) {key : String} {value : JsonValue}
    (h : (JsonValue.obj
      [("destination_id", .str rule.destinationId),
       ("expected_final_url", .str rule.expectedFinalUrl),
       ("allowed_hosts", stringsValue rule.allowedHosts),
       ("allow_subdomains", .bool rule.allowSubdomains),
       ("path_prefixes", stringsValue rule.pathPrefixes),
       ("query_policy", .str rule.queryPolicy)]).prop key = some value) :
    (ruleBody rule).prop key = some value := by
  obtain ⟨field, hfield, hvalue⟩ := Option.map_eq_some_iff.mp h
  rw [ruleBody, JsonValue.prop, List.find?_append, hfield]
  exact congrArg some hvalue

/-- A rule that was read and passes its checks is read back. -/
theorem rule_again (hlower : LowerCaseKeepsDnsNames js) {value : JsonValue}
    {rule : DestinationPolicyRule} (hread : destinationPolicyRuleFromUnknown js value = .ok rule)
    (hvalid : validateDestinationRule js rule = .ok ()) :
    destinationPolicyRuleFromUnknown js (ruleBody rule) = .ok rule := by
  obtain ⟨body, -, h⟩ := bind_eq_ok_iff.mp hread
  obtain ⟨id, hid, h⟩ := bind_eq_ok_iff.mp h
  obtain ⟨url, hurl, h⟩ := bind_eq_ok_iff.mp h
  obtain ⟨_, -, h⟩ := bind_eq_ok_iff.mp h
  obtain ⟨hosts, hhosts, h⟩ := bind_eq_ok_iff.mp h
  obtain ⟨subdomains, -, h⟩ := bind_eq_ok_iff.mp h
  obtain ⟨_, -, h⟩ := bind_eq_ok_iff.mp h
  obtain ⟨paths, hpaths, h⟩ := bind_eq_ok_iff.mp h
  obtain ⟨query, hquery, h⟩ := bind_eq_ok_iff.mp h
  obtain ⟨keys, hkeys, h⟩ := bind_eq_ok_iff.mp h
  obtain rfl := Except.ok.inj h
  obtain ⟨_, -, hvalid⟩ := bind_eq_ok_iff.mp hvalid
  obtain ⟨_, hurlValid, hvalid⟩ := bind_eq_ok_iff.mp hvalid
  obtain ⟨_, -, hvalid⟩ := bind_eq_ok_iff.mp hvalid
  obtain ⟨_, hpathsValid, -⟩ := bind_eq_ok_iff.mp hvalid
  have hfield : ∀ {key : String} {value : JsonValue}, _ → (ruleBody _).prop key = some value :=
    prop_ruleBody ⟨id, url, hosts, subdomains, paths, query, keys⟩
  refine bind_eq_ok_iff.mpr ⟨ruleBody ⟨id, url, hosts, subdomains, paths, query, keys⟩, rfl, ?_⟩
  refine bind_eq_ok_iff.mpr ⟨id, by rw [hfield rfl]; exact stringValue_again hid, ?_⟩
  refine bind_eq_ok_iff.mpr ⟨url, by rw [hfield rfl]; exact httpsUrlValue_again hurl hurlValid, ?_⟩
  refine bind_eq_ok_iff.mpr ⟨hosts.map .str, by rw [hfield rfl]; rfl, ?_⟩
  refine bind_eq_ok_iff.mpr ⟨hosts, hostnames_again hlower hhosts, ?_⟩
  refine bind_eq_ok_iff.mpr ⟨subdomains, by rw [hfield rfl]; rfl, ?_⟩
  refine bind_eq_ok_iff.mpr ⟨paths.map .str, by rw [hfield rfl]; rfl, ?_⟩
  refine bind_eq_ok_iff.mpr ⟨paths, pathPrefixes_again hpaths hpathsValid, ?_⟩
  refine bind_eq_ok_iff.mpr ⟨query, by rw [hfield rfl]; exact literalStringValue_again hquery, ?_⟩
  exact bind_eq_ok_iff.mpr ⟨_, queryKeys_again hkeys, rfl⟩

/-- A redirect policy that was read and passes its checks is read back. -/
theorem redirectPolicy_again (hlower : LowerCaseKeepsDnsNames js)
    {redirect : RedirectPolicyProjection}
    (hread : PolicyDecoding.redirectPolicyFromUnknown js v = .ok redirect)
    {resolvers finals : List String}
    (hresolversValid : (redirect.resolverUrls.mapM fun url =>
      httpsUrlValue js (some (.str url)) "resolver_urls[]") = .ok resolvers)
    (hfinalsValid : (redirect.expectedFinalDestinations.mapM fun url =>
      httpsUrlValue js (some (.str url)) "expected_final_destinations[]") = .ok finals) :
    PolicyDecoding.redirectPolicyFromUnknown js (some (redirectPolicyBody redirect))
      = .ok redirect := by
  obtain ⟨_, -, h⟩ := bind_eq_ok_iff.mp hread
  obtain ⟨_, -, h⟩ := bind_eq_ok_iff.mp h
  obtain ⟨resolverUrls, hresolvers, h⟩ := bind_eq_ok_iff.mp h
  obtain ⟨_, -, h⟩ := bind_eq_ok_iff.mp h
  obtain ⟨finalUrls, hfinals, h⟩ := bind_eq_ok_iff.mp h
  obtain ⟨_, -, h⟩ := bind_eq_ok_iff.mp h
  obtain ⟨hosts, hhosts, h⟩ := bind_eq_ok_iff.mp h
  obtain ⟨hops, hhops, h⟩ := bind_eq_ok_iff.mp h
  obtain ⟨nested, -, h⟩ := bind_eq_ok_iff.mp h
  obtain ⟨display, -, h⟩ := bind_eq_ok_iff.mp h
  obtain rfl := Except.ok.inj h
  refine bind_eq_ok_iff.mpr ⟨_, rfl, ?_⟩
  refine bind_eq_ok_iff.mpr ⟨resolverUrls.map .str, rfl, ?_⟩
  refine bind_eq_ok_iff.mpr ⟨resolverUrls, httpsUrls_again hresolvers hresolversValid, ?_⟩
  refine bind_eq_ok_iff.mpr ⟨finalUrls.map .str, rfl, ?_⟩
  refine bind_eq_ok_iff.mpr ⟨finalUrls, httpsUrls_again hfinals hfinalsValid, ?_⟩
  refine bind_eq_ok_iff.mpr ⟨hosts.map .str, rfl, ?_⟩
  refine bind_eq_ok_iff.mpr ⟨hosts, hostnames_again hlower hhosts, ?_⟩
  refine bind_eq_ok_iff.mpr ⟨hops, nonNegativeIntegerValue_again hhops, ?_⟩
  exact bind_eq_ok_iff.mpr ⟨nested, rfl, bind_eq_ok_iff.mpr ⟨display, rfl, rfl⟩⟩

theorem rules_again (hlower : LowerCaseKeepsDnsNames js) {values : List JsonValue}
    {rules : List DestinationPolicyRule} {checked : List Unit}
    (hread : values.mapM (destinationPolicyRuleFromUnknown js) = .ok rules)
    (hvalid : rules.mapM (validateDestinationRule js) = .ok checked) :
    (rules.map ruleBody).mapM (destinationPolicyRuleFromUnknown js) = .ok rules := by
  refine mapM_eq_ok_iff.mpr ?_
  rw [List.forall₂_map_left_iff, List.forall₂_same]
  intro rule hrule
  obtain ⟨value, -, hvalue⟩ := exists_source_of_mapM_eq_ok hread hrule
  obtain ⟨_, -, hchecked⟩ := exists_of_mapM_eq_ok hvalid hrule
  exact rule_again hlower hvalue hchecked

/-- What fills a scope field that a body leaves out is never empty. -/
theorem scopeValue_nonempty {body : JsonValue} {fallback : Option String} {key value : String}
    (h : scopeValue body fallback key = .ok value) : value ≠ "" :=
  (stringValue_ok h).2

theorem publicationDate_nonempty {publication : Option JsonValue} {occurredAt key value : String}
    (h : publicationDate js publication occurredAt key = .ok value) : value ≠ "" := by
  rw [publicationDate] at h
  split at h
  · exact (stringValue_ok h).2
  · split at h
    · cases h
    · exact (stringValue_ok h).2

/-- **READ BACK**: a policy that was read and passes the checks of the service is
    what its encoded body decodes to, whatever event carries it. -/
theorem policy_again (hlower : LowerCaseKeepsDnsNames js)
    {input input' : PolicyDecoding.ArtifactPublicationInput} {policy : DestinationPolicyProjection}
    (hread : destinationPolicyProjectionFromArtifactPublicationInput js input = .ok policy)
    (hvalid : validateDestinationPolicyProjection js policy = .ok ())
    (hbody : input'.body = destinationPolicyArtifactBody policy) :
    destinationPolicyProjectionFromArtifactPublicationInput js input' = .ok policy := by
  obtain ⟨_, -, h⟩ := bind_eq_ok_iff.mp hread
  obtain ⟨_, -, h⟩ := bind_eq_ok_iff.mp h
  obtain ⟨rules, hrules, h⟩ := bind_eq_ok_iff.mp h
  obtain ⟨redirect, hredirect, h⟩ := bind_eq_ok_iff.mp h
  obtain ⟨root, hroot, h⟩ := bind_eq_ok_iff.mp h
  obtain ⟨authority, hauthority, h⟩ := bind_eq_ok_iff.mp h
  obtain ⟨issuer, hissuer, h⟩ := bind_eq_ok_iff.mp h
  obtain ⟨_, -, h⟩ := bind_eq_ok_iff.mp h
  obtain ⟨id, hid, h⟩ := bind_eq_ok_iff.mp h
  obtain ⟨generated, hgenerated, h⟩ := bind_eq_ok_iff.mp h
  obtain ⟨expires, hexpires, h⟩ := bind_eq_ok_iff.mp h
  obtain rfl := Except.ok.inj h
  obtain ⟨_, hrulesValid, hvalid⟩ := bind_eq_ok_iff.mp hvalid
  obtain ⟨_, hresolversValid, hvalid⟩ := bind_eq_ok_iff.mp hvalid
  obtain ⟨_, hfinalsValid, -⟩ := bind_eq_ok_iff.mp hvalid
  refine bind_eq_ok_iff.mpr ⟨_, by rw [hbody]; rfl, ?_⟩
  refine bind_eq_ok_iff.mpr ⟨rules.map ruleBody, rfl, ?_⟩
  refine bind_eq_ok_iff.mpr ⟨rules, rules_again hlower hrules hrulesValid, ?_⟩
  refine bind_eq_ok_iff.mpr ⟨redirect,
    redirectPolicy_again hlower hredirect hresolversValid hfinalsValid, ?_⟩
  refine bind_eq_ok_iff.mpr ⟨root, if_pos (scopeValue_nonempty hroot), ?_⟩
  refine bind_eq_ok_iff.mpr ⟨authority, if_pos (scopeValue_nonempty hauthority), ?_⟩
  refine bind_eq_ok_iff.mpr ⟨issuer, if_pos (scopeValue_nonempty hissuer), ?_⟩
  refine bind_eq_ok_iff.mpr ⟨_, rfl, ?_⟩
  refine bind_eq_ok_iff.mpr ⟨id, if_pos (scopeValue_nonempty hid), ?_⟩
  refine bind_eq_ok_iff.mpr ⟨generated, if_pos (publicationDate_nonempty hgenerated), ?_⟩
  exact bind_eq_ok_iff.mpr ⟨expires, if_pos (publicationDate_nonempty hexpires), rfl⟩

/-! ## The encoded body and the verifier -/

theorem stringArrayField_stringsValue {body : JsonValue} {key : String} {values : List String}
    (h : body.prop key = some (stringsValue values)) : (body.stringArrayField key).isSome := by
  rw [JsonValue.stringArrayField, JsonValue.arrayField, h]
  show ((values.map JsonValue.str).mapM JsonValue.asString).isSome = true
  clear h
  induction values with
  | nil => rfl
  | cons value rest ih =>
      obtain ⟨strings, hstrings⟩ := Option.isSome_iff_exists.mp ih
      rw [List.map_cons, List.mapM_cons, hstrings]
      rfl

theorem isDestinationPolicyDestination_ruleBody (rule : DestinationPolicyRule) :
    isDestinationPolicyDestination (ruleBody rule) = true := by
  have hkeys : isOptionalStringArray ((ruleBody rule).prop "allowed_query_keys") = true := by
    rw [ruleBody]
    cases rule.allowedQueryKeys with
    | none => rfl
    | some keys =>
        exact stringArrayField_stringsValue
          (show (JsonValue.obj [("keys", stringsValue keys)]).prop "keys" = _ from rfl)
  have hsubdomains : ((ruleBody rule).boolField "allow_subdomains").isSome = true := by
    rw [JsonValue.boolField, prop_ruleBody rule rfl]
    rfl
  rw [isDestinationPolicyDestination, stringField_eq_some (prop_ruleBody rule rfl),
    stringField_eq_some (prop_ruleBody rule rfl),
    stringArrayField_stringsValue (prop_ruleBody rule rfl), hsubdomains,
    stringArrayField_stringsValue (prop_ruleBody rule rfl),
    stringField_eq_some (prop_ruleBody rule rfl), hkeys]
  rfl

/-- Every encoded body is recognised, so that its signature is demanded. -/
theorem recognized_encoded (policy : DestinationPolicyProjection) :
    isRecognizedTrustArtifact (destinationPolicyArtifactBody policy) = true := by
  have hrules : (policy.approvedDestinations.map ruleBody).all isDestinationPolicyDestination
      = true := by
    rw [List.all_map, List.all_eq_true]
    exact fun rule _ => isDestinationPolicyDestination_ruleBody rule
  have hredirect : isRedirectPolicy (redirectPolicyBody policy.redirectPolicy) = true := by
    rw [isRedirectPolicy, stringArrayField_stringsValue rfl, stringArrayField_stringsValue rfl,
      stringArrayField_stringsValue rfl]
    rfl
  have hguard : isDestinationPolicyArtifactBody (destinationPolicyArtifactBody policy)
      = (true && true && true && true && true
        && (policy.approvedDestinations.map ruleBody).all isDestinationPolicyDestination
        && isRedirectPolicy (redirectPolicyBody policy.redirectPolicy) && true) := rfl
  rw [isRecognizedTrustArtifact, hguard, hrules, hredirect]
  simp

theorem encoded_type (policy : DestinationPolicyProjection) :
    hasArtifactType (destinationPolicyArtifactBody policy) "destination_policy" = true := rfl

/-- The scope of an encoded body is not looked at. -/
theorem scope_encoded (policy : DestinationPolicyProjection) :
    trustArtifactScopeMatchesBody (destinationPolicyArtifactBody policy) = true := by
  rw [trustArtifactScopeMatchesBody, rootManifest_none (encoded_type policy) (by decide),
    authorityManifest_none (encoded_type policy) (by decide),
    issuerRecord_none (encoded_type policy) (by decide)]

/-- **NO SIGNER**: an encoded body names none at its top, so the lookup of the
    cryptographic verifier finds no key, whatever the registry. -/
theorem encoded_rejected (host : SignatureHost)
    (lookup : Option TrustKeys.TrustKeyRegistry → TrustKeys.TrustKeyLookupInput →
      TrustKeys.TrustKeyLookupResult)
    (keyMaterial : KeyMaterialProvider) (registry : Option TrustKeys.TrustKeyRegistry)
    (policy : DestinationPolicyProjection) :
    asCollaborator host lookup keyMaterial registry (destinationPolicyArtifactBody policy)
      = ⟨false, "key_not_found"⟩ := rfl

/-! ## The two publications -/

variable {planning : PlanningHost}
  {verify : Option TrustKeys.TrustKeyRegistry → JsonValue → SignatureVerificationResult}

/-- `syncRecent`, where it meets the event in this state, accepts its artifact
    and projects it to the policy. -/
def Projects (planning : PlanningHost)
    (verify : Option TrustKeys.TrustKeyRegistry → JsonValue → SignatureVerificationResult)
    (network : Network) (s : SyncState) (event : NetworkEvent)
    (policy : DestinationPolicyProjection) : Prop :=
  .cacheCall (.upsertDestinationPolicy policy)
    ∈ (planEvent (network.service verify planning) s event).actions

theorem scopeValue_truthy (body : JsonValue) (fallback : Option String) (key : String) :
    scopeValue body (truthy fallback) key = scopeValue body fallback key := by
  rw [scopeValue, scopeValue]
  cases body.nonNull key with
  | some value => rfl
  | none =>
      cases fallback with
      | none => rfl
      | some s =>
          by_cases hs : s = ""
          · subst hs
            rfl
          · rw [truthy, Option.filter_some, if_pos (decide_eq_true hs)]

/-- The sync service decodes the published body as the gate did. -/
theorem decode_published (planning : PlanningHost) (input : ArtifactPublicationInput) :
    destinationPolicyProjectionFromArtifactPublicationInput planning.js
        (publicationInputOfEvent input.body (publicationEvent planning input))
      = destinationPolicyProjectionFromArtifactPublicationInput planning.js
        (decoderInput planning input) := by
  simp only [destinationPolicyProjectionFromArtifactPublicationInput, publicationInputOfEvent,
    publicationEvent, scopeValue_truthy]
  rfl

/-- Published directly, the input is accepted and projects to the policy. -/
def ProjectsDirectly (planning : PlanningHost)
    (verify : Option TrustKeys.TrustKeyRegistry → JsonValue → SignatureVerificationResult)
    (network : Network) (s : SyncState) (input : ArtifactPublicationInput)
    (policy : DestinationPolicyProjection) : Prop :=
  ∃ result direct, makeArtifactPublicationService planning network input = (.ok result, direct)
    ∧ Projects planning verify direct s result.event policy

/-- **FAITHFUL**: what was published behind the gate is accepted and projects to
    the same policy, with the runtime-safety policy of the body that came in. -/
structure Faithful (planning : PlanningHost)
    (verify : Option TrustKeys.TrustKeyRegistry → JsonValue → SignatureVerificationResult)
    (gated : Network) (s : SyncState) (result : ArtifactPublicationResult)
    (policy : DestinationPolicyProjection) (body : JsonValue) : Prop where
  projects : Projects planning verify gated s result.event policy
  runtimeSafety :
    result.artifact.body.prop "runtime_safety_policy" = body.prop "runtime_safety_policy"

variable {network gated : Network} {input : ArtifactPublicationInput}
  {policy : DestinationPolicyProjection} {result : ArtifactPublicationResult}
  {contextResolver : ContextResolver}

/-- What the plain service does where it succeeds. -/
theorem plain_ok
    (h : makeArtifactPublicationService planning network input = (.ok result, gated)) :
    result = ⟨storedArtifact planning.js input, publicationEvent planning input⟩
      ∧ gated = network.publishArtifact planning input := by
  rw [makeArtifactPublicationService] at h
  split at h
  · cases h
  · obtain ⟨hresult, rfl⟩ := Prod.mk.inj h
    exact ⟨(Except.ok.inj hresult).symm, rfl⟩

/-- The artifact that was published last is what its event fetches. -/
theorem fetched_published (hprocessed : input.eventType ≠ "scanner.decision.recorded") :
    Fetched ((network.publishArtifact planning input).service verify planning)
      (publicationEvent planning input) (storedArtifact planning.js input) where
  processed := hprocessed
  stored := OrderedMap.get?_set_self ..
  hashed := by
    rw [hashesMatch, Bool.and_eq_true, decide_eq_true_eq, decide_eq_true_eq]
    exact ⟨rfl, rfl⟩

/-- A policy that is projected directly is the one the input decodes to. -/
theorem decode_direct {s : SyncState} (h : ProjectsDirectly planning verify network s input policy) :
    destinationPolicyProjectionFromArtifactPublicationInput planning.js
      (decoderInput planning input) = .ok policy := by
  obtain ⟨result, direct, hpublished, hprojects⟩ := h
  obtain ⟨rfl, rfl⟩ := plain_ok hpublished
  obtain ⟨artifact, hfetched, hpolicy⟩ := planned_policy hprojects
  have hstored : some (storedArtifact planning.js input) = some artifact :=
    (OrderedMap.get?_set_self ..).symm.trans hfetched.stored
  obtain rfl := Option.some.inj hstored
  rw [← decode_published]
  exact (projectedPolicy_eq_some hpolicy).2

/-- What the gated service publishes, where it succeeds: the projection of the
    input, encoded. -/
theorem gated_ok (htype : input.artifactType = "destination_policy")
    (h : makeDestinationPolicyAwareArtifactPublicationService planning
      (makeArtifactPublicationService planning) contextResolver network input
        = (.ok result, gated))
    (hdecode : destinationPolicyProjectionFromArtifactPublicationInput planning.js
      (decoderInput planning input) = .ok policy) :
    validateDestinationPolicyProjection planning.js policy = .ok ()
      ∧ ∃ published : ArtifactPublicationInput,
          published.body = destinationPolicyArtifactBody policy
            ∧ published.eventType = "destination.policy.published"
            ∧ result = ⟨storedArtifact planning.js published, publicationEvent planning published⟩
            ∧ gated = network.publishArtifact planning published := by
  rw [makeDestinationPolicyAwareArtifactPublicationService] at h
  rw [if_neg (not_not_intro htype), hdecode] at h
  dsimp only at h
  split at h
  · cases h
  · rw [publishDestinationPolicy] at h
    dsimp only at h
    split at h
    · cases h
    · rename_i hvalid
      split at h
      · cases h
      · split at h
        · obtain ⟨rfl, rfl⟩ := plain_ok h
          exact ⟨hvalid, _, rfl, rfl, rfl, rfl⟩
        · cases h

/-- An encoded policy is fetched under the event that announces it. -/
theorem fetched_encoded {published : ArtifactPublicationInput}
    (hevent : published.eventType = "destination.policy.published") :
    Fetched ((network.publishArtifact planning published).service verify planning)
      (publicationEvent planning published) (storedArtifact planning.js published) :=
  fetched_published (by rw [hevent]; decide)

/-- A published encoded policy is projected only if the verifier accepts its
    body, which nobody signed. -/
theorem accepted_of_projects {published : ArtifactPublicationInput} {s : SyncState}
    (hbody : published.body = destinationPolicyArtifactBody policy)
    (hevent : published.eventType = "destination.policy.published")
    (hprojects : Projects planning verify (network.publishArtifact planning published) s
      (publicationEvent planning published) policy) :
    (verify s.trustKeyRegistry (destinationPolicyArtifactBody policy)).accepted = true := by
  have hfetched := @fetched_encoded planning verify network published hevent
  rw [← hbody]
  rcases planned_call hprojects with ⟨artifact, haccepted, -⟩ | ⟨artifact, _, hother, hnot, -⟩
  · obtain rfl := hfetched.unique haccepted.fetched
    exact haccepted.verified
  · obtain rfl := hfetched.unique hother
    have hrecognized : isRecognizedTrustArtifact published.body = true := by
      rw [hbody]
      exact recognized_encoded policy
    exact absurd hrecognized (Bool.eq_false_iff.mp hnot)

/-- And if the verifier accepts that body, it is projected to the policy. -/
theorem projects_of_accepted (hlower : LowerCaseKeepsDnsNames planning.js)
    {published : ArtifactPublicationInput} {s : SyncState}
    (hbody : published.body = destinationPolicyArtifactBody policy)
    (hevent : published.eventType = "destination.policy.published")
    (hdecode : destinationPolicyProjectionFromArtifactPublicationInput planning.js
      (decoderInput planning input) = .ok policy)
    (hvalid : validateDestinationPolicyProjection planning.js policy = .ok ())
    (hverified : (verify s.trustKeyRegistry (destinationPolicyArtifactBody policy)).accepted
      = true) :
    Projects planning verify (network.publishArtifact planning published) s
      (publicationEvent planning published) policy := by
  have hagain := @policy_again planning.js hlower _
    (publicationInputOfEvent published.body (publicationEvent planning published)) policy
    hdecode hvalid hbody
  have hprojected : projectedPolicy planning.js published.body (publicationEvent planning published)
      = some policy := by
    have htype : artifactBodyTypeIs published.body "destination_policy" = true := by
      rw [hbody]
      rfl
    rw [projectedPolicy, destinationPolicyProjectionFromArtifact, if_pos htype, Option.bind_some]
    exact congrArg Except.toOption hagain
  have haccepted : Accepted ((network.publishArtifact planning published).service verify planning)
      s (publicationEvent planning published) (storedArtifact planning.js published) :=
    { fetched := fetched_encoded hevent
      recognized := by
        show isRecognizedTrustArtifact published.body = true
        rw [hbody]
        exact recognized_encoded policy
      verified := by
        show (verify s.trustKeyRegistry published.body).accepted = true
        rw [hbody]
        exact hverified
      scope := by
        show trustArtifactScopeMatchesBody published.body = true
        rw [hbody]
        exact scope_encoded policy }
  exact haccepted.planned (mem_projectionCalls.mpr (.inr (.inr (.inr (.inl
    ⟨policy, hprojected, rfl⟩)))))

/-- **NEVER**: under the cryptographic verifier, whatever its keys, nothing the
    gated service publishes is faithful. -/
theorem never_faithful {host : SignatureHost}
    {lookup : Option TrustKeys.TrustKeyRegistry → TrustKeys.TrustKeyLookupInput →
      TrustKeys.TrustKeyLookupResult}
    {keyMaterial : KeyMaterialProvider} {s s' : SyncState}
    (htype : input.artifactType = "destination_policy")
    (hdirect : ProjectsDirectly planning (asCollaborator host lookup keyMaterial) network s input
      policy)
    (hgated : makeDestinationPolicyAwareArtifactPublicationService planning
      (makeArtifactPublicationService planning) contextResolver network input
        = (.ok result, gated)) :
    ¬ Faithful planning (asCollaborator host lookup keyMaterial) gated s' result policy
      input.body := by
  intro h
  obtain ⟨-, published, hbody, hevent, rfl, rfl⟩ := gated_ok htype hgated (decode_direct hdirect)
  have haccepted := accepted_of_projects hbody hevent h.projects
  rw [encoded_rejected] at haccepted
  exact Bool.noConfusion haccepted

/-- **THE DETOUR**: what the gated service publishes is faithful exactly when the
    verifier accepts the encoded body, unsigned as it is, and the body that came
    in has the one runtime-safety policy that every encoded body gets.  The
    cryptographic verifier never accepts it. -/
theorem gated_publication_faithful_iff (hlower : LowerCaseKeepsDnsNames planning.js)
    (verify : Option TrustKeys.TrustKeyRegistry → JsonValue → SignatureVerificationResult)
    (contextResolver : ContextResolver) (network gated : Network) (s s' : SyncState)
    (input : ArtifactPublicationInput) (policy : DestinationPolicyProjection)
    (result : ArtifactPublicationResult)
    (htype : input.artifactType = "destination_policy")
    (hdirect : ProjectsDirectly planning verify network s input policy)
    (hgated : makeDestinationPolicyAwareArtifactPublicationService planning
      (makeArtifactPublicationService planning) contextResolver network input
        = (.ok result, gated)) :
    (Faithful planning verify gated s' result policy input.body ↔
      (verify s'.trustKeyRegistry (destinationPolicyArtifactBody policy)).accepted = true
        ∧ input.body.prop "runtime_safety_policy" = some fixedRuntimeSafetyPolicy)
      ∧ ∀ host lookup keyMaterial, verify = asCollaborator host lookup keyMaterial →
          ¬ Faithful planning verify gated s' result policy input.body := by
  constructor
  · have hdecode := decode_direct hdirect
    obtain ⟨hvalid, published, hbody, hevent, rfl, rfl⟩ := gated_ok htype hgated hdecode
    have hfixed : (storedArtifact planning.js published).body.prop "runtime_safety_policy"
        = some fixedRuntimeSafetyPolicy := by
      show published.body.prop "runtime_safety_policy" = _
      rw [hbody]
      rfl
    constructor
    · intro h
      exact ⟨accepted_of_projects hbody hevent h.projects, h.runtimeSafety.symm.trans hfixed⟩
    · rintro ⟨haccepted, hruntime⟩
      exact ⟨projects_of_accepted hlower hbody hevent hdecode hvalid haccepted,
        hfixed.trans hruntime.symm⟩
  · rintro host lookup keyMaterial rfl
    exact never_faithful htype hdirect hgated

/-! ## A signed policy -/

section Example

open GovernanceRoundTrip SignedPublication JsonValue

/-- The URLs of the checkout policy, parsed. -/
def checkoutUrls : List Url :=
  [⟨"https://shop.example/pay", "https:", "", "", "shop.example", "/pay", []⟩,
   ⟨"https://shop.example/", "https:", "", "", "shop.example", "/", []⟩]

/-- The planning host: the two digests are those of the signed body and of the
    encoded one. -/
def checkoutPlanning : PlanningHost where
  js :=
    { parseUrl := fun value => checkoutUrls.find? (·.href = value)
      toLowerCase := id
      toISOString := fun _ => none
      hashJson := fun body =>
        if (body.prop "signature").isSome then
          "f754e65ec3394e462d345a9232ce7f24bd1402dec38e57b7c754cd6a69d8d7cb"
        else "529bd4ee35d085fd3621c7ad3f329f802f930910f1ba4f969c7c53803bd108d0" }
  numberText _ := "1"
  numberOf _ := none
  dateText time := if time = 1767225600000 then some "2026-01-01T00:00:00.000Z" else none

/-- A policy body with a runtime-safety policy of its own, before it is signed. -/
def checkoutBody : JsonValue :=
  .obj
    [("artifact_type", .str "destination_policy"),
     ("schema_version", .str "0.1.0"),
     ("root_program_id", .str "root:qrtrust-demo:2026"),
     ("delegated_authority_id", .str "authority:qrtrust-demo:merchant-web"),
     ("issuer_id", .str "issuer:acme-demo"),
     ("destination_policy_id", .str "policy:acme-demo:checkout:v1"),
     ("approved_destinations",
       .arr
        [.obj
          [("destination_id", .str "dest:checkout"),
           ("expected_final_url", .str "https://shop.example/pay"),
           ("allowed_hosts", .arr [.str "shop.example"]), ("allow_subdomains", .bool false),
           ("path_prefixes", .arr [.str "/pay"]), ("query_policy", .str "none")]]),
     ("redirect_policy",
       .obj
        [("resolver_urls", .arr []), ("expected_final_destinations", .arr []),
         ("allowed_redirect_hosts", .arr []), ("max_redirect_hops", .num 1),
         ("nested_shorteners_allowed", .bool false),
         ("scanner_must_display_resolver_and_final_destination", .bool true)]),
     ("runtime_safety_policy",
       .obj
        [("provider", .str "web-risk"), ("stale_behavior", .str "block"),
         ("unavailable_behavior", .str "block")]),
     ("publication",
       .obj
        [("published_at", .str "2026-01-01T00:00:00.000Z"),
         ("valid_until", .str "2026-01-02T00:00:00.000Z"),
         ("signed_by", .str "authority:qrtrust-demo:merchant-web"),
         ("signature_status", .str "unsigned")])]

/-- The publication of the policy, before it is signed. -/
def checkoutInput : ArtifactPublicationInput where
  artifactType := "destination_policy"
  artifactId := "art_policy_checkout_v1"
  version := 1
  rootProgramId := "root:qrtrust-demo:2026"
  delegatedAuthorityId := some "authority:qrtrust-demo:merchant-web"
  issuerId := some "issuer:acme-demo"
  destinationPolicyId := some "policy:acme-demo:checkout:v1"
  body := checkoutBody
  occurredAt := 1767225600000
  eventType := "destination.policy.published"
  reason := ""

/-- The signed publication. -/
def signedCheckout : Except String ArtifactPublicationInput :=
  GovernancePublication.signPublicationInput checkoutInput
    (SigningCustody.makeTrustArtifactSigner demoSigningHost bundleCustody)
    (GovernancePublication.recordIdentity checkoutInput)

/-- An active issuer with a proof for its host. -/
def checkoutContext : ContextResolver := fun _ policy =>
  .ok
    { issuer := ⟨policy.ns, .active⟩
      domainProofs := [⟨policy.ns, "shop.example", .dnsTxt, .verified, none⟩] }

/-- A network in which nothing is published. -/
def quiet : Network := .initial ⟨.empty, none⟩

/-- The gated service over that network. -/
def gatedCheckout (input : ArtifactPublicationInput) :
    Except PublicationError ArtifactPublicationResult × Network :=
  makeDestinationPolicyAwareArtifactPublicationService checkoutPlanning
    (makeArtifactPublicationService checkoutPlanning) checkoutContext quiet input

/-- Does the signed publication decode, and does the gate let it through? -/
def checkoutPasses : Bool :=
  match signedCheckout with
  | .error _ => false
  | .ok input =>
      isRecognizedTrustArtifact input.body
        && (projectedPolicy checkoutPlanning.js input.body
          (publicationEvent checkoutPlanning input)).isSome
        && (gatedCheckout input).1.isOk

theorem checkoutBody_publishable :
    Publishable checkoutBody "authority:qrtrust-demo:merchant-web" where
  distinct := by
    refine ⟨by decide, ?_⟩
    repeat' constructor
    all_goals decide
  publication := ⟨_, rfl, rfl⟩

/-- The signed checkout policy is accepted when it is published directly, and
    the gate lets it through. -/
theorem checkout_published : ∃ input policy result gated, signedCheckout = .ok input
    ∧ input.artifactType = "destination_policy"
    ∧ ProjectsDirectly checkoutPlanning bundleVerify quiet quiet.sync input policy
    ∧ gatedCheckout input = (.ok result, gated) := by
  have hkeys := @demo_authorityKeys demoRegistry (by decide +kernel)
  obtain ⟨body, signature, hsigned, hsigns, hbody⟩ := @signPublicationInput_ok demoSigningHost
    DemoPair demoSigningKeys demoMaterial demoRegistry.values ownMaterial demo_ed25519
    demo_localeLess .static checkoutInput (GovernancePublication.recordIdentity checkoutInput)
    "authority-private" checkoutBody_publishable hkeys
  have htrips : RoundTrips demoSigningHost demoRegistry.values ownMaterial body := by
    rw [roundTrips_iff demo_ed25519 demo_localeLess checkoutBody_publishable hsigns hbody
      (.inr ⟨rfl, rfl⟩) fun ns hns => nomatch hns]
    exact ⟨authorityKey, "authority-public", by decide +kernel, rfl, .inr ⟨rfl, rfl⟩⟩
  have hpasses : checkoutPasses = true := by decide +kernel
  have hinput : signedCheckout = .ok { checkoutInput with body } := hsigned
  rw [checkoutPasses, hinput, Bool.and_eq_true, Bool.and_eq_true] at hpasses
  obtain ⟨⟨hrecognized, hprojects⟩, hgated⟩ := hpasses
  obtain ⟨policy, hpolicy⟩ := Option.isSome_iff_exists.mp hprojects
  obtain ⟨⟨reason, hverified⟩, hscope⟩ := htrips body (StoredAs.refl body)
  refine ⟨{ checkoutInput with body }, policy, ?_⟩
  cases hresult : gatedCheckout { checkoutInput with body } with
  | mk answer gated =>
      rw [hresult] at hgated
      obtain ⟨result, rfl⟩ := exists_ok_of_isOk hgated
      refine ⟨result, gated, hinput, rfl, ⟨_, _, rfl, ?_⟩, rfl⟩
      have haccepted : Accepted ((quiet.publishArtifact checkoutPlanning
            { checkoutInput with body }).service bundleVerify checkoutPlanning) quiet.sync
          (publicationEvent checkoutPlanning { checkoutInput with body })
          (storedArtifact checkoutPlanning.js { checkoutInput with body }) :=
        { fetched := fetched_published (show "destination.policy.published" ≠ _ by decide)
          recognized := hrecognized
          verified := by
            show (bundleVerify none body).accepted = true
            rw [bundleVerify, asCollaborator, hverified]
          scope := hscope }
      exact haccepted.planned (mem_projectionCalls.mpr (.inr (.inr (.inr (.inl
        ⟨policy, hpolicy, rfl⟩)))))

/-- **LOST ON THE WAY**: the signed policy is accepted when it is published
    directly; behind the gate it loses its signature and its runtime-safety
    policy, and is rejected. -/
theorem signed_checkout_not_faithful : ∃ input policy result gated, signedCheckout = .ok input
    ∧ ProjectsDirectly checkoutPlanning bundleVerify quiet quiet.sync input policy
    ∧ gatedCheckout input = (.ok result, gated)
    ∧ ¬ Faithful checkoutPlanning bundleVerify gated quiet.sync result policy input.body := by
  obtain ⟨input, policy, result, gated, hsigned, htype, hdirect, hgated⟩ := checkout_published
  exact ⟨input, policy, result, gated, hsigned, hdirect, hgated,
    never_faithful htype hdirect hgated⟩

theorem gated_publication_faithful_iff_checkout :
    ∃ input policy result gated, signedCheckout = .ok input
      ∧ (Faithful checkoutPlanning bundleVerify gated quiet.sync result policy input.body ↔
        (bundleVerify none (destinationPolicyArtifactBody policy)).accepted = true
          ∧ input.body.prop "runtime_safety_policy" = some fixedRuntimeSafetyPolicy)
      ∧ ¬ Faithful checkoutPlanning bundleVerify gated quiet.sync result policy input.body := by
  obtain ⟨input, policy, result, gated, hsigned, htype, hdirect, hgated⟩ := checkout_published
  have h := gated_publication_faithful_iff (show LowerCaseKeepsDnsNames checkoutPlanning.js from
    fun _ _ => rfl) bundleVerify checkoutContext quiet gated quiet.sync quiet.sync input policy
    result htype hdirect hgated
  exact ⟨input, policy, result, gated, hsigned, h.1, h.2 _ _ _ rfl⟩

end Example

end DestinationPolicyPublication
