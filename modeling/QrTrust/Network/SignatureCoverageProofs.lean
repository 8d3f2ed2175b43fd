import Mathlib.Logic.Equiv.List
import QrTrust.Network.CanonicalTextProofs
import QrTrust.Network.DocumentReads
import QrTrust.Network.SignatureAcceptanceProofs
import QrTrust.Network.SyncReplayProofs

/-! # What is acted on, and what is signed

    Two bodies with one signed payload read alike along every path that passes
    no signature field.  The guards ask for signature fields, but what they hand
    on comes from the other fields, and the algorithm that a key status update
    looks up is the one the verifier demands.  So accepted bodies with one
    payload lead to the same cache calls and key status updates.

    There is one exception.  The projection of an issuer carries the object
    `issuer_namespace` of its body, whole, and with it whatever stands under a
    signature field inside it.  The projections are the same exactly when the
    two bodies agree there (`same_projection_iff`). -/

namespace SignatureCoverage

open JsonValue VerifierCache PolicyDecoding TrustKeys VerifierSync SignatureVerification
  SyncAcceptance CanonicalJson

variable {a b : JsonValue}

/-! ## Policies -/

section Policies

variable {x y : Option JsonValue} {field : String} {js : JsRuntime}

theorem stringValue_eq (h : Option.Rel SignedAlike x y) :
    stringValue x field = stringValue y field := by
  have hread : ∀ x, stringValue x field = (x.bind asString).elim
      (.error (field ++ " must be a non-empty string."))
      fun s => if s ≠ "" then .ok s else .error (field ++ " must be a non-empty string.") := by
    rintro (_ | v)
    · rfl
    · cases v <;> rfl
  rw [hread, hread, bind_eq_of_rel h fun _ _ h => h.asString_eq]

theorem literalStringValue_eq (h : Option.Rel SignedAlike x y) (allowed : List String) :
    literalStringValue x field allowed = literalStringValue y field allowed := by
  have hread : ∀ x, literalStringValue x field allowed = (x.bind asString).elim
      (.error (field ++ " must be one of: " ++ ", ".intercalate allowed ++ "."))
      fun s => if s ∈ allowed then .ok s
        else .error (field ++ " must be one of: " ++ ", ".intercalate allowed ++ ".") := by
    rintro (_ | v)
    · rfl
    · cases v <;> rfl
  rw [hread, hread, bind_eq_of_rel h fun _ _ h => h.asString_eq]

theorem booleanValue_eq (h : Option.Rel SignedAlike x y) :
    booleanValue x field = booleanValue y field := by
  have hread : ∀ x, booleanValue x field = match x.bind asBool with
      | some b => .ok b
      | none => .error (field ++ " must be a boolean.") := by
    rintro (_ | v)
    · rfl
    · cases v <;> rfl
  rw [hread, hread, bind_eq_of_rel h fun _ _ h => h.asBool_eq]

theorem nonNegativeIntegerValue_eq (h : Option.Rel SignedAlike x y) :
    nonNegativeIntegerValue x field = nonNegativeIntegerValue y field := by
  have hread : ∀ x, nonNegativeIntegerValue x field = match x.bind asNumber with
      | some n => if n.den = 1 ∧ 0 ≤ n then .ok n
          else .error (field ++ " must be a non-negative integer.")
      | none => .error (field ++ " must be a non-negative integer.") := by
    rintro (_ | v)
    · rfl
    · cases v <;> rfl
  rw [hread, hread, bind_eq_of_rel h fun _ _ h => h.asNumber_eq]

theorem pathPrefixValue_eq (h : Option.Rel SignedAlike x y) :
    pathPrefixValue x field = pathPrefixValue y field := by
  rw [pathPrefixValue, pathPrefixValue, stringValue_eq h]

theorem httpsUrlValue_eq (h : Option.Rel SignedAlike x y) :
    httpsUrlValue js x field = httpsUrlValue js y field := by
  rw [httpsUrlValue, httpsUrlValue, stringValue_eq h]

theorem hostnameValue_eq (h : Option.Rel SignedAlike x y) :
    hostnameValue js x field = hostnameValue js y field := by
  rw [hostnameValue, hostnameValue, stringValue_eq h]

/-- A decoder goes on with arrays whose items are signed alike. -/
theorem arrayValue_bind {β : Type} {f g : List JsonValue → Except String β}
    (h : Option.Rel SignedAlike x y)
    (hfg : ∀ items items', List.Forall₂ SignedAlike items items' → f items = g items') :
    (arrayValue x field >>= f) = (arrayValue y field >>= g) := by
  have hread : ∀ x, arrayValue x field = match x.bind asArray with
      | some items => .ok items
      | none => .error (field ++ " must be an array.") := by
    rintro (_ | v)
    · rfl
    · cases v <;> rfl
  have hrel : Option.Rel (List.Forall₂ SignedAlike) (x.bind asArray) (y.bind asArray) := by
    rcases h with hab | _
    · exact hab.asArray_rel
    · exact .none
  rw [hread, hread]
  revert hrel
  generalize x.bind asArray = items
  generalize y.bind asArray = items'
  rintro (hitems | _)
  · exact hfg _ _ hitems
  · rfl

/-- A decoder goes on with objects that are signed alike. -/
theorem objectValue_bind {β : Type} {f g : JsonValue → Except String β}
    (h : Option.Rel SignedAlike x y) (hfg : ∀ v w, SignedAlike v w → f v = g w) :
    (objectValue x field >>= f) = (objectValue y field >>= g) := by
  rcases h with @⟨v, w, hab⟩ | _
  · have hrecord := hab.isRecord_eq
    cases v with
    | obj fields =>
        cases w with
        | obj fields' => exact hfg _ _ hab
        | _ => cases hrecord
    | _ =>
        cases w with
        | obj fields' => cases hrecord
        | _ => rfl
  · rfl

theorem optionalStringArrayProperty_eq {v w : JsonValue} (h : SignedAlike v w) (key : String)
    (hcovered : isSignatureMetadata key = false) :
    optionalStringArrayProperty v key = optionalStringArrayProperty w key := by
  have hrel := h.nonNull_rel key hcovered
  rw [optionalStringArrayProperty, optionalStringArrayProperty]
  revert hrel
  generalize v.nonNull key = x
  generalize w.nonNull key = y
  rintro (hab | _)
  · refine arrayValue_bind (.some hab) fun items items' hitems => ?_
    rw [SignedAlike.mapM_eq (fun _ _ hitem => stringValue_eq (.some hitem)) hitems]
  · rfl

/-- **RULES** that are signed alike are one rule. -/
theorem rule_eq (h : SignedAlike a b) :
    destinationPolicyRuleFromUnknown js a = destinationPolicyRuleFromUnknown js b := by
  refine objectValue_bind (.some h) fun v w hvw => ?_
  rw [stringValue_eq (hvw.prop_rel "destination_id" rfl)]
  refine bind_congr fun _ => ?_
  rw [httpsUrlValue_eq (hvw.prop_rel "expected_final_url" rfl)]
  refine bind_congr fun _ => arrayValue_bind (hvw.prop_rel "allowed_hosts" rfl)
    fun hosts hosts' hhosts => ?_
  rw [SignedAlike.mapM_eq (fun _ _ hhost => hostnameValue_eq (.some hhost)) hhosts]
  refine bind_congr fun _ => ?_
  rw [booleanValue_eq (hvw.prop_rel "allow_subdomains" rfl)]
  refine bind_congr fun _ => arrayValue_bind (hvw.prop_rel "path_prefixes" rfl)
    fun paths paths' hpaths => ?_
  rw [SignedAlike.mapM_eq (fun _ _ hpath => pathPrefixValue_eq (.some hpath)) hpaths]
  refine bind_congr fun _ => ?_
  rw [literalStringValue_eq (hvw.prop_rel "query_policy" rfl),
    optionalStringArrayProperty_eq hvw "allowed_query_keys" rfl]

/-- **REDIRECTS** that are signed alike are one redirect policy. -/
theorem redirectPolicy_eq (h : Option.Rel SignedAlike x y) :
    redirectPolicyFromUnknown js x = redirectPolicyFromUnknown js y := by
  refine objectValue_bind h fun v w hvw => ?_
  refine arrayValue_bind (hvw.prop_rel "resolver_urls" rfl) fun urls urls' hurls => ?_
  rw [SignedAlike.mapM_eq (fun _ _ hurl => httpsUrlValue_eq (.some hurl)) hurls]
  refine bind_congr fun _ => arrayValue_bind (hvw.prop_rel "expected_final_destinations" rfl)
    fun finals finals' hfinals => ?_
  rw [SignedAlike.mapM_eq (fun _ _ hurl => httpsUrlValue_eq (.some hurl)) hfinals]
  refine bind_congr fun _ => arrayValue_bind (hvw.prop_rel "allowed_redirect_hosts" rfl)
    fun hosts hosts' hhosts => ?_
  rw [SignedAlike.mapM_eq (fun _ _ hhost => hostnameValue_eq (.some hhost)) hhosts,
    nonNegativeIntegerValue_eq (hvw.prop_rel "max_redirect_hops" rfl),
    booleanValue_eq (hvw.prop_rel "nested_shorteners_allowed" rfl),
    booleanValue_eq (hvw.prop_rel "scanner_must_display_resolver_and_final_destination" rfl)]

theorem scopeValue_eq (h : SignedAlike a b) (fallback : Option String) (key : String)
    (hcovered : isSignatureMetadata key = false) :
    scopeValue a fallback key = scopeValue b fallback key := by
  have hrel := h.nonNull_rel key hcovered
  rw [scopeValue, scopeValue]
  revert hrel
  generalize a.nonNull key = x
  generalize b.nonNull key = y
  rintro (hab | _)
  · exact stringValue_eq (.some hab)
  · rfl

theorem publicationDate_eq (h : Option.Rel SignedAlike x y) (occurredAt key : String)
    (hcovered : isSignatureMetadata key = false) :
    publicationDate js x occurredAt key = publicationDate js y occurredAt key := by
  have hrel : Option.Rel SignedAlike (x.bind fun p => p.nonNull key)
      (y.bind fun p => p.nonNull key) := by
    rcases h with hab | _
    · exact hab.nonNull_rel key hcovered
    · exact .none
  rw [publicationDate, publicationDate]
  revert hrel
  generalize (x.bind fun p => p.nonNull key) = p
  generalize (y.bind fun p => p.nonNull key) = q
  rintro (hab | _)
  · exact stringValue_eq (.some hab)
  · rfl

/-- A decoder goes on with publications that are signed alike. -/
theorem optionalObjectValue_bind {β : Type} {f g : Option JsonValue → Except String β}
    (h : Option.Rel SignedAlike x y)
    (hfg : ∀ x y, Option.Rel SignedAlike x y → f x = g y) :
    (optionalObjectValue x >>= f) = (optionalObjectValue y >>= g) := by
  rcases h with @⟨v, w, hab⟩ | _
  · have hshape := hab.shape_eq
    cases v with
    | obj fields =>
        cases w with
        | obj fields' => exact hfg _ _ (.some hab)
        | _ => cases hshape
    | null =>
        cases w with
        | null => exact hfg _ _ .none
        | _ => cases hshape
    | _ =>
        cases w with
        | obj fields' => cases hshape
        | null => cases hshape
        | _ => rfl
  · exact hfg _ _ .none

/-- **POLICIES**: bodies that are signed alike project one policy, or fail alike. -/
theorem policyProjection_eq (h : SignedAlike a b) (event : NetworkEvent) :
    destinationPolicyProjectionFromArtifactPublicationInput js (publicationInputOfEvent a event)
      = destinationPolicyProjectionFromArtifactPublicationInput js
        (publicationInputOfEvent b event) := by
  refine objectValue_bind (.some h) fun v w hvw => ?_
  refine arrayValue_bind (hvw.prop_rel "approved_destinations" rfl) fun rules rules' hrules => ?_
  rw [SignedAlike.mapM_eq (fun _ _ hrule => rule_eq hrule) hrules]
  refine bind_congr fun _ => ?_
  rw [redirectPolicy_eq (hvw.prop_rel "redirect_policy" rfl)]
  refine bind_congr fun _ => ?_
  rw [scopeValue_eq hvw _ "root_program_id" rfl, scopeValue_eq hvw _ "delegated_authority_id" rfl,
    scopeValue_eq hvw _ "issuer_id" rfl]
  refine bind_congr fun _ => bind_congr fun _ => bind_congr fun _ =>
    optionalObjectValue_bind (hvw.prop_rel "publication" rfl) fun p q hpq => ?_
  rw [scopeValue_eq hvw _ "destination_policy_id" rfl, publicationDate_eq hpq _ "published_at" rfl,
    publicationDate_eq hpq _ "valid_until" rfl]
  rfl

end Policies

/-! ## Guards -/

section Guards

variable {α β γ ρ : Type} {x : Option α} {y : Option β} {f : α → Option ρ} {g : β → Option ρ}
  {r r' : ρ}

/-- Two decoders that succeed go on with what they read. -/
theorem bind_any (hx : x.bind f = some r) (hy : y.bind g = some r') :
    ∃ c d, f c = some r ∧ g d = some r' := by
  obtain ⟨c, -, hf⟩ := Option.bind_eq_some_iff.mp hx
  obtain ⟨d, -, hg⟩ := Option.bind_eq_some_iff.mp hy
  exact ⟨c, d, hf, hg⟩

/-- Two decoders that read related values and succeed go on with related values. -/
theorem bind_rel {R : α → β → Prop} (hxy : Option.Rel R x y) (hx : x.bind f = some r)
    (hy : y.bind g = some r') : ∃ c d, R c d ∧ f c = some r ∧ g d = some r' := by
  rcases hxy with hcd | _
  · exact ⟨_, _, hcd, hx, hy⟩
  · cases hx

/-- Two decoders that read one value and succeed go on with it. -/
theorem bind_same {x y : Option α} {f g : α → Option ρ} (hxy : x = y) (hx : x.bind f = some r)
    (hy : y.bind g = some r') : ∃ c, f c = some r ∧ g c = some r' := by
  obtain ⟨c, hc, hf⟩ := Option.bind_eq_some_iff.mp hx
  obtain ⟨d, hd, hg⟩ := Option.bind_eq_some_iff.mp hy
  rw [hxy, hd] at hc
  obtain rfl := Option.some.inj hc
  exact ⟨_, hf, hg⟩

end Guards

theorem hasArtifactType_eq (h : SignedAlike a b) (artifactType : String) :
    hasArtifactType a artifactType = hasArtifactType b artifactType := by
  rw [hasArtifactType, hasArtifactType, h.stringField_eq "artifact_type" rfl]

theorem statusField_eq (h : SignedAlike a b) (key : String)
    (hcovered : isSignatureMetadata key = false) : statusField a key = statusField b key := by
  rw [statusField, statusField, h.stringField_eq key hcovered]

theorem delegatedAuthorityEntry_eq (h : SignedAlike a b) :
    delegatedAuthorityManifestEntry a = delegatedAuthorityManifestEntry b := by
  rw [delegatedAuthorityManifestEntry, delegatedAuthorityManifestEntry,
    h.stringField_eq "delegated_authority_id" rfl, h.stringField_eq "name" rfl,
    h.stringField_eq "manifest_ref" rfl, statusField_eq h "status" rfl]

theorem enrolledIssuerEntry_eq (h : SignedAlike a b) :
    enrolledIssuerManifestEntry a = enrolledIssuerManifestEntry b := by
  rw [enrolledIssuerManifestEntry, enrolledIssuerManifestEntry, h.stringField_eq "issuer_id" rfl,
    h.stringField_eq "issuer_record_ref" rfl, h.stringField_eq "assurance_tier" rfl,
    statusField_eq h "status" rfl]

theorem destinationPolicyRef_eq (h : SignedAlike a b) :
    issuerDestinationPolicyRef a = issuerDestinationPolicyRef b := by
  rw [issuerDestinationPolicyRef, issuerDestinationPolicyRef,
    h.stringField_eq "destination_policy_id" rfl, h.stringField_eq "policy_ref" rfl,
    statusField_eq h "status" rfl]

/-- **ISSUER RECORDS**: their guard asks for no signature field. -/
theorem issuerRecord_eq (h : SignedAlike a b) :
    issuerRecordArtifactBody a = issuerRecordArtifactBody b := by
  rw [issuerRecordArtifactBody, issuerRecordArtifactBody, hasArtifactType_eq h]
  refine bind_congr fun _ => bind_eq_of_rel (h.prop_rel "issuer_namespace" rfl)
    fun ns ns' hns => ?_
  rw [hns.stringField_eq "root_program_id" rfl, hns.stringField_eq "delegated_authority_id" rfl,
    hns.stringField_eq "issuer_id" rfl, h.stringField_eq "issuer_display_name" rfl,
    h.stringField_eq "issuer_class" rfl, h.stringField_eq "assurance_tier" rfl]
  refine bind_congr fun _ => bind_congr fun _ => bind_congr fun _ => bind_congr fun _ =>
    bind_congr fun _ => bind_congr fun _ =>
      bind_eq_of_rel (h.arrayField_rel "destination_policies" rfl) fun policies policies' hpolicies => ?_
  rw [SignedAlike.mapM_eq (fun _ _ hpolicy => destinationPolicyRef_eq hpolicy) hpolicies]
  refine bind_congr fun _ => bind_eq_of_rel (h.prop_rel "status" rfl) fun status status' hstatus => ?_
  rw [statusField_eq hstatus "issuer_status" rfl, hstatus.stringField_eq "certificate_status" rfl,
    hstatus.stringField_eq "status_event_ref" rfl]
  refine bind_congr fun _ => bind_congr fun _ => bind_congr fun _ =>
    bind_eq_of_rel (h.prop_rel "publication" rfl) fun publication publication' hpublication => ?_
  rw [hpublication.stringField_eq "published_at" rfl, hpublication.stringField_eq "valid_until" rfl]

/-- **ROOT MANIFESTS** that are signed alike name one root and one list of
    authorities. -/
theorem rootManifest_agree (h : SignedAlike a b) {manifest manifest' : RootManifestArtifactBody}
    (ha : rootManifestArtifactBody a = some manifest)
    (hb : rootManifestArtifactBody b = some manifest') :
    manifest.rootProgramId = manifest'.rootProgramId
      ∧ manifest.delegatedAuthorities = manifest'.delegatedAuthorities := by
  obtain ⟨_, _, ha, hb⟩ := bind_any ha hb
  obtain ⟨_, _, ha, hb⟩ := bind_any ha hb
  obtain ⟨root, ha, hb⟩ := bind_same (h.stringField_eq "root_program_id" rfl) ha hb
  obtain ⟨_, _, ha, hb⟩ := bind_any ha hb
  obtain ⟨_, _, ha, hb⟩ := bind_any ha hb
  obtain ⟨_, _, ha, hb⟩ := bind_any ha hb
  obtain ⟨_, _, ha, hb⟩ := bind_any ha hb
  obtain ⟨_, _, ha, hb⟩ := bind_any ha hb
  obtain ⟨_, _, ha, hb⟩ := bind_any ha hb
  obtain ⟨items, items', hitems, ha, hb⟩ :=
    bind_rel (h.arrayField_rel "delegated_authorities" rfl) ha hb
  obtain ⟨authorities, ha, hb⟩ := bind_same
    (SignedAlike.mapM_eq (fun _ _ hentry => delegatedAuthorityEntry_eq hentry) hitems) ha hb
  obtain ⟨_, _, ha, hb⟩ := bind_any ha hb
  obtain ⟨_, _, ha, hb⟩ := bind_any ha hb
  obtain rfl := Option.some.inj ha
  obtain rfl := Option.some.inj hb
  exact ⟨rfl, rfl⟩

/-- **AUTHORITY MANIFESTS** that are signed alike name one authority and one list of
    issuers. -/
theorem authorityManifest_agree (h : SignedAlike a b)
    {manifest manifest' : DelegatedAuthorityManifestArtifactBody}
    (ha : delegatedAuthorityManifestArtifactBody a = some manifest)
    (hb : delegatedAuthorityManifestArtifactBody b = some manifest') :
    manifest.rootProgramId = manifest'.rootProgramId
      ∧ manifest.delegatedAuthorityId = manifest'.delegatedAuthorityId
      ∧ manifest.enrolledIssuers = manifest'.enrolledIssuers := by
  obtain ⟨_, _, ha, hb⟩ := bind_any ha hb
  obtain ⟨_, _, ha, hb⟩ := bind_any ha hb
  obtain ⟨root, ha, hb⟩ := bind_same (h.stringField_eq "root_program_id" rfl) ha hb
  obtain ⟨authority, ha, hb⟩ := bind_same (h.stringField_eq "delegated_authority_id" rfl) ha hb
  obtain ⟨_, _, ha, hb⟩ := bind_any ha hb
  obtain ⟨_, _, ha, hb⟩ := bind_any ha hb
  obtain ⟨_, _, ha, hb⟩ := bind_any ha hb
  obtain ⟨_, _, ha, hb⟩ := bind_any ha hb
  obtain ⟨_, _, ha, hb⟩ := bind_any ha hb
  obtain ⟨_, _, ha, hb⟩ := bind_any ha hb
  obtain ⟨_, _, ha, hb⟩ := bind_any ha hb
  obtain ⟨items, items', hitems, ha, hb⟩ :=
    bind_rel (h.arrayField_rel "enrolled_issuers" rfl) ha hb
  obtain ⟨issuers, ha, hb⟩ := bind_same
    (SignedAlike.mapM_eq (fun _ _ hentry => enrolledIssuerEntry_eq hentry) hitems) ha hb
  obtain ⟨_, _, ha, hb⟩ := bind_any ha hb
  obtain ⟨_, _, ha, hb⟩ := bind_any ha hb
  obtain rfl := Option.some.inj ha
  obtain rfl := Option.some.inj hb
  exact ⟨rfl, rfl, rfl⟩

/-- **REVOCATIONS** that are signed alike and name one algorithm are one revocation. -/
theorem revocation_agree (h : SignedAlike a b)
    (halgorithm : a.stringField "signature_algorithm_id" = b.stringField "signature_algorithm_id")
    {revocation revocation' : RevocationStatusArtifactBody}
    (ha : revocationStatusArtifactBody a = some revocation)
    (hb : revocationStatusArtifactBody b = some revocation') : revocation = revocation' := by
  obtain ⟨target, target', htarget, ha, hb⟩ := bind_rel (h.prop_rel "target" rfl) ha hb
  obtain ⟨_, _, ha, hb⟩ := bind_any ha hb
  obtain ⟨root, ha, hb⟩ := bind_same (h.stringField_eq "root_program_id" rfl) ha hb
  obtain ⟨authority, ha, hb⟩ := bind_same (h.stringField_eq "delegated_authority_id" rfl) ha hb
  obtain ⟨targetType, ha, hb⟩ := bind_same
    (congrArg (Option.bind · RevocationTargetType.ofText)
      (htarget.stringField_eq "target_type" rfl)) ha hb
  obtain ⟨issuer, ha, hb⟩ := bind_same (htarget.optionalStringField_eq "issuer_id" rfl) ha hb
  obtain ⟨policy, ha, hb⟩ :=
    bind_same (htarget.optionalStringField_eq "destination_policy_id" rfl) ha hb
  obtain ⟨_, _, ha, hb⟩ := bind_any ha hb
  obtain ⟨key, ha, hb⟩ := bind_same (htarget.optionalStringField_eq "key_id" rfl) ha hb
  obtain ⟨status, ha, hb⟩ := bind_same (statusField_eq h "status" rfl) ha hb
  obtain ⟨signer, ha, hb⟩ := bind_same (h.stringField_eq "signed_by" rfl) ha hb
  obtain ⟨_, _, ha, hb⟩ := bind_any ha hb
  obtain ⟨algorithm, ha, hb⟩ := bind_same halgorithm ha hb
  obtain ⟨_, _, ha, hb⟩ := bind_any ha hb
  obtain ⟨_, _, ha, hb⟩ := bind_any ha hb
  exact Option.some.inj (ha.symm.trans hb)

/-- **ASSURANCE UPDATES** that are signed alike are one update. -/
theorem assurance_agree (h : SignedAlike a b) {assurance assurance' : AssuranceStatusArtifactBody}
    (ha : assuranceStatusArtifactBody a = some assurance)
    (hb : assuranceStatusArtifactBody b = some assurance') : assurance = assurance' := by
  obtain ⟨target, target', htarget, ha, hb⟩ := bind_rel (h.prop_rel "target" rfl) ha hb
  obtain ⟨_, _, ha, hb⟩ := bind_any ha hb
  obtain ⟨root, ha, hb⟩ := bind_same (h.stringField_eq "root_program_id" rfl) ha hb
  obtain ⟨authority, ha, hb⟩ := bind_same (h.stringField_eq "delegated_authority_id" rfl) ha hb
  obtain ⟨_, _, ha, hb⟩ := bind_any ha hb
  obtain ⟨issuer, ha, hb⟩ := bind_same (htarget.stringField_eq "issuer_id" rfl) ha hb
  obtain ⟨_, _, ha, hb⟩ := bind_any ha hb
  obtain ⟨tier, ha, hb⟩ := bind_same (h.stringField_eq "new_assurance_tier" rfl) ha hb
  obtain ⟨_, _, ha, hb⟩ := bind_any ha hb
  obtain ⟨_, _, ha, hb⟩ := bind_any ha hb
  obtain ⟨_, _, ha, hb⟩ := bind_any ha hb
  obtain ⟨_, _, ha, hb⟩ := bind_any ha hb
  obtain ⟨_, _, ha, hb⟩ := bind_any ha hb
  exact Option.some.inj (ha.symm.trans hb)

/-- The guards, each with the type it asks for. -/
def guards : List (String × (JsonValue → Bool)) :=
  [("root_manifest", fun body => (rootManifestArtifactBody body).isSome),
    ("delegated_authority_manifest", fun body =>
      (delegatedAuthorityManifestArtifactBody body).isSome),
    ("issuer_record", fun body => (issuerRecordArtifactBody body).isSome),
    ("destination_policy", isDestinationPolicyArtifactBody),
    ("revocation_status_event", fun body => (revocationStatusArtifactBody body).isSome),
    ("assurance_status_event", fun body => (assuranceStatusArtifactBody body).isSome)]

theorem recognized_iff {body : JsonValue} :
    isRecognizedTrustArtifact body = true ↔ ∃ entry ∈ guards, entry.2 body = true := by
  simp [isRecognizedTrustArtifact, guards, or_assoc]

/-- A guard asks for its type. -/
theorem type_of_guard {body : JsonValue} :
    ∀ entry ∈ guards, entry.2 body = true → hasArtifactType body entry.1 = true := by
  simp only [guards, List.forall_mem_cons, List.not_mem_nil, false_imp_iff, implies_true,
    and_true, Option.isSome_iff_exists]
  refine ⟨?_, ?_, ?_, ?_, ?_, ?_⟩
  · rintro ⟨_, h⟩
    exact rootManifest_type h
  · rintro ⟨_, h⟩
    exact authorityManifest_type h
  · rintro ⟨_, h⟩
    exact issuerRecord_type h
  · intro h
    simp only [isDestinationPolicyArtifactBody, Bool.and_eq_true, and_assoc] at h
    exact h.1
  · rintro ⟨_, h⟩
    exact revocation_type h
  · rintro ⟨_, h⟩
    exact assurance_type h

/-- **TYPE DECIDES**: a recognised body passes the guard of its type. -/
theorem guard_iff {body : JsonValue} (h : isRecognizedTrustArtifact body = true)
    {artifactType : String} {guard : JsonValue → Bool} (hguard : (artifactType, guard) ∈ guards) :
    guard body = true ↔ hasArtifactType body artifactType = true := by
  constructor
  · exact type_of_guard _ hguard
  · intro htype
    obtain ⟨entry, hentry, hpasses⟩ := recognized_iff.mp h
    have hsameType := hasArtifactType_unique (type_of_guard entry hentry hpasses) htype
    have hnodup : (guards.map Prod.fst).Nodup := by decide
    obtain rfl := List.inj_on_of_nodup_map hnodup hentry hguard hsameType
    exact hpasses

/-- Recognised bodies that are signed alike pass the same guards. -/
theorem guard_eq (h : SignedAlike a b) (ha : isRecognizedTrustArtifact a = true)
    (hb : isRecognizedTrustArtifact b = true) {artifactType : String} {guard : JsonValue → Bool}
    (hguard : (artifactType, guard) ∈ guards) : guard a = guard b := by
  refine Bool.eq_iff_iff.mpr ?_
  rw [guard_iff ha hguard, guard_iff hb hguard, hasArtifactType_eq h]

/-- What decoders read alike where both succeed, and succeed on both, is one result. -/
theorem map_eq_of_agree {ρ γ : Type} {x y : Option ρ} {f : ρ → γ} (hsome : x.isSome = y.isSome)
    (hagree : ∀ r r', x = some r → y = some r' → f r = f r') : x.map f = y.map f := by
  cases x with
  | none =>
      cases y with
      | none => rfl
      | some r' => cases hsome
  | some r =>
      cases y with
      | none => cases hsome
      | some r' => exact congrArg some (hagree r r' rfl rfl)

/-! ## What a body leads to -/

/-- What `syncRecent` derives from a body: the calls of the cache writer, the
    namespace object that the projection of an issuer carries, and the updates of
    key statuses.  (A cache call has the parts of a namespace that the cache reads.) -/
structure Projected where
  cacheCalls : List CacheCall
  issuerNamespace : Option JsonValue
  keyStatusUpdates : List TrustKeyStatusUpdateInput

/-- What a body leads to. -/
def projected (service : SyncService) (registry : Option TrustKeyRegistry) (event : NetworkEvent)
    (body : JsonValue) : Projected where
  cacheCalls := projectionCalls service body event
  -- `namespace: body.issuer_namespace`
  issuerNamespace := (issuerProjectionFromArtifact body).bind fun _ => body.prop "issuer_namespace"
  keyStatusUpdates := keyStatusUpdates registry body

/-- **SAME**: the same calls and updates, with namespace objects that no reader tells
    apart. -/
structure Same (p q : Projected) : Prop where
  cacheCalls : p.cacheCalls = q.cacheCalls
  issuerNamespace : Option.Rel Alike p.issuerNamespace q.issuerNamespace
  keyStatusUpdates : p.keyStatusUpdates = q.keyStatusUpdates

/-- Readers of the namespaces of the same projections read the same. -/
theorem Same.read {p q : Projected} (h : Same p q) (path : List Step) :
    p.issuerNamespace.bind (read path) = q.issuerNamespace.bind (read path) :=
  bind_eq_of_rel h.issuerNamespace fun _ _ halike => halike path

/-- **PASSES**: the signature gate recognises and accepts the body, and its scope
    matches. -/
structure Passes (host : SignatureHost)
    (lookup : Option TrustKeyRegistry → TrustKeyLookupInput → TrustKeyLookupResult)
    (keyMaterial : KeyMaterialProvider) (registry : Option TrustKeyRegistry) (body : JsonValue) :
    Prop where
  recognized : isRecognizedTrustArtifact body = true
  verified : (asCollaborator host lookup keyMaterial registry body).accepted = true
  scope : trustArtifactScopeMatchesBody body = true

/-- The record of an active issuer, with an active certificate and an active policy. -/
def IsActiveIssuer (body : JsonValue) : Prop :=
  ∃ record, issuerRecordArtifactBody body = some record ∧ record.issuerStatus = .active
    ∧ record.certificateStatus = .active ∧ ∃ policy ∈ record.destinationPolicies,
      policy.status = .active

/-- The namespaces agree on whatever stands behind a signature field. -/
def SameNamespaceMetadata (a b : JsonValue) : Prop :=
  ∀ ns ns', a.prop "issuer_namespace" = some ns → b.prop "issuer_namespace" = some ns' →
    ∀ path, path.all Step.covered = false → read path ns = read path ns'

/-- An issuer is projected exactly when it is active. -/
theorem issuerProjection_isSome_iff {body : JsonValue} :
    (issuerProjectionFromArtifact body).isSome = true ↔ IsActiveIssuer body := by
  rw [Option.isSome_iff_exists]
  constructor
  · rintro ⟨projection, h⟩
    obtain ⟨record, hrecord, h⟩ := Option.bind_eq_some_iff.mp h
    obtain ⟨_, hissuer, h⟩ := Option.bind_eq_some_iff.mp h
    obtain ⟨_, hcertificate, h⟩ := Option.bind_eq_some_iff.mp h
    obtain ⟨policy, hpolicy, -⟩ := Option.bind_eq_some_iff.mp h
    exact ⟨record, hrecord, (Option.guard_eq_some' _).mp hissuer,
      (Option.guard_eq_some' _).mp hcertificate, policy, List.mem_of_find?_eq_some hpolicy,
      by simpa using List.find?_some hpolicy⟩
  · rintro ⟨record, hrecord, hissuer, hcertificate, policy, hmem, hactive⟩
    have hfind : (record.destinationPolicies.find? (·.status = .active)).isSome = true :=
      List.find?_isSome.mpr ⟨policy, hmem, by simpa using hactive⟩
    obtain ⟨found, hfound⟩ := Option.isSome_iff_exists.mp hfind
    simp [issuerProjectionFromArtifact, hrecord, hissuer, hcertificate, hfound, guard]

/-! ## Accepted bodies with one payload -/

section Accepted

variable {host : SignatureHost}
  {lookup : Option TrustKeyRegistry → TrustKeyLookupInput → TrustKeyLookupResult}
  {keyMaterial : KeyMaterialProvider} {registry : Option TrustKeyRegistry}

/-- **ALGORITHM**: a body that passes declares the one algorithm the verifier has. -/
theorem Passes.algorithm {body : JsonValue} (h : Passes host lookup keyMaterial registry body) :
    body.stringField "signature_algorithm_id" = some "ed25519" := by
  have hverified := h.verified
  by_contra hother
  rw [asCollaborator, verifyTrustArtifact] at hverified
  cases hfound : lookupSigner (lookup registry) body with
  | error cause =>
      rw [hfound] at hverified
      cases hverified
  | ok found =>
      rw [hfound] at hverified
      cases hreason : found.reason with
      | some reason =>
          simp only [hreason] at hverified
          cases hverified
      | none =>
          simp only [hreason, if_pos hother] at hverified
          cases hverified

/-- **PAYLOAD**: documents with one payload are signed alike. -/
theorem signedAlike_of_payload (hn : CanonicalText.NumberTexts host.numberText)
    (ha : Distinct a) (hb : Distinct b)
    (h : trustSignaturePayload host a = trustSignaturePayload host b) : SignedAlike a b := by
  rw [trustSignaturePayload_eq, trustSignaturePayload_eq] at h
  exact signedAlike_of_signedForm ha hb (CanonicalText.stringify_injective hn h)

/-- Decoders that succeed on both or on neither, and agree where they succeed, give one
    result. -/
theorem eq_of_agree {ρ : Type} {x y : Option ρ} (hsome : x.isSome = y.isSome)
    (hagree : ∀ r r', x = some r → y = some r' → r = r') : x = y := by
  have hmap : x.map id = y.map id := map_eq_of_agree hsome hagree
  rwa [Option.map_id, id, id] at hmap

variable (h : SignedAlike a b) (ha : Passes host lookup keyMaterial registry a)
  (hb : Passes host lookup keyMaterial registry b)

include h ha hb

theorem rootAuthorityContext_eq :
    rootAuthorityContextFromArtifact a = rootAuthorityContextFromArtifact b := by
  have hguard : (rootManifestArtifactBody a).isSome = (rootManifestArtifactBody b).isSome :=
    guard_eq h ha.recognized hb.recognized (List.mem_cons_self : _ ∈ guards)
  refine map_eq_of_agree hguard fun manifest manifest' hmanifest hmanifest' => ?_
  obtain ⟨hroot, hauthorities⟩ := rootManifest_agree h hmanifest hmanifest'
  rw [hroot, hauthorities]

theorem issuerContext_eq : delegatedAuthorityIssuerContextFromArtifact a
    = delegatedAuthorityIssuerContextFromArtifact b := by
  have hguard : (delegatedAuthorityManifestArtifactBody a).isSome
      = (delegatedAuthorityManifestArtifactBody b).isSome :=
    guard_eq h ha.recognized hb.recognized
      (.tail _ (.head _) : (_, fun body => (delegatedAuthorityManifestArtifactBody body).isSome) ∈ guards)
  refine map_eq_of_agree hguard fun manifest manifest' hmanifest hmanifest' => ?_
  obtain ⟨hroot, hauthority, hissuers⟩ := authorityManifest_agree h hmanifest hmanifest'
  rw [hroot, hauthority, hissuers]

theorem revocationBody_eq : revocationStatusArtifactBody a = revocationStatusArtifactBody b := by
  have hguard : (revocationStatusArtifactBody a).isSome
      = (revocationStatusArtifactBody b).isSome :=
    guard_eq h ha.recognized hb.recognized
      (.tail _ (.tail _ (.tail _ (.tail _ (.head _)))) :
        (_, fun body => (revocationStatusArtifactBody body).isSome) ∈ guards)
  refine eq_of_agree hguard fun _ _ => ?_
  exact revocation_agree h (ha.algorithm.trans hb.algorithm.symm)

theorem assuranceBody_eq : assuranceStatusArtifactBody a = assuranceStatusArtifactBody b := by
  have hguard : (assuranceStatusArtifactBody a).isSome = (assuranceStatusArtifactBody b).isSome :=
    guard_eq h ha.recognized hb.recognized
      (.tail _ (.tail _ (.tail _ (.tail _ (.tail _ (.head _))))) :
        (_, fun body => (assuranceStatusArtifactBody body).isSome) ∈ guards)
  exact eq_of_agree hguard fun _ _ => assurance_agree h

/-- **STATUS EVENTS** of accepted bodies with one payload are one status event. -/
theorem statusEvent_eq : statusEventFromArtifact a = statusEventFromArtifact b := by
  rw [statusEventFromArtifact, statusEventFromArtifact, revocationBody_eq h ha hb,
    assuranceBody_eq h ha hb]

/-- **KEY STATUSES** are updated alike. -/
theorem keyStatusUpdates_eq : keyStatusUpdates registry a = keyStatusUpdates registry b := by
  simp only [keyStatusUpdates, revocationBody_eq h ha hb]

omit ha hb in
theorem issuerProjection_eq : issuerProjectionFromArtifact a = issuerProjectionFromArtifact b := by
  rw [issuerProjectionFromArtifact, issuerProjectionFromArtifact, issuerRecord_eq h]

omit ha hb in
theorem projectedPolicy_eq (js : JsRuntime) (event : NetworkEvent) :
    projectedPolicy js a event = projectedPolicy js b event := by
  rw [projectedPolicy, projectedPolicy, destinationPolicyProjectionFromArtifact,
    destinationPolicyProjectionFromArtifact, artifactBodyTypeIs, artifactBodyTypeIs,
    hasArtifactType_eq h, h.isRecord_eq, policyProjection_eq h]

/-- **CALLS**: the cache writer gets the same calls. -/
theorem projectionCalls_eq (service : SyncService) (event : NetworkEvent) :
    projectionCalls service a event = projectionCalls service b event := by
  rw [projectionCalls, projectionCalls, rootAuthorityContext_eq h ha hb, issuerContext_eq h ha hb,
    issuerProjection_eq h, projectedPolicy_eq h, statusEvent_eq h ha hb]

end Accepted

/-! ## The exception -/

/-- The issuer namespaces that the projections of two bodies carry are alike exactly when
    no issuer is projected or the namespaces agree behind every signature field. -/
theorem issuerNamespace_rel (h : SignedAlike a b) :
    Option.Rel Alike ((issuerProjectionFromArtifact a).bind fun _ => a.prop "issuer_namespace")
        ((issuerProjectionFromArtifact b).bind fun _ => b.prop "issuer_namespace")
      ↔ (IsActiveIssuer a → SameNamespaceMetadata a b) := by
  rw [← issuerProjection_isSome_iff, ← issuerProjection_eq h, SameNamespaceMetadata]
  cases issuerProjectionFromArtifact a with
  | none => exact iff_of_true .none fun hactive => by cases hactive
  | some projection =>
      have hrel := h.prop_rel "issuer_namespace" rfl
      rw [Option.bind_some, Option.bind_some]
      revert hrel
      generalize a.prop "issuer_namespace" = x
      generalize b.prop "issuer_namespace" = y
      rintro (@⟨ns, ns', hns⟩ | _)
      · constructor
        · rintro (halike | _) - _ _ hns₁ hns₂
          obtain rfl := Option.some.inj hns₁
          obtain rfl := Option.some.inj hns₂
          exact hns.alike_iff.mp halike
        · exact fun hmetadata => .some (hns.alike_iff.mpr (hmetadata rfl _ _ rfl rfl))
      · exact iff_of_true .none fun _ _ _ hns₁ => by cases hns₁

variable {service : SyncService} {event : NetworkEvent} {host : SignatureHost}
  {lookup : Option TrustKeyRegistry → TrustKeyLookupInput → TrustKeyLookupResult}
  {keyMaterial : KeyMaterialProvider} {registry : Option TrustKeyRegistry}

/-- **COVERAGE**: two accepted bodies with one payload lead to the same writes and
    updates exactly when, where they are the record of an active issuer, their namespaces
    agree behind every signature field. -/
theorem same_projection_iff (hn : CanonicalText.NumberTexts host.numberText) (ha : Distinct a)
    (hb : Distinct b) (hpa : Passes host lookup keyMaterial registry a)
    (hpb : Passes host lookup keyMaterial registry b)
    (hpayload : trustSignaturePayload host a = trustSignaturePayload host b) :
    Same (projected service registry event a) (projected service registry event b)
      ↔ (IsActiveIssuer a → SameNamespaceMetadata a b) := by
  have h := signedAlike_of_payload hn ha hb hpayload
  rw [← issuerNamespace_rel h]
  constructor
  · exact fun hsame => hsame.issuerNamespace
  · intro hnamespace
    exact ⟨projectionCalls_eq h hpa hpb service event, hnamespace, keyStatusUpdates_eq h hpa hpb⟩

/-! ## A namespace that carries a signature of its own -/

/-- A host that counts the numbers with strokes, and signs with a mark. -/
def markingHost : SignatureHost where
  localeLess a b := decide (a < b)
  numberText n := String.ofList (List.replicate (Encodable.encode (n.num, n.den) + 1) '1')
  verifyEd25519 publicPem payload signature :=
    match signature with
    | .str s => publicPem = "authority-public" && s = "signed:" ++ payload
    | _ => false

theorem marking_strokes (n : Rat) : (markingHost.numberText n).toList
    = List.replicate (Encodable.encode (n.num, n.den) + 1) '1' := String.toList_ofList

theorem marking_numberTexts : CanonicalText.NumberTexts markingHost.numberText where
  injective := by
    intro n m h
    have hlength := congrArg (fun text => text.toList.length) h
    simp only [marking_strokes, List.length_replicate] at hlength
    have hpair := Encodable.encode_injective (Nat.succ.inj hlength)
    exact Rat.ext (congrArg Prod.fst hpair) (congrArg Prod.snd hpair)
  letters := by
    intro n c hc
    rw [marking_strokes] at hc
    rw [List.eq_of_mem_replicate hc]
    decide
  nonempty := by
    intro n
    rw [marking_strokes]
    exact List.cons_ne_nil _ _

/-- The key of the authority. -/
def authorityKey : TrustKeyRecord :=
  { demoDelegatedAuthorityTrustKey with publicKeyMaterialPem := some "authority-public" }

/-- The registry over it. -/
def authorityRegistry : TrustKeyRegistry := makeInMemoryTrustKeyRegistry [authorityKey]

/-- The lookup of the registry, and the material of its keys. -/
def registryLookup (registry : Option TrustKeyRegistry) (input : TrustKeyLookupInput) :
    TrustKeyLookupResult :=
  selectTrustKeyForLookup ((registry.map (·.values)).getD []) input

def ownMaterial : KeyMaterialProvider := fun key => .ok key.publicKeyMaterialPem

/-- The record of an active issuer, with more fields in its namespace and of its own. -/
def recordFields (metadata signature : List (String × JsonValue)) : JsonValue :=
  .obj
    ([ ("artifact_type", .str "issuer_record"),
       ("root_program_id", .str "root:qrtrust-demo:2026"),
       ("delegated_authority_id", .str "authority:qrtrust-demo:merchant-web"),
       ("issuer_namespace", .obj
          ([ ("root_program_id", .str "root:qrtrust-demo:2026"),
             ("delegated_authority_id", .str "authority:qrtrust-demo:merchant-web"),
             ("issuer_id", .str "issuer:acme-demo") ] ++ metadata)),
       ("issuer_display_name", .str "Acme Demo"), ("issuer_class", .str "merchant"),
       ("assurance_tier", .str "verified_business"),
       ("destination_policies", .arr
          [ .obj
              [ ("destination_policy_id", .str "policy:acme-demo:checkout:v1"),
                ("policy_ref", .str "artifact:policy"), ("status", .str "active") ] ]),
       ("status", .obj
          [ ("issuer_status", .str "active"), ("certificate_status", .str "active"),
            ("status_event_ref", .str "none") ]),
       ("publication", .obj
          [ ("published_at", .str "2026-01-01T00:00:00Z"),
            ("valid_until", .str "2027-01-01T00:00:00Z") ]),
       ("signed_by", .str "authority:qrtrust-demo:merchant-web") ] ++ signature)

/-- The record, signed as it stands before the fields of its signature are added. -/
def signedRecord (metadata : List (String × JsonValue)) (signatureStatus : String) : JsonValue :=
  recordFields metadata
    [ ("signature_status", .str signatureStatus), ("signature_algorithm_id", .str "ed25519"),
      ("signature_input", .str trustSignatureInput),
      ("signature", .str ("signed:" ++ trustSignaturePayload markingHost (recordFields [] []))) ]

/-- The event that brings a record. -/
def recordEvent : NetworkEvent :=
  SyncReplay.demoEvent "issuer.record.published" "artifact:issuer" (signedRecord [] "ed25519-signed")

/-- The verifier of the cases below accepts the body, and its scope matches. -/
def PassesDemo (body : JsonValue) : Prop :=
  Passes markingHost registryLookup ownMaterial (some authorityRegistry) body

/-- The record as it was signed, with another note on its signature, and with a
    signature in its namespace. -/
def plainRecord : JsonValue := signedRecord [] "ed25519-signed"

def restatedRecord : JsonValue := signedRecord [] "unsigned"

def annotatedRecord : JsonValue := signedRecord [("signature", .str "anything")] "ed25519-signed"

/-- What is signed of the three records is one document. -/
theorem payload_plain : trustSignaturePayload markingHost plainRecord
    = trustSignaturePayload markingHost (recordFields [] []) :=
  congrArg (canonicalJsonStringify markingHost)
    (rfl : stripSignatureMetadata plainRecord = stripSignatureMetadata (recordFields [] []))

theorem payload_restated : trustSignaturePayload markingHost restatedRecord
    = trustSignaturePayload markingHost (recordFields [] []) :=
  congrArg (canonicalJsonStringify markingHost)
    (rfl : stripSignatureMetadata restatedRecord = stripSignatureMetadata (recordFields [] []))

theorem payload_annotated : trustSignaturePayload markingHost annotatedRecord
    = trustSignaturePayload markingHost (recordFields [] []) :=
  congrArg (canonicalJsonStringify markingHost)
    (rfl : stripSignatureMetadata annotatedRecord = stripSignatureMetadata (recordFields [] []))

theorem verified_signedRecord {metadata : List (String × JsonValue)} {signatureStatus : String}
    (h : trustSignaturePayload markingHost (signedRecord metadata signatureStatus)
      = trustSignaturePayload markingHost (recordFields [] [])) :
    (asCollaborator markingHost registryLookup ownMaterial (some authorityRegistry)
      (signedRecord metadata signatureStatus)).accepted = true := by
  have hlookup : lookupSigner (registryLookup (some authorityRegistry))
      (signedRecord metadata signatureStatus) = .ok { key := some authorityKey } := rfl
  have hverifies : SignatureAcceptance.Verifies markingHost ownMaterial
      (signedRecord metadata signatureStatus) authorityKey := by
    refine ⟨_, "authority-public", rfl, rfl, ?_⟩
    rw [h]
    simp [markingHost]
  obtain ⟨reason, hresult⟩ :=
    (SignatureAcceptance.verifyTrustArtifact_usable hlookup).mpr ⟨⟨rfl, rfl⟩, hverifies⟩
  rw [asCollaborator, hresult]

/-- The three are recognised, and in the scope their bodies name. -/
theorem demo_recognized : ∀ record ∈ [plainRecord, restatedRecord, annotatedRecord],
    isRecognizedTrustArtifact record = true ∧ trustArtifactScopeMatchesBody record = true := by
  decide +kernel

theorem passes_plain : PassesDemo plainRecord := by
  obtain ⟨hrecognized, hscope⟩ := demo_recognized plainRecord (List.mem_cons_self ..)
  exact ⟨hrecognized, verified_signedRecord payload_plain, hscope⟩

theorem passes_restated : PassesDemo restatedRecord := by
  obtain ⟨hrecognized, hscope⟩ :=
    demo_recognized restatedRecord (List.mem_cons_of_mem _ (List.mem_cons_self ..))
  exact ⟨hrecognized, verified_signedRecord payload_restated, hscope⟩

theorem passes_annotated : PassesDemo annotatedRecord := by
  obtain ⟨hrecognized, hscope⟩ := demo_recognized annotatedRecord
    (List.mem_cons_of_mem _ (List.mem_cons_of_mem _ (List.mem_cons_self ..)))
  exact ⟨hrecognized, verified_signedRecord payload_annotated, hscope⟩

theorem distinct_plain : Distinct plainRecord := by
  simp [plainRecord, signedRecord, recordFields, Distinct, DistinctFields, DistinctItems]

theorem distinct_restated : Distinct restatedRecord := by
  simp [restatedRecord, signedRecord, recordFields, Distinct, DistinctFields, DistinctItems]

theorem distinct_annotated : Distinct annotatedRecord := by
  simp [annotatedRecord, signedRecord, recordFields, Distinct, DistinctFields, DistinctItems]

/-- Another note on the signature changes nothing. -/
theorem demo_same_projection :
    restatedRecord ≠ plainRecord
      ∧ Same (projected SyncReplay.demoService (some authorityRegistry) recordEvent plainRecord)
        (projected SyncReplay.demoService (some authorityRegistry) recordEvent restatedRecord) := by
  refine ⟨?_, (same_projection_iff marking_numberTexts distinct_plain distinct_restated passes_plain
    passes_restated (payload_plain.trans payload_restated.symm)).mpr fun _ ns ns' hns hns' path _ => ?_⟩
  · intro h
    have hstatus : restatedRecord.stringField "signature_status"
        = plainRecord.stringField "signature_status" := by rw [h]
    exact absurd hstatus (by decide +kernel)
  · have hsame : plainRecord.prop "issuer_namespace" = restatedRecord.prop "issuer_namespace" := rfl
    rw [Option.some.inj (hns.symm.trans (hsame.trans hns'))]

/-- Two accepted records with one payload: what the cache is handed for the second has
    the signature that stood in its namespace. -/
theorem unsigned_field_projected :
    Distinct plainRecord ∧ Distinct annotatedRecord ∧ PassesDemo plainRecord
      ∧ PassesDemo annotatedRecord
      ∧ trustSignaturePayload markingHost plainRecord
        = trustSignaturePayload markingHost annotatedRecord
      ∧ ¬ Same (projected SyncReplay.demoService (some authorityRegistry) recordEvent plainRecord)
        (projected SyncReplay.demoService (some authorityRegistry) recordEvent annotatedRecord) := by
  refine ⟨distinct_plain, distinct_annotated, passes_plain, passes_annotated,
    payload_plain.trans payload_annotated.symm, ?_⟩
  intro hsame
  have hread := hsame.read [.key "signature"]
  exact absurd hread (by decide +kernel)

end SignatureCoverage
