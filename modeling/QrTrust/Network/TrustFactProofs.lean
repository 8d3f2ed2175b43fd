import QrTrust.Lib.Latch
import QrTrust.Network.SyncAcceptanceProofs

/-! # The four facts behind an answer

    A policy answers when its authority is active under the root, its issuer is
    active under the authority, a record of the issuer stands under its key, and
    the policy itself stands there.  Each is a latch: some cache calls set it,
    some clear it, and the other calls leave it alone. -/

namespace TrustFact

open VerifierCache PolicyDecoding VerifierSync SyncGate SyncAcceptance Runs

/-- A fact about the cache as a latch of the service. -/
def cacheLatch (service : SyncService) (Holds : Cache → Prop) (Sets Clears : CacheCall → Prop)
    (happly : ∀ cache call, Holds (applyCall cache call) ↔
      Sets call ∨ (Holds cache ∧ ¬ Clears call)) : Latch (machine service) where
  Holds s := Holds s.cache
  Sets a := ∃ call, a = .cacheCall call ∧ Sets call
  Clears a := ∃ call, a = .cacheCall call ∧ Clears call
  apply_iff s a := by
    cases a with
    | cacheCall call =>
        show Holds (applyCall s.cache call) ↔ _
        rw [happly]
        simp only [SyncAction.cacheCall.injEq, exists_eq_left']
    | verifyTrustArtifact body result => simp [machine, applyAction]
    | updateTrustKeyStatus input => simp [machine, applyAction]

/-! ## Active under the root -/

/-- The authority is active under the root. -/
def AuthorityActive (rootProgramId delegatedAuthorityId : String) (cache : Cache) : Prop :=
  delegatedAuthorityId ∈ (cache.activeDelegatedAuthoritiesByRoot.get? rootProgramId).getD []

/-- A root manifest that lists the authority as active. -/
def ListsAuthority (rootProgramId delegatedAuthorityId : String) : CacheCall → Prop
  | .upsertRootAuthorityContext context =>
      context.rootProgramId = rootProgramId
        ∧ delegatedAuthorityId ∈ context.activeDelegatedAuthorityIds
  | _ => False

/-- A root manifest that lists the authority no more, or its removal. -/
def WithdrawsAuthority (rootProgramId delegatedAuthorityId : String) : CacheCall → Prop
  | .upsertRootAuthorityContext context =>
      context.rootProgramId = rootProgramId
        ∧ delegatedAuthorityId ∉ context.activeDelegatedAuthorityIds
  | .removeDelegatedAuthority key =>
      key.rootProgramId = rootProgramId ∧ key.delegatedAuthorityId = delegatedAuthorityId
  | _ => False

/-- Adding members to a set. -/
theorem mem_addAll {set members : List String} {m : String} :
    m ∈ addAll set members ↔ m ∈ set ∨ m ∈ members := by
  rw [addAll]
  induction members generalizing set with
  | nil => simp
  | cons first rest ih =>
      rw [List.foldl_cons, ih, List.mem_insert_iff, List.mem_cons]
      constructor
      · rintro ((rfl | h) | h)
        · exact .inr (.inl rfl)
        · exact .inl h
        · exact .inr (.inr h)
      · rintro (h | rfl | h)
        · exact .inl (.inr h)
        · exact .inl (.inl rfl)
        · exact .inr h

theorem authorityActive_applyCall (rootProgramId delegatedAuthorityId : String) (cache : Cache)
    (call : CacheCall) :
    AuthorityActive rootProgramId delegatedAuthorityId (applyCall cache call) ↔
      ListsAuthority rootProgramId delegatedAuthorityId call
        ∨ (AuthorityActive rootProgramId delegatedAuthorityId cache
          ∧ ¬ WithdrawsAuthority rootProgramId delegatedAuthorityId call) := by
  cases call with
  | upsertRootAuthorityContext context =>
      show delegatedAuthorityId ∈ ((OrderedMap.set ..).get? rootProgramId).getD [] ↔ _
      rw [OrderedMap.get?_set]
      simp only [ListsAuthority, WithdrawsAuthority, AuthorityActive]
      by_cases hroot : rootProgramId = context.rootProgramId
      · subst hroot
        simp only [if_true, Option.getD_some, mem_addAll, List.not_mem_nil, false_or, true_and,
          not_not]
        tauto
      · rw [if_neg hroot]
        simp [Ne.symm hroot]
  | removeDelegatedAuthority key =>
      simp only [ListsAuthority, WithdrawsAuthority, AuthorityActive, false_or, applyCall,
        removeDelegatedAuthority]
      cases hget : cache.activeDelegatedAuthoritiesByRoot.get? key.rootProgramId with
      | none =>
          constructor
          · intro h
            refine ⟨h, ?_⟩
            rintro ⟨rfl, -⟩
            simp [hget] at h
          · rintro ⟨h, -⟩
            exact h
      | some authorities =>
          dsimp only
          rw [OrderedMap.get?_set]
          by_cases hroot : rootProgramId = key.rootProgramId
          · subst hroot
            rw [if_pos rfl, hget]
            simp only [Option.getD_some, List.mem_filter, decide_eq_true_eq, true_and]
            rw [ne_eq, eq_comm]
          · rw [if_neg hroot]
            simp [Ne.symm hroot]
  | _ => simp [ListsAuthority, WithdrawsAuthority, AuthorityActive, applyCall, putProjection,
      replaceDelegatedAuthorityIssuerContext, mergeDelegatedAuthorityIssuerContext]

/-- **AUTHORITY**: active under its root. -/
def authority (service : SyncService) (rootProgramId delegatedAuthorityId : String) :
    Latch (machine service) :=
  cacheLatch service _ _ _ (authorityActive_applyCall rootProgramId delegatedAuthorityId)

/-! ## Active under the authority -/

/-- The issuer is active under its authority. -/
def IssuerActive (ns : IssuerNamespace) (cache : Cache) : Prop :=
  authorityIssuerKey ns ∈ cache.activeIssuersByAuthority

/-- The prefix of an authority covers its issuers. -/
theorem startsWith_authorityPrefix (ns : IssuerNamespace) :
    JsString.startsWith (authorityIssuerKey ns)
      (authorityPrefix ns.rootProgramId ns.delegatedAuthorityId) = true := by
  simp [JsString.startsWith, authorityIssuerKey, authorityPrefix, JsString.joinUnitSeparator]

/-- Under an authority a key names its issuer. -/
theorem authorityIssuerKey_inj {root authority a b : String}
    (h : authorityIssuerKey ⟨root, authority, a⟩ = authorityIssuerKey ⟨root, authority, b⟩) :
    a = b := by
  rw [authorityIssuerKey, authorityIssuerKey, JsString.joinUnitSeparator,
    JsString.joinUnitSeparator, String.ofList_inj] at h
  exact String.toList_inj.mp (by simpa using h)

/-- The manifest lists the issuer as active. -/
def ContextLists (context : DelegatedAuthorityIssuerContext) (ns : IssuerNamespace) : Prop :=
  ∃ issuerId ∈ context.activeIssuerIds,
    authorityIssuerKey ⟨context.rootProgramId, context.delegatedAuthorityId, issuerId⟩
      = authorityIssuerKey ns

/-- An authority's manifest that lists the issuer as active. -/
def ListsIssuer (ns : IssuerNamespace) : CacheCall → Prop
  | .upsertDelegatedAuthorityIssuerContext context => ContextLists context ns
  | _ => False

/-- A manifest of the issuer's authority that lists it no more, or the removal of
    the authority. -/
def WithdrawsIssuer (ns : IssuerNamespace) : CacheCall → Prop
  | .upsertDelegatedAuthorityIssuerContext context =>
      JsString.startsWith (authorityIssuerKey ns)
          (authorityPrefix context.rootProgramId context.delegatedAuthorityId) = true
        ∧ ¬ ContextLists context ns
  | .removeDelegatedAuthority key =>
      JsString.startsWith (authorityIssuerKey ns)
        (authorityPrefix key.rootProgramId key.delegatedAuthorityId) = true
  | _ => False

theorem issuerActive_applyCall (ns : IssuerNamespace) (cache : Cache) (call : CacheCall) :
    IssuerActive ns (applyCall cache call) ↔
      ListsIssuer ns call ∨ (IssuerActive ns cache ∧ ¬ WithdrawsIssuer ns call) := by
  cases call with
  | upsertDelegatedAuthorityIssuerContext context =>
      show authorityIssuerKey ns ∈ addAll (List.filter _ _) _ ↔ _
      rw [mem_addAll, List.mem_filter, List.mem_map]
      simp only [ListsIssuer, WithdrawsIssuer, IssuerActive, ContextLists,
        Bool.not_eq_true']
      cases JsString.startsWith (authorityIssuerKey ns)
        (authorityPrefix context.rootProgramId context.delegatedAuthorityId)
      · simp only [Bool.false_eq_true, false_and, not_false_eq_true, and_true]
        exact or_comm
      · simp only [Bool.true_eq_false, and_false, false_or, true_and, not_not]
        exact (or_iff_left_of_imp And.right).symm
  | removeDelegatedAuthority key =>
      show authorityIssuerKey ns ∈ List.filter _ _ ↔ _
      rw [List.mem_filter]
      simp [ListsIssuer, WithdrawsIssuer, IssuerActive]
  | _ => simp [ListsIssuer, WithdrawsIssuer, IssuerActive, applyCall, putProjection,
      replaceRootAuthorityContext]

/-- **ISSUER**: active under its authority. -/
def issuer (service : SyncService) (ns : IssuerNamespace) : Latch (machine service) :=
  cacheLatch service _ _ _ (issuerActive_applyCall ns)

/-- The context of a namespace is both facts together. -/
theorem hasAuthorityContext_iff {cache : Cache} {ns : IssuerNamespace} :
    hasAuthorityContext cache ns = true ↔
      AuthorityActive ns.rootProgramId ns.delegatedAuthorityId cache ∧ IssuerActive ns cache := by
  rw [hasAuthorityContext, Bool.and_eq_true, List.contains_iff_mem, List.contains_iff_mem]
  rfl

/-! ## A record under the key -/

/-- A record of the issuer stands under the key. -/
def RecordStands (ns : IssuerNamespace) (key : String) (cache : Cache) : Prop :=
  ∃ record, cache.issuersByPolicyKey.get? key = some record ∧ record.ns = ns

/-- A record of the issuer is written under the key. -/
def WritesRecord (ns : IssuerNamespace) (key : String) : CacheCall → Prop
  | .upsertIssuer projection => projection.policyKey = key ∧ projection.ns = ns
  | _ => False

/-- The record is overwritten by another issuer's, or removed. -/
def WithdrawsRecord (ns : IssuerNamespace) (key : String) : CacheCall → Prop
  | .upsertIssuer projection => projection.policyKey = key ∧ projection.ns ≠ ns
  | .removeIssuer target => ns = target
  | .removeDelegatedAuthority target => delegatedAuthorityEquals ns target = true
  | _ => False

theorem recordStands_iff {ns : IssuerNamespace} {key : String} {cache : Cache} :
    RecordStands ns key cache ↔
      ∃ record, (key, record) ∈ cache.issuersByPolicyKey.entries ∧ record.ns = ns :=
  exists_congr fun _ => and_congr_left fun _ => OrderedMap.get?_eq_some_iff ..

theorem recordStands_applyCall (ns : IssuerNamespace) (key : String) (cache : Cache)
    (call : CacheCall) :
    RecordStands ns key (applyCall cache call) ↔
      WritesRecord ns key call ∨ (RecordStands ns key cache ∧ ¬ WithdrawsRecord ns key call) := by
  cases call with
  | upsertIssuer projection =>
      show (∃ record : IssuerProjection, (OrderedMap.set ..).get? key = some record ∧ record.ns = ns) ↔ _
      rw [OrderedMap.get?_set]
      simp only [WritesRecord, WithdrawsRecord, RecordStands]
      by_cases hkey : key = projection.policyKey
      · subst hkey
        simp only [if_true, Option.some.injEq, exists_eq_left', true_and]
        tauto
      · rw [if_neg hkey]
        simp [Ne.symm hkey]
  | updateIssuerAssuranceTier update =>
      show (∃ record : IssuerProjection, (OrderedMap.mapValues ..).get? key = some record ∧ record.ns = ns) ↔ _
      rw [OrderedMap.get?_mapValues]
      simp only [WritesRecord, WithdrawsRecord, RecordStands, Option.map_eq_some_iff, false_or,
        not_false_eq_true, and_true]
      constructor
      · rintro ⟨_, ⟨old, hold, rfl⟩, hns⟩
        refine ⟨old, hold, ?_⟩
        split at hns <;> exact hns
      · rintro ⟨old, hold, hns⟩
        refine ⟨_, ⟨old, hold, rfl⟩, ?_⟩
        split <;> exact hns
  | removeIssuer target =>
      rw [recordStands_iff, recordStands_iff]
      show (∃ record : IssuerProjection, (key, record) ∈ (OrderedMap.filter ..).entries ∧ record.ns = ns) ↔ _
      simp only [OrderedMap.mem_filter, WritesRecord, WithdrawsRecord, false_or,
        decide_eq_true_eq]
      constructor
      · rintro ⟨record, ⟨hmem, hne⟩, rfl⟩
        exact ⟨⟨record, hmem, rfl⟩, hne⟩
      · rintro ⟨⟨record, hmem, rfl⟩, hne⟩
        exact ⟨record, ⟨hmem, hne⟩, rfl⟩
  | removeDelegatedAuthority target =>
      rw [recordStands_iff, recordStands_iff]
      show (∃ record : IssuerProjection, (key, record) ∈ (OrderedMap.filter ..).entries ∧ record.ns = ns) ↔ _
      simp only [OrderedMap.mem_filter, WritesRecord, WithdrawsRecord, false_or,
        Bool.not_eq_true', Bool.not_eq_true]
      constructor
      · rintro ⟨record, ⟨hmem, hne⟩, rfl⟩
        exact ⟨⟨record, hmem, rfl⟩, hne⟩
      · rintro ⟨⟨record, hmem, rfl⟩, hne⟩
        exact ⟨record, ⟨hmem, hne⟩, rfl⟩
  | _ => simp [WritesRecord, WithdrawsRecord, RecordStands, applyCall,
      replaceRootAuthorityContext, replaceDelegatedAuthorityIssuerContext,
      mergeDelegatedAuthorityIssuerContext]

/-- **RECORD**: a record of the issuer under the key. -/
def record (service : SyncService) (ns : IssuerNamespace) (key : String) :
    Latch (machine service) :=
  cacheLatch service _ _ _ (recordStands_applyCall ns key)

/-! ## The policy under its key -/

/-- The policy stands under its key. -/
def PolicyStands (policy : DestinationPolicyProjection) (cache : Cache) : Prop :=
  cache.policiesByKey.get? policy.policyKey = some policy

/-- The policy is written. -/
def WritesPolicy (policy : DestinationPolicyProjection) : CacheCall → Prop
  | .upsertDestinationPolicy written => written = policy
  | _ => False

/-- Another policy is written under the key, or the policy is removed. -/
def WithdrawsPolicy (policy : DestinationPolicyProjection) : CacheCall → Prop
  | .upsertDestinationPolicy written =>
      written.policyKey = policy.policyKey ∧ written ≠ policy
  | .removeDestinationPolicy key =>
      verifierCachePolicyKey key.ns key.destinationPolicyId = policy.policyKey
  | .removeDestinationPoliciesForIssuer ns => policy.ns = ns
  | .removeDelegatedAuthority key => delegatedAuthorityEquals policy.ns key = true
  | _ => False

theorem policyStands_applyCall (policy : DestinationPolicyProjection) (cache : Cache)
    (call : CacheCall) :
    PolicyStands policy (applyCall cache call) ↔
      WritesPolicy policy call ∨ (PolicyStands policy cache ∧ ¬ WithdrawsPolicy policy call) := by
  cases call with
  | upsertDestinationPolicy written =>
      show (OrderedMap.set ..).get? policy.policyKey = some policy ↔ _
      rw [OrderedMap.get?_set]
      simp only [WritesPolicy, WithdrawsPolicy, PolicyStands]
      by_cases hkey : policy.policyKey = written.policyKey
      · rw [if_pos hkey, Option.some.injEq]
        simp only [hkey, true_and, not_not]
        tauto
      · rw [if_neg hkey]
        have hne : written ≠ policy := fun heq => hkey (by rw [heq])
        simp [hne, Ne.symm hkey]
  | removeDestinationPolicy key =>
      simp only [PolicyStands, OrderedMap.get?_eq_some_iff, WritesPolicy, WithdrawsPolicy,
        false_or]
      show (policy.policyKey, policy) ∈ (OrderedMap.erase ..).entries ↔ _
      rw [OrderedMap.mem_erase]
      exact and_congr_right fun _ => not_congr eq_comm
  | removeDestinationPoliciesForIssuer ns =>
      simp only [PolicyStands, OrderedMap.get?_eq_some_iff, WritesPolicy, WithdrawsPolicy,
        false_or]
      show (policy.policyKey, policy) ∈ (OrderedMap.filter ..).entries ↔ _
      rw [OrderedMap.mem_filter]
      simp
  | removeDelegatedAuthority key =>
      simp only [PolicyStands, OrderedMap.get?_eq_some_iff, WritesPolicy, WithdrawsPolicy,
        false_or]
      show (policy.policyKey, policy) ∈ (OrderedMap.filter ..).entries ↔ _
      rw [OrderedMap.mem_filter]
      simp
  | _ => simp [WritesPolicy, WithdrawsPolicy, PolicyStands, applyCall, putProjection,
      replaceRootAuthorityContext, replaceDelegatedAuthorityIssuerContext,
      mergeDelegatedAuthorityIssuerContext]

/-- **POLICY**: the policy under its key. -/
def policy (service : SyncService) (projection : DestinationPolicyProjection) :
    Latch (machine service) :=
  cacheLatch service _ _ _ (policyStands_applyCall projection)

end TrustFact
