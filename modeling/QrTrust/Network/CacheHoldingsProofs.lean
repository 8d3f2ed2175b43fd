import QrTrust.Network.PolicyMatchProofs
import QrTrust.Network.TrustFactProofs
import Mathlib.Data.Set.Basic

/-! # What the writers leave standing

    The cache keeps its entries under joined texts.  What the calls of a run
    leave standing is said here by ids instead: which authorities are active
    under a root, which issuers under an authority, and which record and policy
    stand under a key.  Everything that a cache holds is backed by it, whatever
    the ids are (`backed_run`), so an answer of the cache is one about ids as
    soon as the texts tell these apart. -/

namespace CacheHoldings

open VerifierCache TrustFact

/-- **HOLDINGS**: what stands after a run, by ids. -/
structure Holdings where
  authorities : Set DelegatedAuthorityKey
  issuers : Set IssuerNamespace
  records : DestinationPolicyKey → Option IssuerProjection
  policies : DestinationPolicyKey → Option DestinationPolicyProjection

/-- Nothing stands. -/
def Holdings.empty : Holdings := ⟨∅, ∅, fun _ => none, fun _ => none⟩

/-- What stands after a call. -/
def Holdings.after (held : Holdings) : CacheCall → Holdings
  | .upsertIssuer projection =>
      { held with
        records := Function.update held.records
          ⟨projection.ns, projection.destinationPolicyId⟩ (some projection) }
  | .upsertDestinationPolicy policy =>
      { held with
        policies := Function.update held.policies
          ⟨policy.ns, policy.destinationPolicyId⟩ (some policy) }
  | .upsertRootAuthorityContext context =>
      { held with
        authorities := {key |
          (key.rootProgramId = context.rootProgramId
              ∧ key.delegatedAuthorityId ∈ context.activeDelegatedAuthorityIds)
            ∨ (key.rootProgramId ≠ context.rootProgramId ∧ key ∈ held.authorities)} }
  | .upsertDelegatedAuthorityIssuerContext context =>
      { held with
        issuers := {ns |
          (delegatedAuthorityEquals ns ⟨context.rootProgramId, context.delegatedAuthorityId⟩ = true
              ∧ ns.issuerId ∈ context.activeIssuerIds)
            ∨ (delegatedAuthorityEquals ns ⟨context.rootProgramId, context.delegatedAuthorityId⟩
                = false ∧ ns ∈ held.issuers)} }
  | .updateIssuerAssuranceTier update =>
      { held with
        records := fun key => (held.records key).map fun record =>
          if key.ns = update.ns then { record with assuranceTier := update.assuranceTier }
          else record }
  | .removeIssuer ns =>
      { held with records := fun key => if key.ns = ns then none else held.records key }
  | .removeDestinationPolicy key =>
      { held with policies := Function.update held.policies key none }
  | .removeDestinationPoliciesForIssuer ns =>
      { held with policies := fun key => if key.ns = ns then none else held.policies key }
  | .removeDelegatedAuthority target =>
      { authorities := {key | key ∈ held.authorities ∧ key ≠ target}
        issuers := {ns | ns ∈ held.issuers ∧ delegatedAuthorityEquals ns target = false}
        records := fun key =>
          if delegatedAuthorityEquals key.ns target then none else held.records key
        policies := fun key =>
          if delegatedAuthorityEquals key.ns target then none else held.policies key }

/-- With the authority and the issuer of a namespace active. -/
def Holdings.activate (held : Holdings) (ns : IssuerNamespace) : Holdings :=
  { held with
    authorities := insert ⟨ns.rootProgramId, ns.delegatedAuthorityId⟩ held.authorities
    issuers := insert ns held.issuers }

/-- What stands in the cache that `makeInMemoryVerifierCache` starts with. -/
def heldInitially (initial : List IssuerProjection)
    (initialDestinationPolicies : List DestinationPolicyProjection) : Holdings :=
  let withIssuers := initial.foldl
    (fun held projection => (held.after (.upsertIssuer projection)).activate projection.ns) .empty
  initialDestinationPolicies.foldl
    (fun held policy => (held.after (.upsertDestinationPolicy policy)).activate policy.ns)
    withIssuers

/-- **BACKED**: everything in the cache stands, under the text of its own ids. -/
structure Backed (held : Holdings) (cache : Cache) : Prop where
  authorities : ∀ root authority, AuthorityActive root authority cache →
    ⟨root, authority⟩ ∈ held.authorities
  issuers : ∀ text ∈ cache.activeIssuersByAuthority, ∃ ns ∈ held.issuers,
    text = authorityIssuerKey ns
  records : ∀ text record, (text, record) ∈ cache.issuersByPolicyKey.entries →
    text = record.policyKey
      ∧ held.records ⟨record.ns, record.destinationPolicyId⟩ = some record
  policies : ∀ text policy, (text, policy) ∈ cache.policiesByKey.entries →
    text = policy.policyKey
      ∧ held.policies ⟨policy.ns, policy.destinationPolicyId⟩ = some policy

variable {held : Holdings} {cache : Cache}

theorem backed_empty : Backed .empty .empty where
  authorities _ _ h := absurd h List.not_mem_nil
  issuers _ h := absurd h List.not_mem_nil
  records _ _ h := absurd h List.not_mem_nil
  policies _ _ h := absurd h List.not_mem_nil

/-! ## One call -/

/-- The authorities after a call are those it lists and those it does not withdraw. -/
theorem mem_authorities_after {key : DelegatedAuthorityKey} {call : CacheCall} :
    key ∈ (held.after call).authorities ↔
      ListsAuthority key.rootProgramId key.delegatedAuthorityId call
        ∨ (key ∈ held.authorities
          ∧ ¬ WithdrawsAuthority key.rootProgramId key.delegatedAuthorityId call) := by
  cases call with
  | upsertRootAuthorityContext context =>
      simp only [Holdings.after, ListsAuthority, WithdrawsAuthority, Set.mem_ofPred_eq]
      by_cases hroot : key.rootProgramId = context.rootProgramId
      · simp only [hroot, true_and, ne_eq, not_true_eq_false, false_and, or_false, not_not]
        tauto
      · simp only [hroot, Ne.symm hroot, false_and, false_or, ne_eq, not_false_eq_true, true_and,
          and_true]
  | removeDelegatedAuthority target =>
      obtain ⟨root, authority⟩ := key
      obtain ⟨root', authority'⟩ := target
      simp only [Holdings.after, ListsAuthority, WithdrawsAuthority, Set.mem_ofPred_eq, false_or,
        ne_eq, DelegatedAuthorityKey.mk.injEq]
      rw [eq_comm, @eq_comm _ authority]
  | _ => simp [Holdings.after, ListsAuthority, WithdrawsAuthority]

/-- What a delegated authority has is covered by its prefix. -/
theorem startsWith_of_equals {ns : IssuerNamespace} {key : DelegatedAuthorityKey}
    (h : delegatedAuthorityEquals ns key = true) :
    JsString.startsWith (authorityIssuerKey ns)
      (authorityPrefix key.rootProgramId key.delegatedAuthorityId) = true := by
  rw [delegatedAuthorityEquals, Bool.and_eq_true, decide_eq_true_eq, decide_eq_true_eq] at h
  rw [← h.1, ← h.2]
  exact startsWith_authorityPrefix ns

/-- What a filter by prefix leaves does not belong to the authority. -/
theorem issuers_outside (h : Backed held cache) (key : DelegatedAuthorityKey) {text : String}
    (htext : text ∈ cache.activeIssuersByAuthority.filter fun issuer =>
      !JsString.startsWith issuer (authorityPrefix key.rootProgramId key.delegatedAuthorityId)) :
    ∃ ns ∈ held.issuers, delegatedAuthorityEquals ns key = false ∧ text = authorityIssuerKey ns := by
  obtain ⟨hmem, houtside⟩ := List.mem_filter.mp htext
  obtain ⟨ns, hns, rfl⟩ := h.issuers text hmem
  refine ⟨ns, hns, ?_, rfl⟩
  cases hequals : delegatedAuthorityEquals ns key with
  | false => rfl
  | true =>
      rw [startsWith_of_equals hequals] at houtside
      cases houtside

/-- The issuers after a call stand. -/
theorem issuers_after (h : Backed held cache) (call : CacheCall) :
    ∀ text ∈ (applyCall cache call).activeIssuersByAuthority,
      ∃ ns ∈ (held.after call).issuers, text = authorityIssuerKey ns := by
  cases call with
  | upsertDelegatedAuthorityIssuerContext context =>
      intro text htext
      rcases mem_addAll.mp htext with hold | hnew
      · obtain ⟨ns, hns, houtside, rfl⟩ := issuers_outside h
          ⟨context.rootProgramId, context.delegatedAuthorityId⟩ hold
        exact ⟨ns, .inr ⟨houtside, hns⟩, rfl⟩
      · obtain ⟨issuerId, hissuer, rfl⟩ := List.mem_map.mp hnew
        refine ⟨_, .inl ⟨?_, hissuer⟩, rfl⟩
        simp [delegatedAuthorityEquals]
  | removeDelegatedAuthority target =>
      intro text htext
      obtain ⟨ns, hns, houtside, rfl⟩ := issuers_outside h target htext
      exact ⟨ns, ⟨hns, houtside⟩, rfl⟩
  | _ => exact h.issuers

/-- The records after a call stand. -/
theorem records_after (h : Backed held cache) (call : CacheCall) :
    ∀ text record, (text, record) ∈ (applyCall cache call).issuersByPolicyKey.entries →
      text = record.policyKey
        ∧ (held.after call).records ⟨record.ns, record.destinationPolicyId⟩ = some record := by
  cases call with
  | upsertIssuer projection =>
      intro text record hmem
      rcases (OrderedMap.mem_set ..).mp hmem with ⟨rfl, rfl⟩ | ⟨hother, hold⟩
      · exact ⟨rfl, Function.update_self ..⟩
      · obtain ⟨rfl, hstands⟩ := h.records text record hold
        refine ⟨rfl, (Function.update_of_ne ?_ ..).trans hstands⟩
        intro hsame
        obtain ⟨hns, hid⟩ := DestinationPolicyKey.mk.inj hsame
        refine hother ?_
        rw [IssuerProjection.policyKey, IssuerProjection.policyKey, hns, hid]
  | updateIssuerAssuranceTier update =>
      intro text record hmem
      obtain ⟨old, hold, rfl⟩ := (OrderedMap.mem_mapValues ..).mp hmem
      obtain ⟨rfl, hstands⟩ := h.records text old hold
      by_cases hns : old.ns = update.ns
      · rw [if_pos hns]
        refine ⟨rfl, ?_⟩
        show (held.records ⟨old.ns, old.destinationPolicyId⟩).map _ = _
        rw [hstands, Option.map_some, if_pos hns]
      · rw [if_neg hns]
        refine ⟨rfl, ?_⟩
        show (held.records ⟨old.ns, old.destinationPolicyId⟩).map _ = _
        rw [hstands, Option.map_some, if_neg hns]
  | removeIssuer ns =>
      intro text record hmem
      obtain ⟨hold, hother⟩ := (OrderedMap.mem_filter ..).mp hmem
      obtain ⟨rfl, hstands⟩ := h.records text record hold
      exact ⟨rfl, (if_neg (of_decide_eq_true hother)).trans hstands⟩
  | removeDelegatedAuthority target =>
      intro text record hmem
      obtain ⟨hold, hother⟩ := (OrderedMap.mem_filter ..).mp hmem
      obtain ⟨rfl, hstands⟩ := h.records text record hold
      refine ⟨rfl, (if_neg ?_).trans hstands⟩
      rwa [Bool.not_eq_true', ← Bool.not_eq_true] at hother
  | _ => exact h.records

/-- The policies after a call stand. -/
theorem policies_after (h : Backed held cache) (call : CacheCall) :
    ∀ text policy, (text, policy) ∈ (applyCall cache call).policiesByKey.entries →
      text = policy.policyKey
        ∧ (held.after call).policies ⟨policy.ns, policy.destinationPolicyId⟩ = some policy := by
  cases call with
  | upsertDestinationPolicy projection =>
      intro text policy hmem
      rcases (OrderedMap.mem_set ..).mp hmem with ⟨rfl, rfl⟩ | ⟨hother, hold⟩
      · exact ⟨rfl, Function.update_self ..⟩
      · obtain ⟨rfl, hstands⟩ := h.policies text policy hold
        refine ⟨rfl, (Function.update_of_ne ?_ ..).trans hstands⟩
        intro hsame
        obtain ⟨hns, hid⟩ := DestinationPolicyKey.mk.inj hsame
        refine hother ?_
        rw [DestinationPolicyProjection.policyKey, DestinationPolicyProjection.policyKey, hns, hid]
  | removeDestinationPolicy key =>
      intro text policy hmem
      obtain ⟨hold, hother⟩ := (OrderedMap.mem_erase ..).mp hmem
      obtain ⟨rfl, hstands⟩ := h.policies text policy hold
      refine ⟨rfl, (Function.update_of_ne ?_ ..).trans hstands⟩
      rintro rfl
      exact hother rfl
  | removeDestinationPoliciesForIssuer ns =>
      intro text policy hmem
      obtain ⟨hold, hother⟩ := (OrderedMap.mem_filter ..).mp hmem
      obtain ⟨rfl, hstands⟩ := h.policies text policy hold
      exact ⟨rfl, (if_neg (of_decide_eq_true hother)).trans hstands⟩
  | removeDelegatedAuthority target =>
      intro text policy hmem
      obtain ⟨hold, hother⟩ := (OrderedMap.mem_filter ..).mp hmem
      obtain ⟨rfl, hstands⟩ := h.policies text policy hold
      refine ⟨rfl, (if_neg ?_).trans hstands⟩
      rwa [Bool.not_eq_true', ← Bool.not_eq_true] at hother
  | _ => exact h.policies

/-- **ONE CALL**: what a call leaves in the cache stands. -/
theorem backed_applyCall (h : Backed held cache) (call : CacheCall) :
    Backed (held.after call) (applyCall cache call) where
  authorities root authority hactive := by
    refine mem_authorities_after.mpr ?_
    rcases (authorityActive_applyCall root authority cache call).mp hactive with hlists | ⟨hold, hkept⟩
    · exact .inl hlists
    · exact .inr ⟨h.authorities root authority hold, hkept⟩
  issuers := issuers_after h call
  records := records_after h call
  policies := policies_after h call

/-- Steps that keep the cache backed keep it so along a list. -/
theorem backed_foldl {α : Type} {hold : Holdings → α → Holdings} {write : Cache → α → Cache}
    (hstep : ∀ held cache a, Backed held cache → Backed (hold held a) (write cache a))
    (h : Backed held cache) (as : List α) : Backed (as.foldl hold held) (as.foldl write cache) := by
  induction as generalizing held cache with
  | nil => exact h
  | cons a rest ih => exact ih (hstep held cache a h)

/-- **A RUN**: what a run leaves in the cache stands. -/
theorem backed_run (h : Backed held cache) (calls : List CacheCall) :
    Backed (calls.foldl Holdings.after held) (calls.foldl applyCall cache) :=
  backed_foldl (fun _ _ call hbacked => backed_applyCall hbacked call) h calls

/-! ## The initial cache -/

/-- Seeding the context of a namespace. -/
theorem backed_seed (h : Backed held cache) (ns : IssuerNamespace) :
    Backed (held.activate ns) (seedAuthorityContext cache ns) where
  authorities root authority hactive := by
    have hmem : authority ∈ ((cache.activeDelegatedAuthoritiesByRoot.set ns.rootProgramId
        (addAll ((cache.activeDelegatedAuthoritiesByRoot.get? ns.rootProgramId).getD [])
          [ns.delegatedAuthorityId])).get? root).getD [] := hactive
    rw [OrderedMap.get?_set] at hmem
    by_cases hroot : root = ns.rootProgramId
    · subst hroot
      rw [if_pos rfl] at hmem
      rcases mem_addAll.mp hmem with hold | hnew
      · exact .inr (h.authorities _ _ hold)
      · rw [List.mem_singleton.mp hnew]
        exact .inl rfl
    · rw [if_neg hroot] at hmem
      exact .inr (h.authorities _ _ hmem)
  issuers text htext := by
    rcases mem_addAll.mp htext with hold | hnew
    · obtain ⟨ns', hns', rfl⟩ := h.issuers text hold
      exact ⟨ns', .inr hns', rfl⟩
    · rw [List.map_singleton, List.mem_singleton] at hnew
      exact ⟨ns, .inl rfl, hnew⟩
  records := h.records
  policies := h.policies

/-- **INITIALLY**: the cache starts backed. -/
theorem backed_initially (initial : List IssuerProjection)
    (initialDestinationPolicies : List DestinationPolicyProjection) :
    Backed (heldInitially initial initialDestinationPolicies)
      (makeInMemoryVerifierCache initial initialDestinationPolicies) := by
  refine backed_foldl (fun held cache policy hbacked => ?_)
    (backed_foldl (fun held cache projection hbacked => ?_) backed_empty initial)
    initialDestinationPolicies
  · exact backed_seed (backed_applyCall hbacked (.upsertDestinationPolicy policy)) policy.ns
  · exact backed_seed (backed_applyCall hbacked (.upsertIssuer projection)) projection.ns

end CacheHoldings
