import QrTrust.Network.VerifierCacheProofs

/-! # Which policy answers

    The search of the cache is a `find?` over the policies in insertion order:
    the first eligible policy decides, and it answers when an issuer record
    stands under its key.  In every cache the writers can build, policies and
    records stand under their own keys, so an answer says whose key decided. -/

namespace VerifierCache

/-! ## The first eligible policy -/

/-- **ELIGIBLE**: the root of the policy is accepted, its authority context is
    active, and it allows the host. -/
def eligible (reader : Reader) (cache : Cache)
    (allowsHost : DestinationPolicyProjection → String → Bool) (host : String)
    (policy : DestinationPolicyProjection) : Bool :=
  reader.acceptsRoot policy.ns.rootProgramId && hasAuthorityContext cache policy.ns
    && allowsHost policy host

/-- The policy under this key is the first eligible one: no policy before it is
    eligible for the host. -/
def FirstEligible (reader : Reader) (cache : Cache)
    (allowsHost : DestinationPolicyProjection → String → Bool) (host key : String) : Prop :=
  ∃ earlier policy later, cache.policiesByKey.values = earlier ++ policy :: later
    ∧ policy.policyKey = key ∧ eligible reader cache allowsHost host policy = true
    ∧ ∀ other ∈ earlier, eligible reader cache allowsHost host other = false

variable {reader : Reader} {cache : Cache} {host : String}
  {allowsHost : DestinationPolicyProjection → String → Bool}

theorem eligible_iff {policy : DestinationPolicyProjection} :
    eligible reader cache allowsHost host policy = true ↔
      reader.acceptsRoot policy.ns.rootProgramId = true
        ∧ hasAuthorityContext cache policy.ns = true ∧ allowsHost policy host = true := by
  rw [eligible, Bool.and_eq_true, Bool.and_eq_true, and_assoc]

/-- The answer of an eligible policy: the record under its key, if any. -/
def recordUnder (cache : Cache) (policy : DestinationPolicyProjection) :
    Option (IssuerProjection × DestinationPolicyProjection) :=
  (cache.issuersByPolicyKey.get? policy.policyKey).map fun issuer => (issuer, policy)

/-- **THE SEARCH**: the first eligible policy decides, with or without a record
    under its key. -/
theorem findPolicyMatch_eq (policies : List DestinationPolicyProjection) :
    findPolicyMatch reader cache allowsHost host policies
      = (policies.find? (eligible reader cache allowsHost host)).bind (recordUnder cache) := by
  induction policies with
  | nil => rfl
  | cons first rest ih =>
      rw [findPolicyMatch, List.find?_cons, eligible]
      cases reader.acceptsRoot first.ns.rootProgramId with
      | false => exact ih
      | true =>
          cases hasAuthorityContext cache first.ns with
          | false => exact ih
          | true =>
              cases allowsHost first host with
              | false => exact ih
              | true => rfl

/-- Being first is being found. -/
theorem firstEligible_iff {key : String} :
    FirstEligible reader cache allowsHost host key ↔
      ∃ policy, cache.policiesByKey.values.find? (eligible reader cache allowsHost host)
          = some policy ∧ policy.policyKey = key := by
  constructor
  · rintro ⟨earlier, policy, later, hvalues, hkey, heligible, hearlier⟩
    refine ⟨policy, ?_, hkey⟩
    rw [List.find?_eq_some_iff_append]
    refine ⟨heligible, earlier, later, hvalues, fun other hother => ?_⟩
    rw [hearlier other hother]
    rfl
  · rintro ⟨policy, hfound, hkey⟩
    obtain ⟨heligible, earlier, later, hvalues, hearlier⟩ :=
      List.find?_eq_some_iff_append.mp hfound
    refine ⟨earlier, policy, later, hvalues, hkey, heligible, fun other hother => ?_⟩
    have hnot := hearlier other hother
    rwa [Bool.not_eq_true'] at hnot

/-- Another first policy keeps a key from being first. -/
theorem not_firstEligible {key : String} (policy : DestinationPolicyProjection)
    (hfound : cache.policiesByKey.values.find? (eligible reader cache allowsHost host)
      = some policy) (hne : policy.policyKey ≠ key) :
    ¬ FirstEligible reader cache allowsHost host key := by
  rw [firstEligible_iff]
  rintro ⟨policy', hfound', rfl⟩
  exact hne (congrArg _ (Option.some.inj (hfound.symm.trans hfound')))

/-! ## Well-keyed caches -/

/-- Within a namespace a key names its policy. -/
theorem verifierCachePolicyKey_inj {ns : IssuerNamespace} {a b : String}
    (h : verifierCachePolicyKey ns a = verifierCachePolicyKey ns b) : a = b := by
  rw [verifierCachePolicyKey, verifierCachePolicyKey, JsString.joinUnitSeparator,
    JsString.joinUnitSeparator, String.ofList_inj] at h
  exact String.toList_inj.mp (by simpa using h)

/-- **WELL KEYED**: every record and every policy stands under its own key. -/
structure WellKeyed (cache : Cache) : Prop where
  issuers : ∀ key issuer, (key, issuer) ∈ cache.issuersByPolicyKey.entries →
    key = issuer.policyKey
  policies : ∀ key policy, (key, policy) ∈ cache.policiesByKey.entries →
    key = policy.policyKey

theorem wellKeyed_empty : WellKeyed .empty :=
  ⟨fun _ _ h => absurd h List.not_mem_nil, fun _ _ h => absurd h List.not_mem_nil⟩

/-- The contexts say nothing about keys. -/
theorem WellKeyed.of_maps {cache' : Cache} (h : WellKeyed cache)
    (hissuers : cache'.issuersByPolicyKey = cache.issuersByPolicyKey)
    (hpolicies : cache'.policiesByKey = cache.policiesByKey) : WellKeyed cache' :=
  ⟨hissuers ▸ h.issuers, hpolicies ▸ h.policies⟩

theorem wellKeyed_putProjection (h : WellKeyed cache) (projection : IssuerProjection) :
    WellKeyed (putProjection cache projection) := by
  refine ⟨fun key issuer hmem => ?_, h.policies⟩
  rcases (OrderedMap.mem_set ..).mp hmem with ⟨rfl, rfl⟩ | ⟨-, hold⟩
  · rfl
  · exact h.issuers key issuer hold

theorem wellKeyed_setPolicy (h : WellKeyed cache) (policy : DestinationPolicyProjection) :
    WellKeyed { cache with
      policiesByKey := cache.policiesByKey.set policy.policyKey policy } := by
  refine ⟨h.issuers, fun key policy' hmem => ?_⟩
  rcases (OrderedMap.mem_set ..).mp hmem with ⟨rfl, rfl⟩ | ⟨-, hold⟩
  · rfl
  · exact h.policies key policy' hold

/-- **ONE CALL**: every call keeps records and policies under their keys. -/
theorem wellKeyed_applyCall (h : WellKeyed cache) (call : CacheCall) :
    WellKeyed (applyCall cache call) := by
  cases call with
  | upsertIssuer projection => exact wellKeyed_putProjection h projection
  | upsertDestinationPolicy projection => exact wellKeyed_setPolicy h projection
  | upsertRootAuthorityContext context => exact h.of_maps rfl rfl
  | upsertDelegatedAuthorityIssuerContext context => exact h.of_maps rfl rfl
  | updateIssuerAssuranceTier update =>
      refine ⟨fun key issuer hmem => ?_, h.policies⟩
      obtain ⟨old, hold, rfl⟩ := (OrderedMap.mem_mapValues ..).mp hmem
      rw [h.issuers key old hold]
      split <;> rfl
  | removeIssuer ns =>
      exact ⟨fun key issuer hmem => h.issuers key issuer ((OrderedMap.mem_filter ..).mp hmem).1,
        h.policies⟩
  | removeDestinationPolicy key =>
      exact ⟨h.issuers, fun key' policy hmem =>
        h.policies key' policy ((OrderedMap.mem_erase ..).mp hmem).1⟩
  | removeDestinationPoliciesForIssuer ns =>
      exact ⟨h.issuers, fun key policy hmem =>
        h.policies key policy ((OrderedMap.mem_filter ..).mp hmem).1⟩
  | removeDelegatedAuthority key =>
      exact ⟨fun key issuer hmem => h.issuers key issuer ((OrderedMap.mem_filter ..).mp hmem).1,
        fun key policy hmem => h.policies key policy ((OrderedMap.mem_filter ..).mp hmem).1⟩

theorem wellKeyed_initial (initial : List IssuerProjection)
    (initialDestinationPolicies : List DestinationPolicyProjection) :
    WellKeyed (makeInMemoryVerifierCache initial initialDestinationPolicies) := by
  rw [makeInMemoryVerifierCache]
  refine List.foldlRecOn initialDestinationPolicies _ ?_ fun cache h policy _ =>
    (wellKeyed_setPolicy h policy).of_maps rfl rfl
  exact List.foldlRecOn initial _ wellKeyed_empty fun cache h projection _ =>
    (wellKeyed_putProjection h projection).of_maps rfl rfl

/-- **REACHABLE**: a cache as `makeInMemoryVerifierCache` builds it, after any
    calls of its writer. -/
def Reachable (cache : Cache) : Prop :=
  ∃ initial initialDestinationPolicies, ∃ calls : List CacheCall,
    cache = calls.foldl applyCall (makeInMemoryVerifierCache initial initialDestinationPolicies)

theorem reachable_initial (initial : List IssuerProjection)
    (initialDestinationPolicies : List DestinationPolicyProjection) :
    Reachable (makeInMemoryVerifierCache initial initialDestinationPolicies) :=
  ⟨initial, initialDestinationPolicies, [], rfl⟩

/-- Every reachable cache is well keyed. -/
theorem Reachable.wellKeyed (h : Reachable cache) : WellKeyed cache := by
  obtain ⟨initial, policies, calls, rfl⟩ := h
  exact List.foldlRecOn calls _ (wellKeyed_initial initial policies)
    fun _ h call _ => wellKeyed_applyCall h call

/-! ## An answer names the key that decided -/

/-- The key that decides for a host, if it answers. -/
def answeringKey (reader : Reader) (cache : Cache)
    (allowsHost : DestinationPolicyProjection → String → Bool) (host : String) : Option String :=
  (findPolicyMatch reader cache allowsHost host cache.policiesByKey.values).map
    fun found => found.2.policyKey

theorem resolveByHost_key (h : WellKeyed cache) :
    (resolveByHost reader cache host).map IssuerProjection.policyKey
      = answeringKey reader cache (policyAllowsHost reader) (reader.js.toLowerCase host) := by
  rw [resolveByHost, answeringKey, Option.map_map]
  cases hfound : findPolicyMatch reader cache (policyAllowsHost reader)
      (reader.js.toLowerCase host) cache.policiesByKey.values with
  | none => rfl
  | some found =>
      obtain ⟨issuer, policy⟩ := found
      have hrecord := (findPolicyMatch_mem hfound).2.1
      have hkey := h.issuers _ _ ((OrderedMap.get?_eq_some_iff ..).mp hrecord)
      exact congrArg some hkey.symm

theorem resolveByDestination_key {url : Url} {hint : Option String} :
    (resolveByDestination reader cache url hint).map (fun answer => answer.policy.policyKey)
      = answeringKey reader cache (policyAllowsLookupHost reader)
          (reader.js.toLowerCase (hint.getD url.hostname)) := by
  rw [resolveByDestination, answeringKey, Option.map_map]
  cases findPolicyMatch reader cache (policyAllowsLookupHost reader)
      (reader.js.toLowerCase (hint.getD url.hostname)) cache.policiesByKey.values with
  | none => rfl
  | some found =>
      obtain ⟨issuer, policy⟩ := found
      have hpolicy := (@resolveDestination_ns reader issuer policy url
        (reader.js.toLowerCase (hint.getD url.hostname))).2
      exact congrArg (fun p => some (DestinationPolicyProjection.policyKey p)) hpolicy

/-- Where a key answers, it is the first eligible one and a record stands
    under it. -/
theorem answeringKey_eq_some {key : String}
    (h : answeringKey reader cache allowsHost host = some key) :
    FirstEligible reader cache allowsHost host key
      ∧ (cache.issuersByPolicyKey.get? key).isSome = true := by
  obtain ⟨⟨issuer, policy⟩, hfound, rfl⟩ := Option.map_eq_some_iff.mp h
  rw [findPolicyMatch_eq] at hfound
  obtain ⟨policy', hfirst, hrecord⟩ := Option.bind_eq_some_iff.mp hfound
  obtain ⟨issuer', hissuer, heq⟩ := Option.map_eq_some_iff.mp hrecord
  obtain ⟨-, rfl⟩ := Prod.mk.inj heq
  exact ⟨firstEligible_iff.mpr ⟨policy', hfirst, rfl⟩, by rw [hissuer]; rfl⟩

/-- At most one key is first. -/
theorem FirstEligible.unique {key key' : String}
    (h : FirstEligible reader cache allowsHost host key)
    (h' : FirstEligible reader cache allowsHost host key') : key = key' := by
  obtain ⟨policy, hfound, rfl⟩ := firstEligible_iff.mp h
  obtain ⟨policy', hfound', rfl⟩ := firstEligible_iff.mp h'
  rw [Option.some.inj (hfound.symm.trans hfound')]

end VerifierCache
