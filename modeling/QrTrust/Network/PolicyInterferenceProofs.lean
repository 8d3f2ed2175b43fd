import QrTrust.Network.PolicyMatchProofs
import QrTrust.Network.SyncReplayProofs

/-! # A policy that cannot resolve, among policies that can

    A policy without an issuer record, or outside an accepted root or active
    authority context, never answers.  Whether it leaves the answers of other
    namespaces alone is a question about two caches, one with it and one
    without.  The search skips a policy outside its context but stops at one
    without a record, so `noninterference_iff` asks who comes first. -/

namespace PolicyInterference

open VerifierCache SyncReplay

variable {reader : Reader} {cache cache' : Cache} {q : DestinationPolicyProjection}
  {host key : String} {allowsHost : DestinationPolicyProjection → String → Bool}

/-- **UNRESOLVABLE**: no record stands under the policy's key, or its root or
    its authority context is not accepted. -/
def Unresolvable (reader : Reader) (cache : Cache) (q : DestinationPolicyProjection) : Prop :=
  cache.issuersByPolicyKey.get? q.policyKey = none
    ∨ reader.acceptsRoot q.ns.rootProgramId = false
    ∨ hasAuthorityContext cache q.ns = false

/-- The two ways to change the cache by one policy. -/
inductive PolicyChange where
  | insert
  | remove

/-- The call that makes the change. -/
def PolicyChange.call (q : DestinationPolicyProjection) : PolicyChange → CacheCall
  | .insert => .upsertDestinationPolicy q
  | .remove => .removeDestinationPolicy ⟨q.ns, q.destinationPolicyId⟩

/-- A resolvable policy of another namespace answers for this host. -/
def OtherAnswersHost (reader : Reader) (cache : Cache) (q : DestinationPolicyProjection)
    (host : String) : Prop :=
  ∃ issuer policy, findPolicyMatch reader cache (policyAllowsHost reader)
      (reader.js.toLowerCase host) cache.policiesByKey.values = some (issuer, policy)
    ∧ policy.ns ≠ q.ns

/-- A resolvable policy of another namespace answers bound for this URL. -/
def OtherAnswersUrl (reader : Reader) (cache : Cache) (q : DestinationPolicyProjection)
    (url : Url) (hint : Option String) : Prop :=
  ∃ answer, resolveByDestination reader cache url hint = some answer
    ∧ answer.bindingStatus = .bound ∧ answer.policy.ns ≠ q.ns

/-- The same as a Boolean question about the answer. -/
theorem otherAnswersUrl_iff {url : Url} {hint : Option String} :
    OtherAnswersUrl reader cache q url hint ↔
      (resolveByDestination reader cache url hint).any (fun answer =>
        decide (answer.bindingStatus = .bound) && decide (answer.policy.ns ≠ q.ns)) = true := by
  rw [Option.any_eq_true]
  refine exists_congr fun answer => and_congr_right fun _ => ?_
  rw [Bool.and_eq_true, decide_eq_true_eq, decide_eq_true_eq]

/-! ## Two caches that differ under one key -/

/-- The caches agree on records and contexts, and on the policies under every
    key but this one, in the same order. -/
structure SameBut (key : String) (cache cache' : Cache) : Prop where
  issuers : cache'.issuersByPolicyKey = cache.issuersByPolicyKey
  roots : cache'.activeDelegatedAuthoritiesByRoot = cache.activeDelegatedAuthoritiesByRoot
  authorities : cache'.activeIssuersByAuthority = cache.activeIssuersByAuthority
  policies : cache'.policiesByKey.entries.filter (fun e => e.1 ≠ key)
    = cache.policiesByKey.entries.filter (fun e => e.1 ≠ key)

theorem SameBut.eligible (h : SameBut key cache cache') :
    VerifierCache.eligible reader cache' allowsHost host
      = VerifierCache.eligible reader cache allowsHost host := by
  funext policy
  rw [VerifierCache.eligible, VerifierCache.eligible, hasAuthorityContext, hasAuthorityContext,
    h.roots, h.authorities]

/-- A change by `q` leaves everything under other keys as it was. -/
theorem sameBut_change (cache : Cache) (q : DestinationPolicyProjection)
    (change : PolicyChange) : SameBut q.policyKey cache (applyCall cache (change.call q)) := by
  cases change with
  | remove =>
      refine ⟨rfl, rfl, rfl, ?_⟩
      show (cache.policiesByKey.entries.filter _).filter _ = _
      rw [List.filter_filter]
      exact List.filter_congr fun e _ => Bool.and_self _
  | insert =>
      refine ⟨rfl, rfl, rfl, ?_⟩
      show (OrderedMap.setEntries cache.policiesByKey.entries q.policyKey q).filter _ = _
      rw [OrderedMap.setEntries]
      split
      · -- overwritten in place: both sides drop the place
        rw [List.filter_map]
        induction cache.policiesByKey.entries with
        | nil => rfl
        | cons e rest ih =>
            by_cases hkey : e.1 = q.policyKey
            · simpa [List.filter_cons, hkey] using ih
            · simpa [List.filter_cons, hkey] using ih
      · rw [List.filter_append]
        simp

/-- In a well-keyed cache the policies under other keys are the values with
    other keys. -/
theorem values_filter (h : WellKeyed cache) (key : String) :
    (cache.policiesByKey.entries.filter fun e => e.1 ≠ key).map Prod.snd
      = cache.policiesByKey.values.filter fun policy => policy.policyKey ≠ key := by
  rw [OrderedMap.values, List.filter_map]
  refine congrArg _ (List.filter_congr fun e he => ?_)
  rw [Function.comp_apply, h.policies e.1 e.2 he]

/-- A search that does not stop at a key finds the same without it. -/
theorem find?_filter_of_ne {policies : List DestinationPolicyProjection}
    {p : DestinationPolicyProjection → Bool}
    (h : ∀ policy, policies.find? p = some policy → policy.policyKey ≠ key) :
    (policies.filter fun policy => policy.policyKey ≠ key).find? p = policies.find? p := by
  induction policies with
  | nil => rfl
  | cons first rest ih =>
      cases hp : p first with
      | true =>
          have hne : first.policyKey ≠ key := h first (by rw [List.find?_cons, hp])
          rw [List.filter_cons, if_pos (decide_eq_true hne), List.find?_cons, List.find?_cons, hp]
      | false =>
          have hrest := ih fun policy hfound => h policy (by rw [List.find?_cons, hp, hfound])
          rw [List.find?_cons, hp, ← hrest, List.filter_cons]
          split
          · rw [List.find?_cons, hp]
          · rfl

/-- **NEITHER FIRST**: where the key is first in neither cache, both find the
    same. -/
theorem find?_congr (hkeyed : WellKeyed cache) (hkeyed' : WellKeyed cache')
    (hsame : SameBut key cache cache')
    (hfirst : ¬ FirstEligible reader cache allowsHost host key)
    (hfirst' : ¬ FirstEligible reader cache' allowsHost host key) :
    findPolicyMatch reader cache' allowsHost host cache'.policiesByKey.values
      = findPolicyMatch reader cache allowsHost host cache.policiesByKey.values := by
  rw [firstEligible_iff] at hfirst hfirst'
  have hvalues : cache'.policiesByKey.values.filter (fun policy => policy.policyKey ≠ key)
      = cache.policiesByKey.values.filter fun policy => policy.policyKey ≠ key := by
    rw [← values_filter hkeyed, ← values_filter hkeyed', hsame.policies]
  have hfind := find?_filter_of_ne fun policy hfound hkey => hfirst ⟨policy, hfound, hkey⟩
  have hfind' := find?_filter_of_ne fun policy hfound hkey => hfirst' ⟨policy, hfound, hkey⟩
  have hrecord : recordUnder cache' = recordUnder cache := by
    funext policy
    rw [recordUnder, recordUnder, hsame.issuers]
  rw [findPolicyMatch_eq, findPolicyMatch_eq, hrecord, ← hfind, ← hfind', hvalues,
    hsame.eligible]

/-- After a change by an unresolvable `q`, the key of `q` answers nothing. -/
theorem answeringKey_change_ne (hkeyed : WellKeyed cache) (hq : Unresolvable reader cache q)
    (change : PolicyChange) :
    answeringKey reader (applyCall cache (change.call q)) allowsHost host
      ≠ some q.policyKey := by
  intro h
  obtain ⟨hfirst, hrecord⟩ := answeringKey_eq_some h
  obtain ⟨earlier, policy, later, hvalues, hkey, heligible, -⟩ := hfirst
  obtain ⟨key, hmem⟩ := OrderedMap.mem_values.mp
    (show policy ∈ (applyCall cache (change.call q)).policiesByKey.values by rw [hvalues]; simp)
  have hkeyed' := wellKeyed_applyCall hkeyed (change.call q)
  obtain rfl : key = q.policyKey := (hkeyed'.policies key policy hmem).trans hkey
  rw [(sameBut_change cache q change).eligible, eligible_iff] at heligible
  cases change with
  | remove => exact ((OrderedMap.mem_erase ..).mp hmem).2 rfl
  | insert =>
      rcases (OrderedMap.mem_set ..).mp hmem with ⟨-, rfl⟩ | ⟨hne, -⟩
      · rcases hq with hnone | hroot | hcontext
        · rw [(sameBut_change cache policy .insert).issuers, hnone] at hrecord
          exact Bool.noConfusion hrecord
        · exact Bool.noConfusion (hroot.symm.trans heligible.1)
        · exact Bool.noConfusion (hcontext.symm.trans heligible.2.1)
      · exact hne rfl

/-- **ONE OF THEM FIRST**: where the key is first before or after the change and
    something answers on either side, another key answers on the other. -/
theorem answeringKey_ne (hkeyed : WellKeyed cache) (hq : Unresolvable reader cache q)
    (change : PolicyChange)
    (hanswered : (answeringKey reader cache allowsHost host).isSome = true
      ∨ (answeringKey reader (applyCall cache (change.call q)) allowsHost host).isSome = true)
    (hfirst : FirstEligible reader cache allowsHost host q.policyKey
      ∨ FirstEligible reader (applyCall cache (change.call q)) allowsHost host q.policyKey) :
    answeringKey reader cache allowsHost host
      ≠ answeringKey reader (applyCall cache (change.call q)) allowsHost host := by
  intro hsame
  have hnever := @answeringKey_change_ne reader cache q host allowsHost hkeyed hq change
  rw [← hsame, or_self] at hanswered
  obtain ⟨key, hkey⟩ := Option.isSome_iff_exists.mp hanswered
  have hfirstKey := (answeringKey_eq_some hkey).1
  have hfirstKey' := (answeringKey_eq_some (hsame ▸ hkey)).1
  have hq : key = q.policyKey := by
    rcases hfirst with h | h
    · exact hfirstKey.unique h
    · exact hfirstKey'.unique h
  exact hnever (by rw [← hsame, hkey, hq])

/-! ## Noninterference -/

/-- **NONINTERFERENCE, EXACTLY**: over every reachable cache, inserting or
    removing a policy that cannot resolve leaves the answers of other
    namespaces as they are exactly when, before and after, no eligible policy
    under its key comes before every other eligible one. -/
theorem noninterference_iff (reader : Reader) (cache : Cache) (hreachable : Reachable cache)
    (q : DestinationPolicyProjection) (hq : Unresolvable reader cache q)
    (change : PolicyChange) (after : Cache) (hafter : after = applyCall cache (change.call q)) :
    (∀ host, OtherAnswersHost reader cache q host ∨ OtherAnswersHost reader after q host →
      (resolveByHost reader cache host = resolveByHost reader after host ↔
        ¬ FirstEligible reader cache (policyAllowsHost reader) (reader.js.toLowerCase host)
            q.policyKey
          ∧ ¬ FirstEligible reader after (policyAllowsHost reader)
            (reader.js.toLowerCase host) q.policyKey))
    ∧ ∀ url hint,
        OtherAnswersUrl reader cache q url hint ∨ OtherAnswersUrl reader after q url hint →
        (resolveByDestination reader cache url hint
            = resolveByDestination reader after url hint ↔
          ¬ FirstEligible reader cache (policyAllowsLookupHost reader)
              (reader.js.toLowerCase (hint.getD url.hostname)) q.policyKey
            ∧ ¬ FirstEligible reader after (policyAllowsLookupHost reader)
              (reader.js.toLowerCase (hint.getD url.hostname)) q.policyKey) := by
  have hkeyed := hreachable.wellKeyed
  have hkeyed' : WellKeyed after := hafter ▸ wellKeyed_applyCall hkeyed (change.call q)
  have hsame : SameBut q.policyKey cache after := hafter ▸ sameBut_change cache q change
  refine ⟨fun host hanswers => ⟨fun heq => ?_, fun hfirst => ?_⟩,
    fun url hint hanswers => ⟨fun heq => ?_, fun hfirst => ?_⟩⟩
  · rw [← not_or]
    intro hfirst
    subst hafter
    refine answeringKey_ne hkeyed hq change ?_ hfirst ?_
    · refine hanswers.imp ?_ ?_ <;>
      · rintro ⟨issuer, policy, hfound, -⟩
        rw [answeringKey, hfound]
        rfl
    · rw [← resolveByHost_key hkeyed, ← resolveByHost_key hkeyed', heq]
  · rw [resolveByHost, resolveByHost]
    rw [find?_congr hkeyed hkeyed' hsame hfirst.1 hfirst.2]
  · rw [← not_or]
    intro hfirst
    subst hafter
    refine answeringKey_ne hkeyed hq change ?_ hfirst ?_
    · refine hanswers.imp ?_ ?_ <;>
      · rintro ⟨answer, hanswer, -⟩
        rw [← resolveByDestination_key, hanswer]
        rfl
    · rw [← resolveByDestination_key, ← resolveByDestination_key, heq]
  · rw [resolveByDestination, resolveByDestination]
    rw [find?_congr hkeyed hkeyed' hsame hfirst.1 hfirst.2]

/-! ## A stray policy in front of a shop -/

/-- A policy for the host of the shop, in a given namespace. -/
def policyFor (issuerId : String) : DestinationPolicyProjection where
  ns := ⟨"root:demo", "authority:demo", issuerId⟩
  destinationPolicyId := "policy:demo"
  approvedDestinations :=
    [ { destinationId := "dest:pay"
        expectedFinalUrl := "https://shop.example/"
        allowedHosts := ["shop.example"]
        allowSubdomains := false
        pathPrefixes := []
        queryPolicy := "none"
        allowedQueryKeys := none } ]
  redirectPolicy :=
    { resolverUrls := []
      expectedFinalDestinations := []
      allowedRedirectHosts := []
      maxRedirectHops := 0
      nestedShortenersAllowed := false
      scannerMustDisplayResolverAndFinalDestination := true }
  allowedHosts := ["shop.example"]
  allowSubdomains := false
  cacheGeneratedAt := "2026-01-01T00:00:00Z"
  cacheExpiresAt := "2027-01-01T00:00:00Z"

/-- The record of the shop. -/
def shopIssuer : IssuerProjection where
  ns := demoNamespace
  issuerDisplayName := "Demo Shop"
  assuranceTier := "verified_business"
  destinationPolicyId := "policy:demo"
  allowedHosts := []
  cacheGeneratedAt := "2026-01-01T00:00:00Z"
  cacheExpiresAt := "2027-01-01T00:00:00Z"

/-- The shop alone. -/
def shopCache : Cache := makeInMemoryVerifierCache [shopIssuer] [policyFor "issuer:demo"]

/-- An issuer without a record registered the host before the shop did. -/
def strayFirstCache : Cache :=
  makeInMemoryVerifierCache [shopIssuer] [policyFor "issuer:stray", policyFor "issuer:demo"]

/-- The cache with the stray policy first, and what is found in it with and without. -/
def strayFirst : {cache : Cache // cache = strayFirstCache
    ∧ resolveByDestination demoReader cache demoUrl none = none
    ∧ (resolveByDestination demoReader
        (applyCall cache (PolicyChange.remove.call (policyFor "issuer:stray"))) demoUrl none).any
          (fun answer => decide (answer.bindingStatus = .bound)
            && decide (answer.policy.ns ≠ (policyFor "issuer:stray").ns)) = true} :=
  ⟨_, rfl, by decide +kernel, by decide +kernel⟩

/-- Removing the stray policy, which never answers, turns the shop from unknown
    to bound. -/
theorem stray_policy_hides_shop :
    Reachable strayFirstCache
      ∧ Unresolvable demoReader strayFirstCache (policyFor "issuer:stray")
      ∧ OtherAnswersUrl demoReader
          (applyCall strayFirstCache (PolicyChange.remove.call (policyFor "issuer:stray")))
          (policyFor "issuer:stray") demoUrl none
      ∧ resolveByDestination demoReader strayFirstCache demoUrl none
        ≠ resolveByDestination demoReader
          (applyCall strayFirstCache (PolicyChange.remove.call (policyFor "issuer:stray")))
          demoUrl none := by
  obtain ⟨cache, hcache, hwith, hanswers⟩ := strayFirst
  rw [hcache] at hwith
  have hother : OtherAnswersUrl demoReader
      (applyCall strayFirstCache (PolicyChange.remove.call (policyFor "issuer:stray")))
      (policyFor "issuer:stray") demoUrl none :=
    otherAnswersUrl_iff.mpr (hcache ▸ hanswers)
  have hstray : Unresolvable demoReader strayFirstCache (policyFor "issuer:stray") :=
    .inl (by decide +kernel)
  refine ⟨reachable_initial .., hstray, hother, fun heq => ?_⟩
  obtain ⟨answer, hanswer, -⟩ := hother
  rw [← heq, hwith] at hanswer
  cases hanswer

/-- A stray policy that comes after the shop leaves its answer alone. -/
theorem stray_policy_behind_shop :
    resolveByDestination demoReader shopCache demoUrl none
      = resolveByDestination demoReader
        (applyCall shopCache (PolicyChange.insert.call (policyFor "issuer:stray")))
        demoUrl none := by
  have hstray : Unresolvable demoReader shopCache (policyFor "issuer:stray") :=
    .inl (by decide +kernel)
  have hother : OtherAnswersUrl demoReader shopCache (policyFor "issuer:stray") demoUrl none :=
    otherAnswersUrl_iff.mpr (by decide +kernel)
  refine ((noninterference_iff demoReader shopCache (reachable_initial ..)
    (policyFor "issuer:stray") hstray .insert _ rfl).2 demoUrl none (.inl hother)).mpr ⟨?_, ?_⟩
  · exact not_firstEligible (policyFor "issuer:demo") (by decide +kernel) (by decide +kernel)
  · exact not_firstEligible (policyFor "issuer:demo") (by decide +kernel) (by decide +kernel)

end PolicyInterference
