import QrTrust.Network.VerifierCache

/-! # What the verifier cache answers

    A resolution always comes from one pair in the cache: a destination policy
    and the issuer record under its key.  `findPolicyMatch_mem` names the pair,
    and `resolveByDestination_eq_some` carries it to the answer. -/

namespace VerifierCache

variable {reader : Reader} {cache : Cache} {host : String}
  {allowsHost : DestinationPolicyProjection → String → Bool}

/-- **THE PAIR**: a match is a policy of the list that allows the host, with the
    issuer record under its key, in an active authority context. -/
theorem findPolicyMatch_mem {policies : List DestinationPolicyProjection}
    {issuer : IssuerProjection} {policy : DestinationPolicyProjection}
    (h : findPolicyMatch reader cache allowsHost host policies = some (issuer, policy)) :
    policy ∈ policies ∧ cache.issuersByPolicyKey.get? policy.policyKey = some issuer
      ∧ reader.acceptsRoot policy.ns.rootProgramId = true
      ∧ hasAuthorityContext cache policy.ns = true ∧ allowsHost policy host = true := by
  induction policies with
  | nil => exact nomatch h
  | cons first rest ih =>
      have hskip : findPolicyMatch reader cache allowsHost host rest = some (issuer, policy) →
          policy ∈ first :: rest
            ∧ cache.issuersByPolicyKey.get? policy.policyKey = some issuer
            ∧ reader.acceptsRoot policy.ns.rootProgramId = true
            ∧ hasAuthorityContext cache policy.ns = true ∧ allowsHost policy host = true :=
        fun hrest => ⟨List.mem_cons_of_mem _ (ih hrest).1, (ih hrest).2⟩
      rw [findPolicyMatch] at h
      cases hroot : reader.acceptsRoot first.ns.rootProgramId with
      | false => rw [hroot] at h; exact hskip h
      | true =>
          cases hcontext : hasAuthorityContext cache first.ns with
          | false => rw [hroot, hcontext] at h; exact hskip h
          | true =>
              cases hallows : allowsHost first host with
              | false => rw [hroot, hcontext, hallows] at h; exact hskip h
              | true =>
                  rw [hroot, hcontext, hallows] at h
                  obtain ⟨issuer', hissuer, heq⟩ := Option.map_eq_some_iff.mp h
                  obtain ⟨rfl, rfl⟩ := Prod.mk.inj heq
                  exact ⟨List.mem_cons_self .., hissuer, hroot, hcontext, hallows⟩

/-- Materializing an issuer keeps its namespace. -/
@[simp] theorem materializeIssuer_ns (issuer : IssuerProjection)
    (policy : DestinationPolicyProjection) (host : String) :
    (materializeIssuer reader issuer policy host).ns = issuer.ns := rfl

/-- Whatever it finds, a resolution speaks of the issuer and the policy it was
    asked about. -/
theorem resolveDestination_ns (issuer : IssuerProjection)
    (policy : DestinationPolicyProjection) (destinationUrl : Url) (lookupHost : String) :
    (resolveDestination reader issuer policy destinationUrl lookupHost).issuer.ns = issuer.ns
      ∧ (resolveDestination reader issuer policy destinationUrl lookupHost).policy
        = policy := by
  rw [resolveDestination]
  cases JsString.truthy (matchedResolverUrl reader policy.redirectPolicy destinationUrl) with
  | some resolverUrl =>
      simp only [resolveRedirectDestination]
      split <;> exact ⟨rfl, rfl⟩
  | none =>
      cases policy.approvedDestinations.find? fun destination =>
          ruleAllowsHost reader destination
            (reader.js.toLowerCase destinationUrl.hostname) with
      | none => exact ⟨rfl, rfl⟩
      | some destination =>
          dsimp only
          split <;> exact ⟨rfl, rfl⟩

/-- The issuer of a resolution is the record it was asked about, materialized
    for some host. -/
theorem resolveDestination_issuer (issuer : IssuerProjection)
    (policy : DestinationPolicyProjection) (destinationUrl : Url) (lookupHost : String) :
    ∃ host, (resolveDestination reader issuer policy destinationUrl lookupHost).issuer
      = materializeIssuer reader issuer policy host := by
  rw [resolveDestination]
  cases JsString.truthy (matchedResolverUrl reader policy.redirectPolicy destinationUrl) with
  | some resolverUrl =>
      simp only [resolveRedirectDestination]
      split <;> exact ⟨_, rfl⟩
  | none =>
      cases policy.approvedDestinations.find? fun destination =>
          ruleAllowsHost reader destination
            (reader.js.toLowerCase destinationUrl.hostname) with
      | none => exact ⟨_, rfl⟩
      | some destination =>
          dsimp only
          split <;> exact ⟨_, rfl⟩

/-- An answer of `resolveByHost` is a materialized record of the cache. -/
theorem resolveByHost_eq_some {answer : IssuerProjection}
    (h : resolveByHost reader cache host = some answer) :
    ∃ issuer policy, policy ∈ cache.policiesByKey.values
      ∧ cache.issuersByPolicyKey.get? policy.policyKey = some issuer
      ∧ answer = materializeIssuer reader issuer policy (reader.js.toLowerCase host) := by
  obtain ⟨⟨issuer, policy⟩, hfound, rfl⟩ := Option.map_eq_some_iff.mp h
  obtain ⟨hmem, hissuer, -⟩ := findPolicyMatch_mem hfound
  exact ⟨issuer, policy, hmem, hissuer, rfl⟩

/-- An answer of `resolveByDestination` is the resolution of a pair in the
    cache. -/
theorem resolveByDestination_eq_some {destinationUrl : Url} {hint : Option String}
    {answer : DestinationResolution}
    (h : resolveByDestination reader cache destinationUrl hint = some answer) :
    ∃ issuer policy, policy ∈ cache.policiesByKey.values
      ∧ cache.issuersByPolicyKey.get? policy.policyKey = some issuer
      ∧ answer = resolveDestination reader issuer policy destinationUrl
          (reader.js.toLowerCase (hint.getD destinationUrl.hostname)) := by
  obtain ⟨⟨issuer, policy⟩, hfound, rfl⟩ := Option.map_eq_some_iff.mp h
  obtain ⟨hmem, hissuer, -⟩ := findPolicyMatch_mem hfound
  exact ⟨issuer, policy, hmem, hissuer, rfl⟩

/-! ## What a call leaves of the records -/

/-- **RECORDS AFTER A CALL**: a record was just written, or stood there before
    with another tier at most. -/
theorem mem_issuers_applyCall {call : CacheCall} {key : String} {issuer : IssuerProjection}
    (h : (key, issuer) ∈ (applyCall cache call).issuersByPolicyKey.entries) :
    call = .upsertIssuer issuer ∨ ∃ old, (key, old) ∈ cache.issuersByPolicyKey.entries
      ∧ old.ns = issuer.ns ∧ old.destinationPolicyId = issuer.destinationPolicyId := by
  cases call with
  | upsertIssuer projection =>
      rcases (OrderedMap.mem_set ..).mp h with ⟨-, rfl⟩ | ⟨-, hold⟩
      · exact .inl rfl
      · exact .inr ⟨issuer, hold, rfl, rfl⟩
  | updateIssuerAssuranceTier update =>
      obtain ⟨old, hold, rfl⟩ := (OrderedMap.mem_mapValues ..).mp h
      refine .inr ⟨old, hold, ?_⟩
      split <;> exact ⟨rfl, rfl⟩
  | removeIssuer ns => exact .inr ⟨issuer, ((OrderedMap.mem_filter ..).mp h).1, rfl, rfl⟩
  | removeDelegatedAuthority target =>
      exact .inr ⟨issuer, ((OrderedMap.mem_filter ..).mp h).1, rfl, rfl⟩
  | upsertDestinationPolicy policy => exact .inr ⟨issuer, h, rfl, rfl⟩
  | upsertRootAuthorityContext context => exact .inr ⟨issuer, h, rfl, rfl⟩
  | upsertDelegatedAuthorityIssuerContext context => exact .inr ⟨issuer, h, rfl, rfl⟩
  | removeDestinationPolicy target => exact .inr ⟨issuer, h, rfl, rfl⟩
  | removeDestinationPoliciesForIssuer target => exact .inr ⟨issuer, h, rfl, rfl⟩

/-! ## What a bound resolution says -/

/-- The destination went through a resolver of the policy: the host and path of
    the URL are those of a listed resolver URL, and the final destination the
    answer names is a listed expected one. -/
def ThroughListedResolver (reader : Reader) (policy : DestinationPolicyProjection)
    (destinationUrl : Url) (answer : DestinationResolution) : Prop :=
  (∃ resolverUrl ∈ policy.redirectPolicy.resolverUrls, ∃ parsed,
      reader.js.parseUrl resolverUrl = some parsed
        ∧ reader.js.toLowerCase parsed.hostname = reader.js.toLowerCase destinationUrl.hostname
        ∧ parsed.pathname = destinationUrl.pathname)
    ∧ ∃ expected ∈ policy.redirectPolicy.expectedFinalDestinations, ∃ finalHref,
        (reader.js.parseUrl expected).map Url.href = some finalHref
          ∧ answer.finalUrl = some finalHref

/-- The rule a direct resolution matched. -/
def matchedRule (reader : Reader) (policy : DestinationPolicyProjection) (destinationUrl : Url) :
    Option DestinationPolicyRule :=
  policy.approvedDestinations.find? fun destination =>
    ruleAllowsHost reader destination (reader.js.toLowerCase destinationUrl.hostname)

theorem matchedResolverUrl_eq_some {redirectPolicy : RedirectPolicyProjection}
    {destinationUrl : Url} {resolverUrl : String}
    (h : matchedResolverUrl reader redirectPolicy destinationUrl = some resolverUrl) :
    resolverUrl ∈ redirectPolicy.resolverUrls ∧ ∃ parsed,
      reader.js.parseUrl resolverUrl = some parsed
        ∧ reader.js.toLowerCase parsed.hostname = reader.js.toLowerCase destinationUrl.hostname
        ∧ parsed.pathname = destinationUrl.pathname := by
  refine ⟨List.mem_of_find?_eq_some h, ?_⟩
  have hmatch := List.find?_some h
  obtain ⟨parsed, hparsed, hboth⟩ := (Option.any_eq_true ..).mp hmatch
  rw [Bool.and_eq_true, decide_eq_true_eq, decide_eq_true_eq] at hboth
  exact ⟨parsed, hparsed, hboth⟩

/-- A redirect without reasons against it names a listed final destination. -/
theorem redirectMismatchReasons_nil {policy : DestinationPolicyProjection}
    {destinationUrl : Url} {hops : Option Nat} {finalUrl : Option Url}
    (h : redirectMismatchReasons reader policy destinationUrl hops finalUrl = []) :
    ∃ url, finalUrl = some url ∧ redirectFinalDestinationAllowed reader policy url = true := by
  simp only [redirectMismatchReasons, List.append_eq_nil_iff] at h
  obtain ⟨⟨-, hfinal⟩, -⟩ := h
  cases finalUrl with
  | none => exact absurd hfinal (by simp)
  | some url =>
      refine ⟨url, rfl, ?_⟩
      cases hallowed : redirectFinalDestinationAllowed reader policy url with
      | true => rfl
      | false => simp [hallowed] at hfinal

/-- **BOUND**: a bound resolution went through a listed resolver, or matched a
    rule of the policy directly. -/
theorem resolveDestination_bound {issuer : IssuerProjection}
    {policy : DestinationPolicyProjection} {destinationUrl : Url} {lookupHost : String}
    (h : (resolveDestination reader issuer policy destinationUrl lookupHost).bindingStatus
      = .bound) :
    ThroughListedResolver reader policy destinationUrl
        (resolveDestination reader issuer policy destinationUrl lookupHost)
      ∨ ∃ rule, matchedRule reader policy destinationUrl = some rule
        ∧ (resolveDestination reader issuer policy destinationUrl lookupHost).destination = rule
        ∧ (resolveDestination reader issuer policy destinationUrl lookupHost).finalUrl
          = some destinationUrl.href := by
  rw [resolveDestination] at h ⊢
  cases hresolver :
      JsString.truthy (matchedResolverUrl reader policy.redirectPolicy destinationUrl) with
  | some resolverUrl =>
      left
      obtain ⟨hmem, hparsed⟩ :=
        matchedResolverUrl_eq_some (Option.filter_eq_some_iff.mp hresolver).1
      rw [hresolver] at h
      refine ⟨⟨resolverUrl, hmem, hparsed⟩, ?_⟩
      simp only [resolveRedirectDestination] at h ⊢
      split at h
      · rename_i hreasons
        rw [if_pos hreasons]
        obtain ⟨url, hurl, hallowed⟩ := redirectMismatchReasons_nil hreasons
        rw [redirectFinalDestinationAllowed, List.any_eq_true] at hallowed
        obtain ⟨expected, hexpected, hhref⟩ := hallowed
        refine ⟨expected, hexpected, url.href, of_decide_eq_true hhref, ?_⟩
        show (((JsString.truthy (destinationUrl.searchParam "final")).bind
          reader.js.parseUrl).map Url.href) = some url.href
        rw [hurl]
        rfl
      · exact BindingStatus.noConfusion h
  | none =>
      right
      rw [hresolver] at h
      cases hrule : matchedRule reader policy destinationUrl with
      | none =>
          rw [matchedRule] at hrule
          simp only [hrule] at h
          exact BindingStatus.noConfusion h
      | some rule =>
          refine ⟨rule, rfl, ?_⟩
          rw [matchedRule] at hrule
          simp only [hrule] at h ⊢
          split at h
          · rename_i hreasons
            rw [if_pos hreasons]
            exact ⟨rfl, rfl⟩
          · exact BindingStatus.noConfusion h

end VerifierCache
