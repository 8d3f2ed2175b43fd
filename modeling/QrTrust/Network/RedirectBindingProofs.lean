import QrTrust.Network.VerifierCacheProofs

/-! # Binding through a resolver

    A policy names the resolvers its codes may go through, how many hops they
    may take, where they may end, and which hosts a redirect may lead to.  The
    cache finds a resolver by its host and path alone and never reads the allowed
    redirect hosts: what it binds is what the policy says exactly where the
    scheme, the port and the final host fit as well (`redirectBinding_iff`). -/

namespace RedirectBinding

open VerifierCache

/-- `url.port`, read off the serialized URL: behind the credentials and the host,
    without its colon. -/
def port (url : Url) : String :=
  let authority := (url.href.toList.drop (url.protocol.toList.length + 2)).takeWhile
    fun c => c ∉ ['/', '?', '#']
  let address := (authority.reverse.takeWhile fun c => c ≠ '@').reverse
  String.ofList ((address.drop url.hostname.toList.length).drop 1)

variable (reader : Reader)

/-! ## What a binding should rest on -/

/-- The final destination that the scanned URL reports. -/
def observedFinalUrl (url : Url) : Option Url :=
  (JsString.truthy (url.searchParam "final")).bind reader.js.parseUrl

/-- The scanned URL is at a resolver of the policy: the same host and path, and
    the same scheme and port. -/
def AtResolver (policy : DestinationPolicyProjection) (url : Url) : Prop :=
  ∃ resolverUrl ∈ policy.redirectPolicy.resolverUrls, ∃ parsed,
    reader.js.parseUrl resolverUrl = some parsed
      ∧ reader.js.toLowerCase parsed.hostname = reader.js.toLowerCase url.hostname
      ∧ parsed.pathname = url.pathname ∧ parsed.protocol = url.protocol
      ∧ port parsed = port url

/-- The reported number of hops does not exceed the maximum. -/
def HopsFit (policy : DestinationPolicyProjection) (url : Url) : Prop :=
  ∃ hops, parseRedirectHopCount (url.searchParam "hops") = some hops
    ∧ (hops : Rat) ≤ policy.redirectPolicy.maxRedirectHops

/-- The reported final destination is an expected one. -/
def FinalExpected (policy : DestinationPolicyProjection) (url : Url) : Prop :=
  ∃ finalUrl, observedFinalUrl reader url = some finalUrl
    ∧ ∃ expected ∈ policy.redirectPolicy.expectedFinalDestinations, ∃ parsed,
      reader.js.parseUrl expected = some parsed ∧ parsed.href = finalUrl.href

/-- The host of the reported final destination is an allowed redirect host. -/
def FinalHostAllowed (policy : DestinationPolicyProjection) (url : Url) : Prop :=
  ∃ finalUrl, observedFinalUrl reader url = some finalUrl
    ∧ ∃ allowedHost ∈ policy.redirectPolicy.allowedRedirectHosts,
      reader.js.toLowerCase allowedHost = reader.js.toLowerCase finalUrl.hostname

/-- The redirect policy, in full. -/
structure MeetsRedirectPolicy (policy : DestinationPolicyProjection) (url : Url) : Prop where
  resolver : AtResolver reader policy url
  hops : HopsFit policy url
  final : FinalExpected reader policy url
  finalHost : FinalHostAllowed reader policy url

/-- A nested shortener is reported only where the policy allows it. -/
def NestingFits (policy : DestinationPolicyProjection) (url : Url) : Prop :=
  policy.redirectPolicy.nestedShortenersAllowed = true ∨ url.searchParam "nested" ≠ some "1"

/-- What the cache asks of a redirect: a resolver with the host and the path, the
    hops, the final destination, and the nesting. -/
structure PassesChecks (policy : DestinationPolicyProjection) (url : Url) : Prop where
  resolver : (JsString.truthy (matchedResolverUrl reader policy.redirectPolicy url)).isSome = true
  hops : HopsFit policy url
  final : FinalExpected reader policy url
  nesting : NestingFits policy url

/-- The answer binds the URL through a resolver. -/
def BindsThroughResolver (answer : DestinationResolution) : Prop :=
  answer.bindingStatus = .bound ∧ answer.resolverUrl.isSome = true

/-! ## What the cache checks -/

variable {reader} {policy : DestinationPolicyProjection} {url : Url}

theorem redirectFinalDestinationAllowed_iff {finalUrl : Url} :
    redirectFinalDestinationAllowed reader policy finalUrl = true
      ↔ ∃ expected ∈ policy.redirectPolicy.expectedFinalDestinations, ∃ parsed,
        reader.js.parseUrl expected = some parsed ∧ parsed.href = finalUrl.href := by
  rw [redirectFinalDestinationAllowed, List.any_eq_true]
  refine exists_congr fun expected => and_congr_right fun _ => ?_
  rw [decide_eq_true_eq, Option.map_eq_some_iff]

/-- **REASONS**: a redirect has no reason against it when its hops, its final
    destination and its nesting fit. -/
theorem redirectMismatchReasons_nil_iff :
    redirectMismatchReasons reader policy url (parseRedirectHopCount (url.searchParam "hops"))
        (observedFinalUrl reader url) = []
      ↔ HopsFit policy url ∧ FinalExpected reader policy url ∧ NestingFits policy url := by
  simp only [redirectMismatchReasons, List.append_eq_nil_iff, and_assoc]
  refine and_congr ?_ (and_congr ?_ ?_)
  · rw [HopsFit]
    cases parseRedirectHopCount (url.searchParam "hops") with
    | none =>
        refine iff_of_false (List.cons_ne_nil _ _) ?_
        rintro ⟨hops, hhops, -⟩
        cases hhops
    | some hops =>
        dsimp only
        rw [ite_eq_right_iff]
        constructor
        · intro h
          exact ⟨hops, rfl, Rat.not_lt.mp fun hlt => List.cons_ne_nil _ _ (h hlt)⟩
        · rintro ⟨hops', hhops, hle⟩ hlt
          obtain rfl := Option.some.inj hhops
          exact absurd hlt (Rat.not_lt.mpr hle)
  · rw [FinalExpected]
    cases observedFinalUrl reader url with
    | none =>
        refine iff_of_false (List.cons_ne_nil _ _) ?_
        rintro ⟨finalUrl, hfinal, -⟩
        cases hfinal
    | some finalUrl =>
        dsimp only
        rw [ite_eq_right_iff, Bool.not_eq_true']
        constructor
        · intro h
          cases hallowed : redirectFinalDestinationAllowed reader policy finalUrl with
          | true => exact ⟨finalUrl, rfl, redirectFinalDestinationAllowed_iff.mp hallowed⟩
          | false => exact absurd (h hallowed) (List.cons_ne_nil _ _)
        · rintro ⟨finalUrl', hfinal, hexpected⟩ hrefused
          obtain rfl := Option.some.inj hfinal
          rw [redirectFinalDestinationAllowed_iff.mpr hexpected] at hrefused
          cases hrefused
  · rw [ite_eq_right_iff, NestingFits, Bool.and_eq_true, Bool.not_eq_true', decide_eq_true_eq]
    constructor
    · intro h
      by_cases hnested : url.searchParam "nested" = some "1"
      · left
        cases hallowed : policy.redirectPolicy.nestedShortenersAllowed with
        | true => rfl
        | false => exact absurd (h ⟨hallowed, hnested⟩) (List.cons_ne_nil _ _)
      · exact .inr hnested
    · rintro (hallowed | hnested) ⟨hforbidden, hreported⟩
      · rw [hallowed] at hforbidden
        cases hforbidden
      · exact absurd hreported hnested

/-- Without a resolver the answer names none. -/
theorem resolverUrl_of_direct {issuer : IssuerProjection} {lookupHost : String}
    (h : JsString.truthy (matchedResolverUrl reader policy.redirectPolicy url) = none) :
    (resolveDestination reader issuer policy url lookupHost).resolverUrl = none := by
  rw [resolveDestination, h]
  cases policy.approvedDestinations.find? fun destination =>
      ruleAllowsHost reader destination (reader.js.toLowerCase url.hostname) with
  | none => rfl
  | some destination =>
      dsimp only
      split
      · rfl
      · rfl

/-- Through a resolver the answer is bound when nothing speaks against it. -/
theorem resolveRedirectDestination_binds_iff {issuer : IssuerProjection} {resolverUrl : String} :
    BindsThroughResolver (resolveRedirectDestination reader issuer policy url resolverUrl)
      ↔ redirectMismatchReasons reader policy url
          (parseRedirectHopCount (url.searchParam "hops")) (observedFinalUrl reader url) = [] := by
  simp only [resolveRedirectDestination]
  split
  · rename_i hreasons
    exact iff_of_true ⟨rfl, rfl⟩ hreasons
  · rename_i hreasons
    exact iff_of_false (fun h => BindingStatus.noConfusion h.1) hreasons

/-- **BOUND**: a URL is bound through a resolver when it passes the checks. -/
theorem bindsThroughResolver_iff {issuer : IssuerProjection} {lookupHost : String} :
    BindsThroughResolver (resolveDestination reader issuer policy url lookupHost)
      ↔ PassesChecks reader policy url := by
  cases hresolver : JsString.truthy (matchedResolverUrl reader policy.redirectPolicy url) with
  | some resolverUrl =>
      have hanswer : resolveDestination reader issuer policy url lookupHost
          = resolveRedirectDestination reader issuer policy url resolverUrl := by
        rw [resolveDestination, hresolver]
      rw [hanswer, resolveRedirectDestination_binds_iff, redirectMismatchReasons_nil_iff]
      constructor
      · rintro ⟨hhops, hfinal, hnesting⟩
        exact ⟨by rw [hresolver]; rfl, hhops, hfinal, hnesting⟩
      · intro h
        exact ⟨h.hops, h.final, h.nesting⟩
  | none =>
      refine iff_of_false ?_ fun h => ?_
      · rintro ⟨-, hnamed⟩
        rw [resolverUrl_of_direct hresolver] at hnamed
        cases hnamed
      · have hsome := h.resolver
        rw [hresolver] at hsome
        cases hsome

/-- **REDIRECT BINDING**: what the cache binds through a resolver meets the
    redirect policy exactly when, where its checks pass, the scheme and the port
    are those of the resolver too and the final host is an allowed one. -/
theorem redirectBinding_iff (issuer : IssuerProjection) (policy : DestinationPolicyProjection)
    (url : Url) (lookupHost : String) :
    (BindsThroughResolver (resolveDestination reader issuer policy url lookupHost) →
        MeetsRedirectPolicy reader policy url)
      ↔ (PassesChecks reader policy url →
          AtResolver reader policy url ∧ FinalHostAllowed reader policy url) := by
  rw [bindsThroughResolver_iff]
  constructor
  · intro h hpasses
    exact ⟨(h hpasses).resolver, (h hpasses).finalHost⟩
  · intro h hpasses
    obtain ⟨hresolver, hfinalHost⟩ := h hpasses
    exact ⟨hresolver, hpasses.hops, hpasses.final, hfinalHost⟩

/-! ## A resolver on another port -/

/-- The resolver that the policy below lists. -/
def listedResolver : Url where
  href := "https://go.acme.example/r"
  protocol := "https:"
  username := ""
  password := ""
  hostname := "go.acme.example"
  pathname := "/r"
  searchParams := []

/-- The final destination that the policy expects. -/
def partnerCheckout : Url where
  href := "https://pay.partner.example/checkout"
  protocol := "https:"
  username := ""
  password := ""
  hostname := "pay.partner.example"
  pathname := "/checkout"
  searchParams := []

/-- The same host and path on a port of its own. -/
def scannedResolver : Url where
  href := "https://go.acme.example:8443/r?final=https://pay.partner.example/checkout"
  protocol := "https:"
  username := ""
  password := ""
  hostname := "go.acme.example"
  pathname := "/r"
  searchParams := [("final", "https://pay.partner.example/checkout")]

/-- A reader that knows the two URLs of the policy. -/
def knowingReader : Reader where
  js :=
    { parseUrl := fun text => [listedResolver, partnerCheckout].find? fun url => url.href = text
      toLowerCase := id
      toISOString := some
      hashJson := fun _ => "" }
  acceptsRoot _ := true

/-- A policy with one resolver, whose redirects may lead to its own host only. -/
def resolverPolicy : DestinationPolicyProjection where
  ns := ⟨"root:demo", "authority:demo", "issuer:acme"⟩
  destinationPolicyId := "policy:acme"
  approvedDestinations := []
  redirectPolicy :=
    { resolverUrls := [listedResolver.href]
      expectedFinalDestinations := [partnerCheckout.href]
      allowedRedirectHosts := ["acme.example"]
      maxRedirectHops := 1
      nestedShortenersAllowed := false
      scannerMustDisplayResolverAndFinalDestination := true }
  allowedHosts := []
  allowSubdomains := false
  cacheGeneratedAt := "2026-05-15T00:00:00.000Z"
  cacheExpiresAt := "2026-12-31T23:59:59.000Z"

/-- The record of the issuer of the policy. -/
def acmeIssuer : IssuerProjection where
  ns := resolverPolicy.ns
  issuerDisplayName := "Acme"
  assuranceTier := "demo"
  destinationPolicyId := resolverPolicy.destinationPolicyId
  allowedHosts := []
  cacheGeneratedAt := "2026-05-15T00:00:00.000Z"
  cacheExpiresAt := "2026-12-31T23:59:59.000Z"

/-- The URL on the other port is bound, and so is its final destination on a host
    that no redirect may lead to. -/
theorem bound_on_another_port :
    ¬ (BindsThroughResolver (resolveDestination knowingReader acmeIssuer resolverPolicy
          scannedResolver "go.acme.example") →
        MeetsRedirectPolicy knowingReader resolverPolicy scannedResolver) := by
  intro h
  have hbound : BindsThroughResolver (resolveDestination knowingReader acmeIssuer resolverPolicy
      scannedResolver "go.acme.example") := ⟨by decide +kernel, by decide +kernel⟩
  obtain ⟨resolverUrl, hlisted, parsed, hparsed, -, -, -, hport⟩ := (h hbound).resolver
  obtain rfl := List.mem_singleton.mp hlisted
  have hresolver : knowingReader.js.parseUrl listedResolver.href = some listedResolver := by
    decide +kernel
  obtain rfl := Option.some.inj (hresolver.symm.trans hparsed)
  exact absurd hport (by decide +kernel)

end RedirectBinding
