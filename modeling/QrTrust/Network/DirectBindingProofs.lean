import QrTrust.Backend.DestinationCanonicalization
import QrTrust.Network.VerifierCacheProofs

/-! # Direct destination binding

    A policy binds a URL directly through one rule: the first that allows the
    host.  It asks whether a path prefix of that rule begins the path as a text.
    Any rule that allows the host should do, under the boundary rule that the
    backend states; the two differ where a prefix ends inside a segment, and
    where the first rule refuses what a later one approves
    (`directBinding_iff`). -/

namespace DirectBinding

open VerifierCache

variable (reader : Reader)

/-! ## What a rule approves -/

/-- The host is an allowed host, or under one where subdomains count. -/
def AllowsHost (rule : DestinationPolicyRule) (url : Url) : Prop :=
  ∃ allowedHost ∈ rule.allowedHosts,
    reader.js.toLowerCase url.hostname = reader.js.toLowerCase allowedHost
      ∨ rule.allowSubdomains = true ∧
        ("." ++ reader.js.toLowerCase allowedHost).toList
          <:+ (reader.js.toLowerCase url.hostname).toList

/-- The query keys meet the query policy and the list of allowed keys. -/
structure QueryFits (rule : DestinationPolicyRule) (url : Url) : Prop where
  noQuery : rule.queryPolicy = "none" → url.searchParams = []
  allowed : rule.allowedQueryKeys.getD [] ≠ [] →
    ∀ param ∈ url.searchParams, param.1 ∈ rule.allowedQueryKeys.getD []

/-- The path is a listed prefix or goes on behind one at a segment boundary. -/
def PathFits (rule : DestinationPolicyRule) (url : Url) : Prop :=
  rule.pathPrefixes = [] ∨ ∃ path ∈ rule.pathPrefixes,
    DestinationCanonicalization.pathMatchesPrefix url.pathname path = true

/-- **APPROVES**: the rule allows the host, the path and the query of the URL. -/
structure Approves (rule : DestinationPolicyRule) (url : Url) : Prop where
  host : AllowsHost reader rule url
  path : PathFits rule url
  query : QueryFits rule url

/-- The text of a listed prefix begins the path. -/
def PathBegins (rule : DestinationPolicyRule) (url : Url) : Prop :=
  rule.pathPrefixes = [] ∨ ∃ path ∈ rule.pathPrefixes, path.toList <+: url.pathname.toList

/-- The query fits and a prefix begins the path, but every such prefix ends
    inside a segment. -/
structure CutsSegment (rule : DestinationPolicyRule) (url : Url) : Prop where
  query : QueryFits rule url
  begins : PathBegins rule url
  cuts : ¬ PathFits rule url

/-- The query does not fit, or no prefix begins the path. -/
def Refuses (rule : DestinationPolicyRule) (url : Url) : Prop :=
  ¬ QueryFits rule url ∨ ¬ PathBegins rule url

/-! ## The code's tests -/

variable {reader} {rule : DestinationPolicyRule} {url : Url}

theorem ruleAllowsHost_iff :
    ruleAllowsHost reader rule (reader.js.toLowerCase url.hostname) = true
      ↔ AllowsHost reader rule url := by
  rw [ruleAllowsHost, List.any_eq_true]
  refine exists_congr fun allowedHost => and_congr_right fun _ => ?_
  dsimp only
  rw [Bool.or_eq_true, decide_eq_true_eq, Bool.and_eq_true, JsString.endsWith,
    List.isSuffixOf_iff_suffix]

theorem any_startsWith_iff :
    rule.pathPrefixes.any (JsString.startsWith url.pathname) = true
      ↔ ∃ path ∈ rule.pathPrefixes, path.toList <+: url.pathname.toList := by
  rw [List.any_eq_true]
  refine exists_congr fun path => and_congr_right fun _ => ?_
  rw [JsString.startsWith, List.isPrefixOf_iff_prefix]

/-- **REASONS**: a rule has no reason against a URL when the query fits and a
    prefix begins the path. -/
theorem directDestinationMismatchReasons_nil_iff :
    directDestinationMismatchReasons rule url = [] ↔ PathBegins rule url ∧ QueryFits rule url := by
  simp only [directDestinationMismatchReasons, List.append_eq_nil_iff, and_assoc]
  refine and_congr ?_ ?_
  · rw [ite_eq_right_iff, PathBegins, ← any_startsWith_iff]
    constructor
    · intro h
      by_cases hnil : rule.pathPrefixes = []
      · exact .inl hnil
      · right
        cases hbegins : rule.pathPrefixes.any (JsString.startsWith url.pathname) with
        | true => rfl
        | false => exact absurd (h ⟨hnil, by rw [hbegins]; rfl⟩) (List.cons_ne_nil _ _)
    · rintro (hnil | hbegins) ⟨hne, hnone⟩
      · exact absurd hnil hne
      · rw [hbegins] at hnone
        cases hnone
  · rw [ite_eq_right_iff, ite_eq_right_iff]
    constructor
    · rintro ⟨hnone, hallowed⟩
      refine ⟨fun hpolicy => ?_, fun hne param hparam => ?_⟩
      · by_contra hquery
        exact List.cons_ne_nil _ _ (hnone ⟨hpolicy, fun hkeys => hquery (List.map_eq_nil_iff.mp hkeys)⟩)
      · by_contra hkey
        refine List.cons_ne_nil _ _ (hallowed ⟨hne, List.any_eq_true.mpr ⟨param.1, ?_, ?_⟩⟩)
        · exact List.mem_map_of_mem hparam
        · rw [Bool.not_eq_true', ← Bool.not_eq_true, List.contains_iff_mem]
          exact hkey
    · rintro ⟨hnone, hallowed⟩
      refine ⟨fun h => ?_, fun h => ?_⟩
      · exact absurd (by rw [hnone h.1]; rfl) h.2
      · obtain ⟨key, hkey, hnot⟩ := List.any_eq_true.mp h.2
        obtain ⟨param, hparam, rfl⟩ := List.mem_map.mp hkey
        rw [List.contains_iff_mem.mpr (hallowed h.1 param hparam)] at hnot
        cases hnot

/-- **BOUND**: without a resolver, a URL is bound when the first rule that allows
    its host has no reason against it. -/
theorem bound_iff {issuer : IssuerProjection} {policy : DestinationPolicyProjection}
    {lookupHost : String} (h : matchedResolverUrl reader policy.redirectPolicy url = none) :
    (resolveDestination reader issuer policy url lookupHost).bindingStatus = .bound
      ↔ ∃ first, matchedRule reader policy url = some first
        ∧ PathBegins first url ∧ QueryFits first url := by
  have htruthy : JsString.truthy (matchedResolverUrl reader policy.redirectPolicy url) = none := by
    rw [h]
    rfl
  rw [resolveDestination, htruthy]
  cases hrule : matchedRule reader policy url with
  | none =>
      rw [matchedRule] at hrule
      simp only [hrule]
      refine iff_of_false (fun hbound => BindingStatus.noConfusion hbound) ?_
      rintro ⟨first, hfirst, -⟩
      cases hfirst
  | some first =>
      rw [matchedRule] at hrule
      simp only [hrule]
      split
      · rename_i hreasons
        exact iff_of_true rfl
          ⟨first, rfl, directDestinationMismatchReasons_nil_iff.mp hreasons⟩
      · rename_i hreasons
        refine iff_of_false (fun hbound => BindingStatus.noConfusion hbound) ?_
        rintro ⟨other, hother, hfits⟩
        obtain rfl := Option.some.inj hother
        exact hreasons (directDestinationMismatchReasons_nil_iff.mpr hfits)

/-! ## The first rule and the others -/

variable (reader)

/-- Some rule of the policy approves the URL. -/
def SomeRuleApproves (policy : DestinationPolicyProjection) (url : Url) : Prop :=
  ∃ rule ∈ policy.approvedDestinations, Approves reader rule url

/-- **SETTLED BY THE FIRST**: where the first rule that allows the host is taken in
    by a prefix that ends inside a segment, another rule approves the URL; where it
    refuses the URL, no rule approves it. -/
def FirstRuleSettles (policy : DestinationPolicyProjection) (url : Url) : Prop :=
  ∀ first, matchedRule reader policy url = some first →
    (CutsSegment first url → SomeRuleApproves reader policy url)
      ∧ (Refuses first url → ¬ SomeRuleApproves reader policy url)

/-- The rules that allow the host agree on the path, as a text, and on the query. -/
def AllowingRulesAgree (policy : DestinationPolicyProjection) (url : Url) : Prop :=
  ∀ rule ∈ policy.approvedDestinations, ∀ other ∈ policy.approvedDestinations,
    AllowsHost reader rule url → AllowsHost reader other url →
    Refuses rule url → Refuses other url

/-- The answer for the URL is to bind it. -/
def Binds (issuer : IssuerProjection) (policy : DestinationPolicyProjection) (url : Url)
    (lookupHost : String) : Prop :=
  (resolveDestination reader issuer policy url lookupHost).bindingStatus = .bound

variable {reader} {policy : DestinationPolicyProjection} {issuer : IssuerProjection}
  {lookupHost : String}

theorem matchedRule_some {first : DestinationPolicyRule}
    (h : matchedRule reader policy url = some first) :
    first ∈ policy.approvedDestinations ∧ AllowsHost reader first url := by
  rw [matchedRule] at h
  have hallows := List.find?_some h
  exact ⟨List.mem_of_find?_eq_some h, ruleAllowsHost_iff.mp hallows⟩

theorem exists_matchedRule {rule : DestinationPolicyRule}
    (hlisted : rule ∈ policy.approvedDestinations) (hhost : AllowsHost reader rule url) :
    ∃ first, matchedRule reader policy url = some first := by
  rw [← Option.isSome_iff_exists, matchedRule, List.find?_isSome]
  exact ⟨rule, hlisted, ruleAllowsHost_iff.mpr hhost⟩

theorem not_refuses_iff : ¬ Refuses rule url ↔ PathBegins rule url ∧ QueryFits rule url := by
  rw [Refuses, not_or, not_not, not_not, and_comm]

/-- A URL is bound as some rule approves it exactly when the first rule settles it. -/
theorem binds_iff_approved
    (h : matchedResolverUrl reader policy.redirectPolicy url = none) :
    (Binds reader issuer policy url lookupHost ↔ SomeRuleApproves reader policy url)
      ↔ FirstRuleSettles reader policy url := by
  rw [Binds, bound_iff h]
  constructor
  · intro hmeets first hfirst
    constructor
    · intro hcuts
      exact hmeets.mp ⟨first, hfirst, hcuts.begins, hcuts.query⟩
    · intro hrefuses happroved
      obtain ⟨other, hother, hfits⟩ := hmeets.mpr happroved
      obtain rfl := Option.some.inj (hfirst.symm.trans hother)
      exact not_refuses_iff.mpr hfits hrefuses
  · intro hsettles
    constructor
    · rintro ⟨first, hfirst, hbegins, hquery⟩
      obtain ⟨hlisted, hhost⟩ := matchedRule_some hfirst
      by_cases hpath : PathFits first url
      · exact ⟨first, hlisted, hhost, hpath, hquery⟩
      · exact (hsettles first hfirst).1 ⟨hquery, hbegins, hpath⟩
    · rintro ⟨rule, hlisted, happroves⟩
      obtain ⟨first, hfirst⟩ := exists_matchedRule hlisted happroves.host
      refine ⟨first, hfirst, not_refuses_iff.mp fun hrefuses => ?_⟩
      exact (hsettles first hfirst).2 hrefuses ⟨rule, hlisted, happroves⟩

/-- The same policy with its rules in another order. -/
def withRules (policy : DestinationPolicyProjection) (rules : List DestinationPolicyRule) :
    DestinationPolicyProjection :=
  { policy with approvedDestinations := rules }

/-- Where the allowing rules agree, any order binds what another order binds. -/
theorem binds_of_perm (h : matchedResolverUrl reader policy.redirectPolicy url = none)
    (hagree : AllowingRulesAgree reader policy url) {rules others : List DestinationPolicyRule}
    (hrules : rules.Perm policy.approvedDestinations)
    (hothers : others.Perm policy.approvedDestinations)
    (hbinds : Binds reader issuer (withRules policy rules) url lookupHost) :
    Binds reader issuer (withRules policy others) url lookupHost := by
  have hrulesResolver : matchedResolverUrl reader (withRules policy rules).redirectPolicy url
      = none := h
  have hothersResolver : matchedResolverUrl reader (withRules policy others).redirectPolicy url
      = none := h
  rw [Binds, bound_iff hrulesResolver] at hbinds
  rw [Binds, bound_iff hothersResolver]
  obtain ⟨first, hfirst, hfits⟩ := hbinds
  obtain ⟨hmem, hhost⟩ := matchedRule_some hfirst
  have hlisted : first ∈ others := hothers.mem_iff.mpr (hrules.mem_iff.mp hmem)
  obtain ⟨other, hother⟩ :=
    @exists_matchedRule reader url (withRules policy others) first hlisted hhost
  obtain ⟨hmem', hhost'⟩ := matchedRule_some hother
  refine ⟨other, hother, not_refuses_iff.mp fun hrefuses => ?_⟩
  exact not_refuses_iff.mpr hfits
    (hagree other (hothers.mem_iff.mp hmem') first (hrules.mem_iff.mp hmem) hhost' hhost hrefuses)

/-- A rule that comes first decides, where it allows the host. -/
theorem binds_first_iff (h : matchedResolverUrl reader policy.redirectPolicy url = none)
    {rest : List DestinationPolicyRule} (hhost : AllowsHost reader rule url) :
    Binds reader issuer (withRules policy (rule :: rest)) url lookupHost ↔ ¬ Refuses rule url := by
  have hresolver : matchedResolverUrl reader (withRules policy (rule :: rest)).redirectPolicy url
      = none := h
  have hfirst : matchedRule reader (withRules policy (rule :: rest)) url = some rule :=
    List.find?_cons_of_pos (ruleAllowsHost_iff.mpr hhost)
  rw [Binds, bound_iff hresolver, not_refuses_iff]
  constructor
  · rintro ⟨first, hfirst', hfits⟩
    obtain rfl := Option.some.inj (hfirst.symm.trans hfirst')
    exact hfits
  · intro hfits
    exact ⟨rule, hfirst, hfits⟩

/-- The order of the rules does not matter exactly when the allowing rules agree. -/
theorem order_free_iff (h : matchedResolverUrl reader policy.redirectPolicy url = none) :
    (∀ rules : List DestinationPolicyRule, rules.Perm policy.approvedDestinations →
        (Binds reader issuer (withRules policy rules) url lookupHost
          ↔ Binds reader issuer policy url lookupHost))
      ↔ AllowingRulesAgree reader policy url := by
  constructor
  · intro hfree rule hrule other hother hhost hhost' hrefuses
    by_contra hfits
    have hruleFirst := hfree _ (List.perm_cons_erase hrule).symm
    have hotherFirst := hfree _ (List.perm_cons_erase hother).symm
    rw [binds_first_iff h hhost] at hruleFirst
    rw [binds_first_iff h hhost'] at hotherFirst
    exact hruleFirst.mpr (hotherFirst.mp hfits) hrefuses
  · intro hagree rules hrules
    constructor
    · exact binds_of_perm h hagree hrules (List.Perm.refl _)
    · exact binds_of_perm h hagree (List.Perm.refl _) hrules

/-- **DIRECT BINDING**: a URL at no resolver of the policy is bound exactly where
    some rule approves it when the first rule that allows the host settles it, and
    whatever the order of the rules when the rules that allow the host agree. -/
theorem directBinding_iff (issuer : IssuerProjection) (policy : DestinationPolicyProjection)
    (url : Url) (lookupHost : String)
    (h : matchedResolverUrl reader policy.redirectPolicy url = none) :
    ((Binds reader issuer policy url lookupHost ↔ SomeRuleApproves reader policy url)
        ↔ FirstRuleSettles reader policy url)
      ∧ ((∀ rules : List DestinationPolicyRule, rules.Perm policy.approvedDestinations →
            (Binds reader issuer (withRules policy rules) url lookupHost
              ↔ Binds reader issuer policy url lookupHost))
          ↔ AllowingRulesAgree reader policy url) :=
  ⟨binds_iff_approved h, order_free_iff h⟩

/-! ## A prefix that ends inside a segment -/

/-- A reader for ASCII hosts in lower case. -/
def asciiReader : Reader where
  js :=
    { parseUrl := fun _ => none
      toLowerCase := id
      toISOString := some
      hashJson := fun _ => "" }
  acceptsRoot _ := true

/-- A rule for one path of the shop. -/
def shopRule (path : String) : DestinationPolicyRule where
  destinationId := "dest:shop"
  expectedFinalUrl := "https://shop.example/pay"
  allowedHosts := ["shop.example"]
  allowSubdomains := false
  pathPrefixes := [path]
  queryPolicy := "none"
  allowedQueryKeys := none

/-- A policy of these rules, without resolvers. -/
def shopPolicy (rules : List DestinationPolicyRule) : DestinationPolicyProjection where
  ns := ⟨"root:demo", "authority:demo", "issuer:shop"⟩
  destinationPolicyId := "policy:shop"
  approvedDestinations := rules
  redirectPolicy := ⟨[], [], [], 0, false, true⟩
  allowedHosts := ["shop.example"]
  allowSubdomains := false
  cacheGeneratedAt := "2026-05-15T00:00:00.000Z"
  cacheExpiresAt := "2026-12-31T23:59:59.000Z"

/-- The record of the shop. -/
def shopIssuer : IssuerProjection where
  ns := ⟨"root:demo", "authority:demo", "issuer:shop"⟩
  issuerDisplayName := "Shop"
  assuranceTier := "demo"
  destinationPolicyId := "policy:shop"
  allowedHosts := ["shop.example"]
  cacheGeneratedAt := "2026-05-15T00:00:00.000Z"
  cacheExpiresAt := "2026-12-31T23:59:59.000Z"

/-- A page of the shop. -/
def shopUrl (path : String) : Url where
  href := "https://shop.example" ++ path
  protocol := "https:"
  username := ""
  password := ""
  hostname := "shop.example"
  pathname := path
  searchParams := []

/-- The payroll page is bound through the rule for `/pay`, which does not approve
    it; and the catalogue page is bound in one order of two rules only. -/
theorem payroll_bound :
    ¬ (Binds asciiReader shopIssuer (shopPolicy [shopRule "/pay"]) (shopUrl "/payroll")
          "shop.example"
        ↔ SomeRuleApproves asciiReader (shopPolicy [shopRule "/pay"]) (shopUrl "/payroll"))
      ∧ Binds asciiReader shopIssuer (shopPolicy [shopRule "/goods", shopRule "/pay"])
          (shopUrl "/goods") "shop.example"
      ∧ ¬ Binds asciiReader shopIssuer (shopPolicy [shopRule "/pay", shopRule "/goods"])
          (shopUrl "/goods") "shop.example" := by
  refine ⟨fun h => ?_, ?_, ?_⟩
  · have hbound : Binds asciiReader shopIssuer (shopPolicy [shopRule "/pay"]) (shopUrl "/payroll")
        "shop.example" := by
      rw [Binds]
      decide +kernel
    obtain ⟨rule, hlisted, happroves⟩ := h.mp hbound
    obtain rfl := List.mem_singleton.mp hlisted
    rcases happroves.path with hnil | ⟨path, hpath, hmatches⟩
    · exact List.cons_ne_nil _ _ hnil
    · obtain rfl := List.mem_singleton.mp hpath
      exact absurd hmatches (by decide +kernel)
  · rw [Binds]
    decide +kernel
  · rw [Binds]
    decide +kernel

/-- The page behind the prefix is bound as its rule approves it. -/
theorem directBinding_iff_card :
    Binds asciiReader shopIssuer (shopPolicy [shopRule "/pay"]) (shopUrl "/pay/card") "shop.example"
      ↔ SomeRuleApproves asciiReader (shopPolicy [shopRule "/pay"]) (shopUrl "/pay/card") := by
  refine (directBinding_iff shopIssuer (shopPolicy [shopRule "/pay"]) (shopUrl "/pay/card")
    "shop.example" rfl).1.mpr fun first hfirst => ?_
  have hrule : matchedRule asciiReader (shopPolicy [shopRule "/pay"]) (shopUrl "/pay/card")
      = some (shopRule "/pay") := by
    decide +kernel
  obtain rfl := Option.some.inj (hrule.symm.trans hfirst)
  have hquery : QueryFits (shopRule "/pay") (shopUrl "/pay/card") :=
    ⟨fun _ => rfl, fun _ _ hparam => absurd hparam List.not_mem_nil⟩
  constructor
  · intro hcuts
    exact absurd (.inr ⟨"/pay", List.mem_singleton.mpr rfl, by decide +kernel⟩) hcuts.cuts
  · rintro (hnone | hnone)
    · exact absurd hquery hnone
    · exact absurd (.inr ⟨"/pay", List.mem_singleton.mpr rfl, by decide +kernel⟩) hnone

end DirectBinding
