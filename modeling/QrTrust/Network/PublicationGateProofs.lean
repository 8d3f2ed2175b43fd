import QrTrust.Lib.Fallible
import QrTrust.Network.JsStringProofs
import QrTrust.Network.PublicationGate
import QrTrust.Network.VerifierCacheProofs

/-! # What the publication gate covers

    A publishable policy has a proof behind every host its rules allow, as the
    gate evaluates it.  `publishable_bound_proven` carries this over to what
    the cache binds directly.  What the cache binds through a resolver is listed
    in the redirect policy, which no proof stands behind
    (`publishable_unproven_bound`). -/

namespace PublicationGate

open VerifierCache PolicyDecoding DomainProof Fallible JsString

variable {js : JsRuntime}

/-! ## What is known of the host functions -/

/-- Documented behaviour of the host: its case mapping leaves white space and a
    trailing dot in their places, and the hostname of a parsed URL has no white
    space. -/
structure HostLaws (js : JsRuntime) : Prop where
  toLowerCase_trim : ∀ s, js.toLowerCase (trim s) = trim (js.toLowerCase s)
  toLowerCase_dropTrailingDot : ∀ s,
    js.toLowerCase (dropTrailingDot s) = dropTrailingDot (js.toLowerCase s)
  hostname_noSpace : ∀ text url, js.parseUrl text = some url →
    NoSpace (js.toLowerCase url.hostname)

/-! ## Hosts under hosts -/

/-- What is under a host is under what the host is under. -/
theorem isOrUnder_trans {host middle domain : String} (h : IsOrUnder host middle)
    (h' : IsOrUnder middle domain) : IsOrUnder host domain := by
  rcases h with rfl | hunder
  · exact h'
  · rcases h' with rfl | hunder'
    · exact .inr hunder
    · refine .inr (endsWith_iff.mpr ?_)
      have hmiddle : middle.toList <:+ ("." ++ middle).toList := by
        rw [String.toList_append]
        exact List.suffix_append ..
      exact (endsWith_iff.mp hunder').trans (hmiddle.trans (endsWith_iff.mp hunder))

/-- Dropping the trailing dot of both keeps a host under its domain. -/
theorem isOrUnder_dropTrailingDot {host domain : String} (h : IsOrUnder host domain)
    (hne : dropTrailingDot domain ≠ "") :
    IsOrUnder (dropTrailingDot host) (dropTrailingDot domain) := by
  rcases h with rfl | hunder
  · exact .inl rfl
  · have hdomain : domain.toList ≠ [] := by
      intro hnil
      refine hne (String.toList_inj.mp ?_)
      rw [toList_dropTrailingDot, hnil]
      rfl
    obtain ⟨before, hbefore⟩ := endsWith_iff.mp hunder
    rw [String.toList_append] at hbefore
    have hsplit : host.toList = (before ++ ".".toList) ++ domain.toList := by
      rw [← hbefore, List.append_assoc]
    refine .inr (endsWith_iff.mpr ⟨before, ?_⟩)
    rw [dropTrailingDot_suffix hsplit hdomain, String.toList_append, List.append_assoc]

/-! ## What publishable says -/

theorem mem_uniqueStrings_foldl (values acc : List String) (v : String) :
    v ∈ values.foldl (fun acc v => if v ∈ acc then acc else acc ++ [v]) acc ↔
      v ∈ acc ∨ v ∈ values := by
  induction values generalizing acc with
  | nil => simp
  | cons first rest ih =>
      rw [List.foldl_cons, ih]
      by_cases h : first ∈ acc
      · rw [if_pos h]
        constructor
        · rintro (hacc | hrest)
          · exact .inl hacc
          · exact .inr (List.mem_cons_of_mem _ hrest)
        · rintro (hacc | hcons)
          · exact .inl hacc
          · rcases List.mem_cons.mp hcons with rfl | hrest
            · exact .inl h
            · exact .inr hrest
      · rw [if_neg h, List.mem_append, List.mem_singleton, List.mem_cons, or_assoc]

/-- `uniqueStrings` keeps every non-empty value. -/
theorem mem_uniqueStrings (values : List String) (v : String) :
    v ∈ uniqueStrings values ↔ v ∈ values ∧ v ≠ "" := by
  rw [uniqueStrings, mem_uniqueStrings_foldl]
  simp

/-- **GATE**: a publishable policy belongs to the issuer, and each of its rules
    is publishable. -/
theorem publishable_rules {input : GateInput} {decision : GateDecision}
    (h : evaluateDestinationPolicyPublicationGate js input = .ok decision)
    (hpublishable : decision.publishable = true) :
    input.issuer.ns = input.destinationPolicy.ns
      ∧ ∀ rule ∈ input.destinationPolicy.approvedDestinations, ∃ ruleDecision,
          evaluateRulePublication js input rule = .ok ruleDecision
            ∧ ruleDecision.publishable = true := by
  rw [evaluateDestinationPolicyPublicationGate] at h
  split at h
  · obtain rfl := Except.ok.inj h
    exact Bool.noConfusion hpublishable
  · rename_i hns
    split at h
    · obtain rfl := Except.ok.inj h
      exact Bool.noConfusion hpublishable
    · obtain ⟨ruleDecisions, hrules, hdecision⟩ := bind_eq_ok_iff.mp h
      obtain rfl := Except.ok.inj hdecision
      refine ⟨not_not.mp hns, fun rule hrule => ?_⟩
      have hall : ruleDecisions.all RuleDecision.publishable = true :=
        (Bool.and_eq_true .. ▸ hpublishable).2
      obtain ⟨ruleDecision, hmem, heval⟩ := exists_of_mapM_eq_ok hrules hrule
      exact ⟨ruleDecision, heval, List.all_eq_true.mp hall ruleDecision hmem⟩

/-- **RULE**: every host candidate of a publishable rule parses as the host of an
    https URL whose boundary is supported. -/
theorem publishable_hosts {input : GateInput} {rule : DestinationPolicyRule}
    {decision : RuleDecision} (h : evaluateRulePublication js input rule = .ok decision)
    (hpublishable : decision.publishable = true) :
    ∃ expectedUrl, ∀ host ∈ destinationHostCandidates js rule expectedUrl, ∃ hostUrl,
      urlForHost js host "https:" = .ok hostUrl
        ∧ (evaluateHostPublication js input rule.destinationId hostUrl).publishable = true := by
  rw [evaluateRulePublication] at h
  cases hexpected : parseExpectedFinalUrl js rule.expectedFinalUrl with
  | none =>
      rw [hexpected] at h
      obtain rfl := Except.ok.inj h
      exact Bool.noConfusion hpublishable
  | some expectedUrl =>
      have hprotocol : expectedUrl.protocol = "https:" := by
        obtain ⟨-, hall⟩ := Option.filter_eq_some_iff.mp hexpected
        rw [Bool.and_eq_true, Bool.and_eq_true] at hall
        exact of_decide_eq_true hall.1.1
      rw [hexpected] at h
      simp only at h
      split at h
      · obtain rfl := Except.ok.inj h
        exact Bool.noConfusion hpublishable
      · obtain ⟨hostUrls, hurls, hdecision⟩ := bind_eq_ok_iff.mp h
        obtain rfl := Except.ok.inj hdecision
        refine ⟨expectedUrl, fun host hhost => ?_⟩
        have hall : (hostUrls.map (evaluateHostPublication js input rule.destinationId)).all
            HostDecision.publishable = true := (Bool.and_eq_true .. ▸ hpublishable).2
        obtain ⟨hostUrl, hmem, hparse⟩ := exists_of_mapM_eq_ok hurls hhost
        rw [hprotocol] at hparse
        exact ⟨hostUrl, hparse, List.all_eq_true.mp hall _ (List.mem_map.mpr ⟨_, hmem, rfl⟩)⟩

/-- **HOST**: a publishable host has a proof of the issuer's namespace that holds
    at the time. -/
theorem publishable_proof {input : GateInput} {destinationId : String} {hostUrl : Url}
    (h : (evaluateHostPublication js input destinationId hostUrl).publishable = true) :
    ∃ proof ∈ input.domainProofs, proof.ns = input.issuer.ns ∧ HoldsAt proof input.observedAt
      ∧ IsOrUnder (normalizeDomain js hostUrl.hostname) (normalizeDomain js proof.domain) :=
  supportsBinding_proof js (Bool.and_eq_true .. ▸ h).1

/-! ## From the gate to the cache -/

/-- The allowed host that a lower-cased URL host matches under a rule. -/
def allowedHostMatches (js : JsRuntime) (rule : DestinationPolicyRule) (allowedHost host : String) :
    Prop :=
  host = js.toLowerCase allowedHost
    ∨ rule.allowSubdomains = true
      ∧ JsString.endsWith host ("." ++ js.toLowerCase allowedHost) = true

/-- The gate evaluates an allowed host under its own name: normalised it is not
    empty, and it is the host of the URL made from it. -/
def EvaluatedAsItself (js : JsRuntime) (allowedHost : String) : Prop :=
  normalizeHost js allowedHost ≠ ""
    ∧ ∀ url, urlForHost js (normalizeHost js allowedHost) "https:" = .ok url →
        normalizeDomain js url.hostname = normalizeHost js allowedHost

/-- A proof of the namespace stands behind the host at the time. -/
def ProvenAt (js : JsRuntime) (input : GateInput) (host : String) : Prop :=
  ∃ proof ∈ input.domainProofs, proof.ns = input.destinationPolicy.ns
    ∧ HoldsAt proof input.observedAt ∧ IsOrUnder host (normalizeDomain js proof.domain)

/-- Normalising the host of a parsed URL only drops its trailing dot. -/
theorem normalizeDomain_hostname (laws : HostLaws js) {text : String} {url : Url}
    (hurl : js.parseUrl text = some url) :
    normalizeDomain js url.hostname = dropTrailingDot (js.toLowerCase url.hostname) := by
  rw [normalizeDomain, laws.toLowerCase_trim, trim_of_noSpace (laws.hostname_noSpace _ _ hurl)]

/-- A URL host that matches an allowed host is, normalised, the normalised
    allowed host or under it. -/
theorem isOrUnder_of_allowedHostMatches (laws : HostLaws js) {text : String} {url : Url}
    (hurl : js.parseUrl text = some url) {rule : DestinationPolicyRule} {allowedHost : String}
    (hmatches : allowedHostMatches js rule allowedHost (js.toLowerCase url.hostname))
    (hne : normalizeHost js allowedHost ≠ "") :
    IsOrUnder (normalizeDomain js url.hostname) (normalizeHost js allowedHost) := by
  have hunder : IsOrUnder (js.toLowerCase url.hostname) (js.toLowerCase allowedHost) := by
    rcases hmatches with heq | ⟨-, hends⟩
    · exact .inl heq
    · exact .inr hends
  have hsuffix : (js.toLowerCase allowedHost).toList <:+ (js.toLowerCase url.hostname).toList := by
    rcases hunder with heq | hends
    · exact heq ▸ List.suffix_refl _
    · refine List.IsSuffix.trans ?_ (endsWith_iff.mp hends)
      rw [String.toList_append]
      exact List.suffix_append ..
  have hnormal : normalizeHost js allowedHost = dropTrailingDot (js.toLowerCase allowedHost) := by
    rw [normalizeHost, laws.toLowerCase_dropTrailingDot, laws.toLowerCase_trim,
      trim_of_noSpace ((laws.hostname_noSpace _ _ hurl).of_suffix hsuffix)]
  rw [normalizeDomain_hostname laws hurl, hnormal]
  rw [hnormal] at hne
  exact isOrUnder_dropTrailingDot hunder hne

/-- **COVERAGE**: under a publishable policy, a URL host that matches an allowed
    host the gate evaluates as itself is proven. -/
theorem publishable_host_proven (laws : HostLaws js) {input : GateInput}
    {decision : GateDecision}
    (hgate : evaluateDestinationPolicyPublicationGate js input = .ok decision)
    (hpublishable : decision.publishable = true) {text : String} {url : Url}
    (hurl : js.parseUrl text = some url) {rule : DestinationPolicyRule}
    (hrule : rule ∈ input.destinationPolicy.approvedDestinations) {allowedHost : String}
    (hallowed : allowedHost ∈ rule.allowedHosts)
    (hmatches : allowedHostMatches js rule allowedHost (js.toLowerCase url.hostname))
    (hitself : EvaluatedAsItself js allowedHost) :
    ProvenAt js input (normalizeDomain js url.hostname) := by
  obtain ⟨hns, hrules⟩ := publishable_rules hgate hpublishable
  obtain ⟨ruleDecision, hevaluated, hrulePublishable⟩ := hrules rule hrule
  obtain ⟨expectedUrl, hhosts⟩ := publishable_hosts hevaluated hrulePublishable
  have hcandidate : normalizeHost js allowedHost
      ∈ destinationHostCandidates js rule expectedUrl :=
    (mem_uniqueStrings ..).mpr
      ⟨List.mem_cons_of_mem _ (List.mem_map.mpr ⟨allowedHost, hallowed, rfl⟩), hitself.1⟩
  obtain ⟨hostUrl, hparse, hhostPublishable⟩ := hhosts _ hcandidate
  obtain ⟨proof, hmem, hproofNs, hholds, hcovers⟩ := publishable_proof hhostPublishable
  rw [hitself.2 hostUrl hparse] at hcovers
  exact ⟨proof, hmem, hproofNs.trans hns, hholds,
    isOrUnder_trans (isOrUnder_of_allowedHostMatches laws hurl hmatches hitself.1) hcovers⟩

/-- A rule that allows a host has an allowed host that it matches. -/
theorem exists_allowedHostMatches {reader : Reader} {rule : DestinationPolicyRule}
    {host : String} (h : ruleAllowsHost reader rule host = true) :
    ∃ allowedHost ∈ rule.allowedHosts, allowedHostMatches reader.js rule allowedHost host := by
  rw [ruleAllowsHost, List.any_eq_true] at h
  obtain ⟨allowedHost, hmem, hmatches⟩ := h
  rw [Bool.or_eq_true, decide_eq_true_eq, Bool.and_eq_true] at hmatches
  exact ⟨allowedHost, hmem, hmatches⟩

/-- **PUBLISHABLE COVERS BOUND**: what the cache binds of a publishable policy
    either went through a listed resolver to a listed final destination, or
    matched a rule directly.  Then the host of the URL, which is the final URL
    too, matches an allowed host of that very rule, as a strict subdomain only
    where the rule allows subdomains; and for every allowed host it matches
    that the gate evaluates as itself, a proof of the policy's own namespace
    stands behind the host at the time of the gate. -/
theorem publishable_bound_proven (reader : Reader) (laws : HostLaws reader.js)
    (input : GateInput) (decision : GateDecision)
    (hgate : evaluateDestinationPolicyPublicationGate reader.js input = .ok decision)
    (hpublishable : decision.publishable = true) (issuer : IssuerProjection) (text : String)
    (url : Url) (hurl : reader.js.parseUrl text = some url) (lookupHost : String)
    (answer : DestinationResolution)
    (hanswer : answer
      = resolveDestination reader issuer input.destinationPolicy url lookupHost)
    (hbound : answer.bindingStatus = .bound) :
    ThroughListedResolver reader input.destinationPolicy url answer
      ∨ ∃ rule ∈ input.destinationPolicy.approvedDestinations, answer.destination = rule
        ∧ answer.finalUrl = some url.href
        ∧ (∃ allowedHost ∈ rule.allowedHosts, allowedHostMatches reader.js rule allowedHost
            (reader.js.toLowerCase url.hostname))
        ∧ ∀ allowedHost ∈ rule.allowedHosts,
            allowedHostMatches reader.js rule allowedHost (reader.js.toLowerCase url.hostname) →
            EvaluatedAsItself reader.js allowedHost →
            ProvenAt reader.js input (normalizeDomain reader.js url.hostname) := by
  subst hanswer
  rcases resolveDestination_bound hbound with
    hresolver | ⟨rule, hmatched, hdestination, hfinal⟩
  · exact .inl hresolver
  · have hrule : rule ∈ input.destinationPolicy.approvedDestinations :=
      List.mem_of_find?_eq_some hmatched
    have hallows : ruleAllowsHost reader rule (reader.js.toLowerCase url.hostname) = true :=
      List.find?_some (p := fun destination =>
        ruleAllowsHost reader destination (reader.js.toLowerCase url.hostname)) hmatched
    refine .inr ⟨rule, hrule, hdestination, hfinal, exists_allowedHostMatches hallows, ?_⟩
    intro allowedHost hallowed hmatches hitself
    exact publishable_host_proven laws hgate hpublishable hurl hrule hallowed hmatches hitself

/-! ## A policy and its URLs -/

/-- A URL without query. -/
def plainUrl (host path : String) : Url where
  href := "https://" ++ host ++ path
  protocol := "https:"
  username := ""
  password := ""
  hostname := host
  pathname := path
  searchParams := []

/-- A link of the short host that leads elsewhere. -/
def shortLink : Url :=
  { plainUrl "go.short.example" "/r" with
    href := "https://go.short.example/r?final=https%3A%2F%2Felsewhere.example%2F"
    searchParams := [("final", "https://elsewhere.example/")] }

/-- The URLs the sample runtime parses. -/
def sampleUrls : List Url :=
  [ plainUrl "acme.example" "/", plainUrl "pay.acme.example" "/",
    plainUrl "go.short.example" "/r", shortLink, plainUrl "elsewhere.example" "/",
    plainUrl "evil.example." "/" ]

/-- A runtime that parses the sample URLs and lower-cases ASCII letters. -/
def sampleRuntime : JsRuntime where
  parseUrl := fun text => sampleUrls.find? fun url => url.href = text
  toLowerCase := asciiLowerCase
  toISOString := some
  hashJson := fun _ => ""

/-- The ASCII case mapping and a table of URLs without white space obey the laws
    of the host. -/
theorem sampleRuntime_laws : HostLaws sampleRuntime where
  toLowerCase_trim := asciiLowerCase_trim
  toLowerCase_dropTrailingDot := asciiLowerCase_dropTrailingDot
  hostname_noSpace := by
    intro text url h
    have hlisted : ∀ url ∈ sampleUrls,
        (asciiLowerCase url.hostname).toList.all (fun c => !isSpace c) = true := by decide
    have hmem : url ∈ sampleUrls :=
      List.mem_of_find?_eq_some
        (show sampleUrls.find? (fun url => url.href = text) = some url from h)
    intro c hc
    have hnot := List.all_eq_true.mp (hlisted url hmem) c hc
    exact (Bool.not_eq_true' _).mp hnot

/-- A reader that accepts every root. -/
def sampleReader : Reader := ⟨sampleRuntime, fun _ => true⟩

/-- The namespace of the sample issuer. -/
def sampleNamespace : IssuerNamespace := ⟨"root:demo", "authority:demo", "issuer:acme"⟩

/-- A policy for the hosts of one rule, with one resolver. -/
def samplePolicy (allowedHosts : List String) : DestinationPolicyProjection where
  ns := sampleNamespace
  destinationPolicyId := "policy:acme"
  approvedDestinations :=
    [ { destinationId := "dest:acme"
        expectedFinalUrl := "https://acme.example/"
        allowedHosts := allowedHosts
        allowSubdomains := true
        pathPrefixes := []
        queryPolicy := "none"
        allowedQueryKeys := none } ]
  redirectPolicy :=
    { resolverUrls := ["https://go.short.example/r"]
      expectedFinalDestinations := ["https://elsewhere.example/"]
      allowedRedirectHosts := []
      maxRedirectHops := 1
      nestedShortenersAllowed := false
      scannerMustDisplayResolverAndFinalDestination := true }
  allowedHosts := allowedHosts
  allowSubdomains := true
  cacheGeneratedAt := "2026-01-01T00:00:00.000Z"
  cacheExpiresAt := "2027-01-01T00:00:00.000Z"

/-- The issuer record behind the policy. -/
def sampleIssuer : IssuerProjection where
  ns := sampleNamespace
  issuerDisplayName := "Acme"
  assuranceTier := "domain_verified"
  destinationPolicyId := "policy:acme"
  allowedHosts := ["acme.example"]
  cacheGeneratedAt := "2026-01-01T00:00:00.000Z"
  cacheExpiresAt := "2027-01-01T00:00:00.000Z"

/-- An active issuer with one proof, for its own domain. -/
def sampleInput (allowedHosts : List String) : GateInput where
  issuer := ⟨sampleNamespace, .active⟩
  destinationPolicy := samplePolicy allowedHosts
  domainProofs :=
    [⟨sampleNamespace, "acme.example", .dnsTxt, .verified, some "2027-01-01T00:00:00.000Z"⟩]
  observedAt := "2026-06-01T00:00:00.000Z"

/-- The gate finds the policy publishable. -/
def Publishable (js : JsRuntime) (input : GateInput) : Prop :=
  ∃ decision, evaluateDestinationPolicyPublicationGate js input = .ok decision
    ∧ decision.publishable = true

/-- What the cache answers for a URL under the sample policy. -/
def sampleAnswer (allowedHosts : List String) (url : Url) : DestinationResolution :=
  resolveDestination sampleReader sampleIssuer (samplePolicy allowedHosts) url url.hostname

/-- The one proof of the sample covers its own domain only. -/
theorem not_provenAt_sample {allowedHosts : List String} {host : String}
    (h : hostMatches true "acme.example" host = false) :
    ¬ ProvenAt sampleRuntime (sampleInput allowedHosts) host := by
  rintro ⟨proof, hmem, -, -, hcovers⟩
  obtain rfl := List.mem_singleton.mp hmem
  have hdomain : normalizeDomain sampleRuntime "acme.example" = "acme.example" := by decide
  rw [hostMatches, Bool.or_eq_false_iff, decide_eq_false_iff_not, Bool.true_and] at h
  rcases hcovers with heq | hends
  · exact h.1 (heq.trans hdomain)
  · exact absurd (hdomain ▸ hends) (Bool.eq_false_iff.mp h.2)

/-- Two publishable policies bind hosts that no proof stands behind: one through
    its resolver, to a final destination elsewhere, the other through an empty
    allowed host, which the gate passes over and the cache reads as the domain
    of every host with a trailing dot. -/
theorem publishable_unproven_bound :
    (Publishable sampleRuntime (sampleInput ["acme.example"])
      ∧ (sampleAnswer ["acme.example"] shortLink).bindingStatus = .bound
      ∧ (sampleAnswer ["acme.example"] shortLink).finalUrl = some "https://elsewhere.example/"
      ∧ ¬ ProvenAt sampleRuntime (sampleInput ["acme.example"]) "go.short.example"
      ∧ ¬ ProvenAt sampleRuntime (sampleInput ["acme.example"]) "elsewhere.example")
    ∧ Publishable sampleRuntime (sampleInput ["acme.example", ""])
      ∧ (sampleAnswer ["acme.example", ""] (plainUrl "evil.example." "/")).bindingStatus = .bound
      ∧ ¬ ProvenAt sampleRuntime (sampleInput ["acme.example", ""]) "evil.example" :=
  ⟨⟨⟨_, rfl, by decide⟩, by decide, by decide, not_provenAt_sample (by decide),
      not_provenAt_sample (by decide)⟩,
    ⟨_, rfl, by decide⟩, by decide, not_provenAt_sample (by decide)⟩

/-- A subdomain of the one allowed host is bound directly and proven. -/
theorem publishable_bound_proven_subdomain :
    ProvenAt sampleRuntime (sampleInput ["acme.example"]) "pay.acme.example" := by
  have hbound := publishable_bound_proven sampleReader sampleRuntime_laws
    (sampleInput ["acme.example"]) _ rfl (by decide) sampleIssuer "https://pay.acme.example/"
    (plainUrl "pay.acme.example" "/") (by decide) "pay.acme.example"
    (sampleAnswer ["acme.example"] (plainUrl "pay.acme.example" "/")) rfl (by decide)
  rcases hbound with ⟨⟨resolverUrl, hlisted, parsed, hparsed, hhost, -⟩, -⟩
    | ⟨rule, hrule, -, -, -, hproven⟩
  · obtain rfl := List.mem_singleton.mp hlisted
    obtain rfl := Option.some.inj ((by decide : sampleRuntime.parseUrl "https://go.short.example/r"
      = some (plainUrl "go.short.example" "/r")).symm.trans hparsed)
    exact absurd hhost (by decide)
  · obtain rfl := List.mem_singleton.mp hrule
    refine hproven "acme.example" (List.mem_singleton_self _) (.inr ⟨rfl, by decide⟩)
      ⟨by decide, fun url hurl => ?_⟩
    obtain rfl := Except.ok.inj
      ((by rfl : urlForHost sampleRuntime "acme.example" "https:"
        = .ok (plainUrl "acme.example" "/")).symm.trans hurl)
    decide

end PublicationGate
