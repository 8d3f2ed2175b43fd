import QrTrust.Backend.RedirectPolicy
import QrTrust.Backend.VerifiedDomainProofs

/-! # Recognising a resolver

    Both checks compare `_url_without_query` of the payload, which keeps the
    spelling of the payload: an explicit default port, a trailing dot, an escaped
    letter or a missing scheme makes another URL of it, while
    `canonicalize_destination` takes all of them for the same destination.  Two
    payloads are recognised alike by every policy exactly where they are spelled
    alike (`recognisedAlike_iff`). -/

namespace RedirectPolicy

open PayloadRevalidation DestinationCanonicalization Fallible

variable {py : PyRuntime}

/-! ## Policies and payloads -/

/-- The policy approves the payload as a resolver URL. -/
def ApprovesResolver (py : PyRuntime) (policy : List (String × PyJson)) (payload : String) : Prop :=
  approvedResolver py policy payload = .ok true

/-- The policy file enrols the URL as a resolver. -/
def Enrols (policyFile : Option PolicyFile) (url : String) : Prop :=
  ∃ policy, loadRedirectPolicy policyFile = .ok (some policy)
    ∧ url ∈ (PyJson.get policy "resolver_urls").stringList

/-- The payload is taken for a plain destination, to be opened. -/
def TreatedAsDirect (py : PyRuntime) (policyFile : Option PolicyFile) (payload : String) : Prop :=
  ∃ verdict, evaluateUnobservedRedirectPolicy py policyFile payload = .ok verdict
    ∧ verdict.resolverUrl = none ∧ verdict.openAllowed = true

/-- The payloads have the same canonical scheme, host, effective port and path. -/
def SameCanonical (py : PyRuntime) (payload payload' : String) : Prop :=
  ∃ canonical canonical', canonicalizeDestination py payload = .ok canonical
    ∧ canonicalizeDestination py payload' = .ok canonical'
    ∧ canonical.scheme = canonical'.scheme ∧ canonical.host = canonical'.host
    ∧ canonical.port = canonical'.port ∧ canonical.path = canonical'.path

/-- Every policy approves both payloads as resolvers or neither, and none that
    enrols the second takes the first for a plain destination. -/
structure RecognisedAlike (py : PyRuntime) (payload payload' : String) : Prop where
  approved : ∀ policy, ApprovesResolver py policy payload ↔ ApprovesResolver py policy payload'
  notDirect : ∀ policyFile, Enrols policyFile payload' → ¬ TreatedAsDirect py policyFile payload

/-- The payloads are spelled alike: the same URL is left of both without its
    query.  (Or the first cannot be parsed and the second is no URL.) -/
def SpelledAlike (py : PyRuntime) (payload payload' : String) : Prop :=
  (∃ url, urlWithoutQuery py payload = .ok (some url)
      ∧ urlWithoutQuery py payload' = .ok (some url))
    ∨ (∃ exc, urlWithoutQuery py payload = .error exc)
      ∧ ∀ url, urlWithoutQuery py payload' ≠ .ok (some url)

/-! ## What is approved -/

/-- **APPROVED**: a resolver is approved where the payload without its query is
    that of an enrolled URL, all of which can be parsed. -/
theorem approvesResolver_iff {policy : List (String × PyJson)} {payload : String} :
    ApprovesResolver py policy payload ↔
      ∃ redirectPolicy urls url, PyJson.get policy "redirect_policy" = .dict redirectPolicy
        ∧ (PyJson.get redirectPolicy "resolver_urls").stringList.mapM (urlWithoutQuery py) = .ok urls
        ∧ urlWithoutQuery py payload = .ok (some url) ∧ some url ∈ urls := by
  rw [ApprovesResolver, approvedResolver]
  constructor
  · intro h
    split at h
    · rename_i redirectPolicy hredirect
      obtain ⟨urls, hurls, h⟩ := bind_eq_ok_iff.mp h
      obtain ⟨spelled, hspelled, h⟩ := bind_eq_ok_iff.mp h
      cases spelled with
      | none => cases h
      | some url =>
          exact ⟨redirectPolicy, urls, url, hredirect, hurls, hspelled,
            List.contains_iff_mem.mp (Except.ok.inj h)⟩
    · cases h
  · rintro ⟨redirectPolicy, urls, url, hredirect, hurls, hspelled, hmem⟩
    rw [hredirect]
    simp only [hurls, hspelled, bind, Except.bind]
    exact congrArg Except.ok (List.contains_iff_mem.mpr hmem)

/-- A policy that enrols one resolver. -/
def policyOf (url : String) : List (String × PyJson) :=
  [("redirect_policy", .dict [("resolver_urls", .list [.str url])])]

theorem stringList_policyOf {url : String} (hurl : PyString.strip url ≠ "") :
    (PyJson.list [.str url]).stringList = [url] := by
  simp [PyJson.stringList, PyJson.asStr, hurl]

/-- It approves exactly what is spelled like the resolver. -/
theorem approvesResolver_policyOf_iff {url payload : String} (hurl : PyString.strip url ≠ "") :
    ApprovesResolver py (policyOf url) payload ↔
      ∃ spelled, urlWithoutQuery py payload = .ok (some spelled)
        ∧ urlWithoutQuery py url = .ok (some spelled) := by
  have hlist := stringList_policyOf hurl
  rw [approvesResolver_iff]
  constructor
  · rintro ⟨redirectPolicy, urls, spelled, hredirect, hurls, hspelled, hmem⟩
    obtain rfl := PyJson.dict.inj hredirect
    rw [show PyJson.get [("resolver_urls", PyJson.list [.str url])] "resolver_urls"
      = .list [.str url] from rfl, hlist] at hurls
    obtain ⟨enrolled, henrolled, hsame⟩ := exists_source_of_mapM_eq_ok hurls hmem
    obtain rfl := List.mem_singleton.mp henrolled
    exact ⟨spelled, hspelled, hsame⟩
  · rintro ⟨spelled, hspelled, henrolled⟩
    refine ⟨_, [some spelled], spelled, rfl, ?_, hspelled, List.mem_singleton.mpr rfl⟩
    rw [show PyJson.get [("resolver_urls", PyJson.list [.str url])] "resolver_urls"
      = .list [.str url] from rfl, hlist]
    simp [List.mapM_cons, henrolled, bind, Except.bind, pure, Except.pure]

/-- **DIRECT**: a payload is taken for a plain destination where it is no URL, or
    no resolver policy is there, or the enrolled URLs can be parsed and it is none
    of them. -/
theorem treatedAsDirect_iff {policyFile : Option PolicyFile} {payload : String} :
    TreatedAsDirect py policyFile payload ↔
      ∃ policy spelled, loadRedirectPolicy policyFile = .ok policy
        ∧ urlWithoutQuery py payload = .ok spelled
        ∧ ∀ redirectPolicy url, policy = some redirectPolicy → spelled = some url →
            ∃ urls, (PyJson.get redirectPolicy "resolver_urls").stringList.mapM (urlWithoutQuery py)
              = .ok urls ∧ some url ∉ urls := by
  rw [TreatedAsDirect, evaluateUnobservedRedirectPolicy]
  constructor
  · rintro ⟨verdict, h, hresolver, hopen⟩
    obtain ⟨policy, hpolicy, h⟩ := bind_eq_ok_iff.mp h
    obtain ⟨spelled, hspelled, h⟩ := bind_eq_ok_iff.mp h
    refine ⟨policy, spelled, hpolicy, hspelled, ?_⟩
    rintro redirectPolicy url rfl rfl
    obtain ⟨urls, hurls, h⟩ := bind_eq_ok_iff.mp h
    refine ⟨urls, hurls, fun hmem => ?_⟩
    rw [if_pos (List.contains_iff_mem.mpr hmem)] at h
    obtain rfl := Except.ok.inj h
    cases hresolver
  · rintro ⟨policy, spelled, hpolicy, hspelled, hunlisted⟩
    simp only [hpolicy, hspelled, bind, Except.bind]
    cases policy with
    | none => exact ⟨_, rfl, rfl, rfl⟩
    | some redirectPolicy =>
        cases spelled with
        | none => exact ⟨_, rfl, rfl, rfl⟩
        | some url =>
            obtain ⟨urls, hurls, hnot⟩ := hunlisted redirectPolicy url rfl rfl
            simp only [hurls, if_neg (fun h => hnot (List.contains_iff_mem.mp h))]
            exact ⟨_, rfl, rfl, rfl⟩

/-! ## Spelling -/

/-- A payload that can be canonicalized is not blank. -/
theorem strip_ne_of_canonicalized {payload : String} {canonical : CanonicalDestination}
    (h : canonicalizeDestination py payload = .ok canonical) : PyString.strip payload ≠ "" := by
  intro hblank
  rw [canonicalizeDestination] at h
  simp only [hblank, if_true] at h
  cases h

/-- **ALIKE**: payloads that are spelled alike are recognised alike. -/
theorem SpelledAlike.recognisedAlike {payload payload' : String}
    (h : SpelledAlike py payload payload') : RecognisedAlike py payload payload' := by
  rcases h with ⟨url, hspelled, hspelled'⟩ | ⟨⟨exc, hraised⟩, hno⟩
  · refine ⟨fun policy => ?_, fun policyFile henrols hdirect => ?_⟩
    · rw [approvesResolver_iff, approvesResolver_iff, hspelled, hspelled']
    · obtain ⟨policy, hpolicy, henrolled⟩ := henrols
      obtain ⟨policy', spelled, hpolicy', hspelled'', hunlisted⟩ := treatedAsDirect_iff.mp hdirect
      obtain rfl := Except.ok.inj (hpolicy.symm.trans hpolicy')
      obtain rfl := Except.ok.inj (hspelled.symm.trans hspelled'')
      obtain ⟨urls, hurls, hnot⟩ := hunlisted policy url rfl rfl
      obtain ⟨enrolled, hmem, henrolled⟩ := exists_of_mapM_eq_ok hurls henrolled
      obtain rfl := Except.ok.inj (hspelled'.symm.trans henrolled)
      exact hnot hmem
  · refine ⟨fun policy => ?_, fun policyFile _ hdirect => ?_⟩
    · rw [approvesResolver_iff, approvesResolver_iff]
      constructor
      · rintro ⟨_, _, url, -, -, hspelled, -⟩
        rw [hraised] at hspelled
        cases hspelled
      · rintro ⟨_, _, url, -, -, hspelled, -⟩
        exact absurd hspelled (hno url)
    · obtain ⟨_, spelled, -, hspelled, -⟩ := treatedAsDirect_iff.mp hdirect
      rw [hraised] at hspelled
      cases hspelled

/-- **RESOLVER RECOGNITION**: of payloads with the same canonical form, every
    policy recognises both or neither, and none enrols the second and lets the
    first pass as a plain destination, exactly where they are spelled alike. -/
theorem recognisedAlike_iff {payload payload' : String}
    (hsame : SameCanonical py payload payload') :
    RecognisedAlike py payload payload' ↔ SpelledAlike py payload payload' := by
  obtain ⟨canonical, canonical', hcanonical, hcanonical', -⟩ := hsame
  have hpayload := strip_ne_of_canonicalized hcanonical
  have hpayload' := strip_ne_of_canonicalized hcanonical'
  constructor
  · intro halike
    by_cases hurl : ∃ url, urlWithoutQuery py payload' = .ok (some url)
    · -- the policy that enrols the second payload approves the first
      obtain ⟨url, hurl⟩ := hurl
      have happroved := (halike.approved (policyOf payload')).mpr
        ((approvesResolver_policyOf_iff hpayload').mpr ⟨url, hurl, hurl⟩)
      obtain ⟨spelled, hspelled, hspelled'⟩ := (approvesResolver_policyOf_iff hpayload').mp happroved
      exact .inl ⟨spelled, hspelled, hspelled'⟩
    · refine .inr ⟨?_, fun url h => hurl ⟨url, h⟩⟩
      cases hspelled : urlWithoutQuery py payload with
      | error exc => exact ⟨exc, rfl⟩
      | ok spelled =>
          cases spelled with
          | some url =>
              have happroved := (halike.approved (policyOf payload)).mp
                ((approvesResolver_policyOf_iff hpayload).mpr ⟨url, hspelled, hspelled⟩)
              obtain ⟨spelled, hspelled', -⟩ := (approvesResolver_policyOf_iff hpayload).mp happroved
              exact absurd ⟨spelled, hspelled'⟩ hurl
          | none =>
              -- what is no URL is a plain destination
              refine absurd ?_ (halike.notDirect (some ⟨"", .ok (.dict (policyOf payload'))⟩) ?_)
              · refine treatedAsDirect_iff.mpr ⟨_, none, rfl, hspelled, ?_⟩
                intro redirectPolicy url _ hnone
                cases hnone
              · refine ⟨_, rfl, ?_⟩
                rw [show PyJson.get [("resolver_urls", PyJson.list [.str payload'])] "resolver_urls"
                  = .list [.str payload'] from rfl, stringList_policyOf hpayload']
                exact List.mem_singleton.mpr rfl
  · exact SpelledAlike.recognisedAlike

/-! ## An explicit default port -/

/-- A resolver URL, and the same with its port written out. -/
def resolverRuntime : PyRuntime where
  lower := id
  repr := id
  reprList := fun _ => ""
  encodeIdna := .ok
  urlsplit := fun url =>
    if url = "https://go.acme.example/r" then
      .ok ⟨"https", none, none, some "go.acme.example", .ok none, "/r", ""⟩
    else if url = "https://go.acme.example:443/r" then
      .ok ⟨"https", none, none, some "go.acme.example", .ok (some 443), "/r", ""⟩
    else .error ""
  urlparse := fun url =>
    if url = "https://go.acme.example/r" then
      .ok ⟨"https", none, none, some "go.acme.example", .ok none, "/r", ""⟩
    else if url = "https://go.acme.example:443/r" then
      .ok ⟨"https", none, none, some "go.acme.example", .ok (some 443), "/r", ""⟩
    else .error ""
  isDigit := Char.isDigit
  parseQsl := fun _ => []
  fromisoformat := fun _ => none
  loadsPemPublicKey := fun _ => true
  verifiesRsaPss := fun _ _ _ => true
  sha256 := id

/-- The canonical form of both. -/
def resolverDestination : CanonicalDestination := ⟨"https", "go.acme.example", none, "/r", ""⟩

theorem sameCanonical_port :
    SameCanonical resolverRuntime "https://go.acme.example:443/r" "https://go.acme.example/r" := by
  have hcanonical : (canonicalizeDestination resolverRuntime "https://go.acme.example:443/r").toOption
        = some resolverDestination
      ∧ (canonicalizeDestination resolverRuntime "https://go.acme.example/r").toOption
        = some resolverDestination := by
    decide +kernel
  exact ⟨_, _, toOption_eq_some_iff.mp hcanonical.1, toOption_eq_some_iff.mp hcanonical.2, rfl, rfl,
    rfl, rfl⟩

/-- With the port written out, the enrolled resolver is a plain destination: the
    redirect policy lets it pass, and under the verified domain it is allowed. -/
theorem resolver_with_port :
    SameCanonical resolverRuntime "https://go.acme.example:443/r" "https://go.acme.example/r"
      ∧ ¬ RecognisedAlike resolverRuntime "https://go.acme.example:443/r"
          "https://go.acme.example/r"
      ∧ answerOf (matchPayloadToVerifiedDomains resolverRuntime
          (some ⟨"", .ok (.dict (policyOf "https://go.acme.example/r"))⟩)
          "https://go.acme.example:443/r" ⟨[("go.acme.example", none)], by decide⟩ false (.utc 0))
        = .ok (true, none) := by
  refine ⟨sameCanonical_port, fun halike => ?_, by decide +kernel⟩
  have hspelled : (urlWithoutQuery resolverRuntime "https://go.acme.example:443/r").toOption
        = some (some "https://go.acme.example:443/r")
      ∧ (urlWithoutQuery resolverRuntime "https://go.acme.example/r").toOption
        = some (some "https://go.acme.example/r") := by
    decide +kernel
  have hstrip : PyString.strip "https://go.acme.example/r" ≠ "" := by decide +kernel
  have happroved := (halike.approved (policyOf "https://go.acme.example/r")).mpr
    ((approvesResolver_policyOf_iff hstrip).mpr
      ⟨_, toOption_eq_some_iff.mp hspelled.2, toOption_eq_some_iff.mp hspelled.2⟩)
  obtain ⟨url, hurl, hurl'⟩ := (approvesResolver_policyOf_iff hstrip).mp happroved
  rw [toOption_eq_some_iff.mp hspelled.1] at hurl
  rw [toOption_eq_some_iff.mp hspelled.2] at hurl'
  have hdiffer := hurl.trans hurl'.symm
  exact absurd (Option.some.inj (Except.ok.inj hdiffer)) (by decide)

/-- Spelled as it is enrolled, the resolver is recognised. -/
theorem recognisedAlike_itself :
    RecognisedAlike resolverRuntime "https://go.acme.example/r" "https://go.acme.example/r" := by
  have hrun : (canonicalizeDestination resolverRuntime "https://go.acme.example/r").toOption
        = some resolverDestination
      ∧ (urlWithoutQuery resolverRuntime "https://go.acme.example/r").toOption
        = some (some "https://go.acme.example/r") := by
    decide +kernel
  have hcanonical := toOption_eq_some_iff.mp hrun.1
  have hspelled := toOption_eq_some_iff.mp hrun.2
  exact (recognisedAlike_iff ⟨_, _, hcanonical, hcanonical, rfl, rfl, rfl, rfl⟩).mpr
    (.inl ⟨_, hspelled, hspelled⟩)

end RedirectPolicy
