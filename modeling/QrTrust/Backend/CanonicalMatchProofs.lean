import QrTrust.Backend.HostCanonicalizationProofs
import QrTrust.Backend.MatchedDomainProofs
import Mathlib.Data.List.Infix

/-! # Matched payloads and their canonical form

    A payload is matched by the host `urlparse` finds in it; its canonical form is
    computed only for the policy document.  Without one, a payload that has no
    canonical form is allowed all the same: `https://user@acme.example/` is.
    `matchesCanonically_iff` says for which payloads what is allowed has a
    canonical form under the domain the decision names. -/

namespace PayloadRevalidation

open DestinationCanonicalization Fallible

variable {py : PyRuntime}

/-! ## DNS names -/

/-- What `canonicalize_verified_domain` asks of a host. -/
structure IsDnsHost (host : String) : Prop where
  short : PyString.len host ≤ 253
  labels : ∀ label ∈ host.toList.splitOn '.', isDnsLabel label = true

theorem canonicalizeVerifiedDomain_ok_iff {raw host : String} :
    canonicalizeVerifiedDomain py raw = .ok host ↔
      ¬ (PyString.strip raw = "" || PyString.contains (PyString.strip raw) "://"
        || PyString.contains (PyString.strip raw) "/" || PyString.contains (PyString.strip raw) ":"
        || (PyString.strip raw).toList.any PyString.isspace) = true ∧
      canonicalizeHost py (PyString.strip raw) = .ok host ∧ IsDnsHost host := by
  rw [canonicalizeVerifiedDomain]
  constructor
  · intro h
    dsimp only at h
    split at h
    · exact absurd h throw_bind_ne
    · rename_i hplain
      obtain ⟨host', hhost, h⟩ := bind_eq_ok_iff.mp h
      split at h
      · exact absurd h throw_bind_ne
      · rename_i hdns
        obtain rfl := Except.ok.inj h
        simp only [Bool.or_eq_true, decide_eq_true_eq, Bool.not_eq_true', not_or, not_lt,
          Bool.not_eq_false, List.all_eq_true] at hdns
        exact ⟨hplain, hhost, hdns.1, hdns.2⟩
  · rintro ⟨hplain, hhost, hdns⟩
    dsimp only
    rw [if_neg hplain]
    refine bind_eq_ok_iff.mpr ⟨host, hhost, ?_⟩
    rw [if_neg]
    · rfl
    · simp only [Bool.or_eq_true, decide_eq_true_eq, Bool.not_eq_true', not_or, not_lt,
        Bool.not_eq_false, List.all_eq_true]
      exact ⟨hdns.short, hdns.labels⟩

/-- A DNS name is made of letters, digits, hyphens and dots. -/
theorem IsDnsHost.char {host : String} (h : IsDnsHost host) {c : Char} (hc : c ∈ host.toList) :
    c = '.' ∨ c = '-' ∨ c.isAlphanum = true := by
  rw [← Separated.joined_splitOn '.' host.toList] at hc
  rcases Separated.mem_joined hc with rfl | ⟨label, hlabel, hc⟩
  · exact .inl rfl
  · have hdns := h.labels label hlabel
    simp only [isDnsLabel, Bool.and_eq_true, List.all_eq_true] at hdns
    have hchar := hdns.2 c hc
    rw [Bool.or_eq_true, decide_eq_true_iff] at hchar
    exact .inr hchar

theorem isAlphanum_range {c : Char} (h : c.isAlphanum = true) :
    48 ≤ c.toNat ∧ c.toNat ≤ 57 ∨ 65 ≤ c.toNat ∧ c.toNat ≤ 90 ∨ 97 ≤ c.toNat ∧ c.toNat ≤ 122 := by
  simp only [Char.isAlphanum, Char.isAlpha, Char.isUpper, Char.isLower, Char.isDigit,
    Bool.or_eq_true, Bool.and_eq_true, decide_eq_true_eq] at h
  rcases h with (⟨hlow, hhigh⟩ | ⟨hlow, hhigh⟩) | ⟨hlow, hhigh⟩
  · exact .inr (.inl ⟨hlow, hhigh⟩)
  · exact .inr (.inr ⟨hlow, hhigh⟩)
  · exact .inl ⟨hlow, hhigh⟩

theorem not_isspace_of_range {c : Char} (hlow : 33 ≤ c.toNat) (hhigh : c.toNat ≤ 126) :
    PyString.isspace c = false := by
  rw [PyString.isspace, decide_eq_false_iff_not]
  simp only [List.mem_cons, List.not_mem_nil, or_false]
  omega

/-- The characters of a DNS name are neither white space, slash nor colon. -/
theorem IsDnsHost.plain {host : String} (h : IsDnsHost host) {c : Char} (hc : c ∈ host.toList) :
    c.toNat < 128 ∧ PyString.isspace c = false ∧ c ≠ '/' ∧ c ≠ ':' := by
  rcases h.char hc with rfl | rfl | halnum
  · decide
  · decide
  · have hrange := isAlphanum_range halnum
    refine ⟨by omega, not_isspace_of_range (by omega) (by omega), ?_, ?_⟩
    · rintro rfl
      exact absurd halnum (by decide)
    · rintro rfl
      exact absurd halnum (by decide)

theorem mem_of_contains {s piece : String} (h : PyString.contains s piece = true) {c : Char}
    (hc : c ∈ piece.toList) : c ∈ s.toList := by
  obtain ⟨rest, hrest, hpiece⟩ := List.any_eq_true.mp h
  rw [List.mem_tails] at hrest
  exact hrest.subset ((List.isPrefixOf_iff_prefix.mp hpiece).subset hc)

/-! ## The runtime -/

/-- What is used of `lower()`, the IDNA encoder and the URL parsers: `urlparse`
    reads what `urlsplit` reads before the path, and a host in lower case is encoded
    in lower case. -/
structure IsRuntime (py : PyRuntime) (toAscii : List Char → List Char)
    (fits : List Char → Prop) : Prop where
  idna : IsIdnaEncoder py.encodeIdna toAscii fits
  lower : IsLower py.lower
  foldsCase : ∀ text encoded, py.encodeIdna text = .ok encoded →
    (∀ c ∈ text.toList, c.isUpper = false) → ∀ c ∈ encoded.toList, c.isUpper = false
  parsesAlike : ∀ url parsed, py.urlparse url = .ok parsed → ∃ split, py.urlsplit url = .ok split ∧
    split.username = parsed.username ∧ split.password = parsed.password ∧
      split.hostname = parsed.hostname ∧ split.port = parsed.port

variable {toAscii : List Char → List Char} {fits : List Char → Prop}

/-- **FIXED NAMES**: a host that came out of canonicalization as a DNS name is its
    own canonical domain. -/
theorem IsRuntime.normalizeHost_eq (hpy : IsRuntime py toAscii fits) {raw host : String}
    (h : canonicalizeHost py raw = .ok host) (hdns : IsDnsHost host) :
    normalizeHost py host = .ok host := by
  obtain ⟨-, hencoded⟩ := canonicalizeHost_ok_iff.mp h
  have hpieces : [] ∉ host.toList.splitOn '.' := fun hnil =>
    absurd (hdns.labels [] hnil) (by decide)
  have hstripped : IsStripped host.toList :=
    ⟨fun c hc => (hdns.plain (List.mem_of_head? hc)).2.1,
      fun c hc => (hdns.plain (List.mem_of_getLast? hc)).2.1⟩
  have hcanonical : HostIsCanonical py host := by
    refine (hostIsCanonical_encoded_iff hpy.idna hpy.lower hencoded).mpr
      ⟨fun c hc => ⟨(hdns.plain hc).1, ?_⟩, hstripped, hpieces⟩
    exact hpy.foldsCase _ _ hencoded (not_upper_undotted hpy.lower raw) c hc
  have hne : host ≠ "" := by
    rintro rfl
    exact hpieces (by decide)
  refine canonicalizeVerifiedDomain_ok_iff.mpr ⟨?_, ?_, hdns⟩
  · rw [strip_eq_self_iff.mpr hstripped]
    simp only [Bool.or_eq_true, decide_eq_true_eq, List.any_eq_true, not_or]
    refine ⟨⟨⟨⟨hne, fun hscheme => ?_⟩, fun hslash => ?_⟩, fun hcolon => ?_⟩, ?_⟩
    · exact (hdns.plain (mem_of_contains hscheme (by decide : '/' ∈ "://".toList))).2.2.1 rfl
    · exact (hdns.plain (mem_of_contains hslash (by decide : '/' ∈ "/".toList))).2.2.1 rfl
    · exact (hdns.plain (mem_of_contains hcolon (by decide : ':' ∈ ":".toList))).2.2.2 rfl
    · rintro ⟨c, hc, hspace⟩
      rw [(hdns.plain hc).2.1] at hspace
      cases hspace
  · rw [strip_eq_self_iff.mpr hstripped]
    exact hcanonical.fixed

/-! ## Two readings of a payload -/

/-- The URL `normalize_payload_destination` makes of a payload. -/
def plainUrl (py : PyRuntime) (payload : String) : String :=
  if PyString.startswith (py.lower payload) "http://"
      || PyString.startswith (py.lower payload) "https://"
    then payload else "https://" ++ payload

/-- How the host of a payload is extracted. -/
structure PlainReading (py : PyRuntime) (payload : String) (parsed : SplitResult)
    (hostname : String) (destination : NormalizedDestination) : Prop where
  parse : py.urlparse (plainUrl py (PyString.strip payload)) = .ok parsed
  named : parsed.hostname = some hostname
  ported : ∃ port, parsed.port = .ok port
  host : normalizeHost py hostname = .ok destination.host
  raw : destination.rawPayload = PyString.strip payload

theorem exists_reading {payload : String} {destination : NormalizedDestination}
    (h : normalizePayloadDestination py payload = .ok destination) :
    ∃ parsed hostname, PlainReading py payload parsed hostname destination := by
  rw [normalizePayloadDestination] at h
  dsimp only at h
  split at h
  · exact absurd h throw_bind_ne
  obtain ⟨parsed, hparsed, h⟩ := bind_eq_ok_iff.mp h
  split at h
  · exact absurd h throw_bind_ne
  rename_i hostname hhostname
  obtain ⟨_, h', h⟩ := bind_eq_ok_iff.mp h
  obtain rfl := Except.ok.inj h'
  obtain ⟨port, hport, h⟩ := bind_eq_ok_iff.mp h
  obtain ⟨host, hhost, h⟩ := bind_eq_ok_iff.mp h
  obtain rfl := Except.ok.inj h
  exact ⟨parsed, hostname, mapError_eq_ok hparsed, (Option.filter_eq_some_iff.mp hhostname).1,
    ⟨port, mapError_eq_ok hport⟩, hhost, rfl⟩

/-- The canonical form of a payload is that of the payload without white space
    around it. -/
theorem canonicalizeDestination_strip (payload : String) :
    canonicalizeDestination py (PyString.strip payload) = canonicalizeDestination py payload := by
  rw [canonicalizeDestination, canonicalizeDestination, strip_strip]

theorem canonicalizeHost_of_normalizeHost {hostname host : String}
    (h : normalizeHost py hostname = .ok host) : canonicalizeHost py hostname = .ok host := by
  obtain ⟨-, hhost, -⟩ := canonicalizeVerifiedDomain_ok_iff.mp h
  rw [canonicalizeHost_ok_iff] at hhost ⊢
  rwa [undotted, strip_strip] at hhost

/-- The text has no percent escape that `_normalize_percent_encoding` refuses. -/
def ValidEscapes (text : String) : Prop :=
  ∃ normalized, normalizePercentEncoding text = .ok normalized

/-- Both sides make the same URL of the payload. -/
def SameUrl (py : PyRuntime) (payload : String) : Prop :=
  schemedCandidate py (PyString.strip payload) = .ok (plainUrl py (PyString.strip payload))

/-- The payload has none of the shapes that canonicalization refuses: no backslash,
    no null, no userinfo and only valid escapes. -/
structure IsPlain (py : PyRuntime) (payload : String) : Prop where
  noBackslash : ¬ PyString.contains (PyString.strip payload) "\\" = true
  noNull : ¬ ((PyString.strip payload).toList.any fun c => c.toNat = 0) = true
  parts : ∀ split, py.urlsplit (plainUrl py (PyString.strip payload)) = .ok split →
    ¬ (split.username.isSome || split.password.isSome) = true ∧
      ValidEscapes (if split.path = "" then "/" else split.path) ∧ ValidEscapes split.query

/-- What has a canonical form is plain. -/
theorem isPlain_of_canonicalized {payload : String} {canonical : CanonicalDestination}
    (hsame : SameUrl py payload) (h : canonicalizeDestination py payload = .ok canonical) :
    IsPlain py payload := by
  obtain ⟨candidate, parsed, hostname, port, hparts⟩ := exists_parts h
  obtain rfl := Except.ok.inj (hsame.symm.trans hparts.schemed)
  refine ⟨hparts.noBackslash, hparts.noNull, fun split hsplit => ?_⟩
  obtain rfl := Except.ok.inj (hsplit.symm.trans hparts.split)
  obtain ⟨normalized, hnormalized, -⟩ := bind_eq_ok_iff.mp hparts.path
  exact ⟨hparts.noUserinfo, ⟨normalized, hnormalized⟩, ⟨_, hparts.query⟩⟩

/-- **PLAIN PAYLOADS**: a plain payload with a host has a canonical form. -/
theorem exists_canonical_of_isPlain (hpy : IsRuntime py toAscii fits) {payload : String}
    {destination : NormalizedDestination} (hsame : SameUrl py payload)
    (h : normalizePayloadDestination py payload = .ok destination) (hplain : IsPlain py payload) :
    ∃ canonical, canonicalizeDestination py payload = .ok canonical := by
  obtain ⟨parsed, hostname, hreading⟩ := exists_reading h
  obtain ⟨split, hsplit, -, -, hnamed, hported⟩ := hpy.parsesAlike _ _ hreading.parse
  obtain ⟨hnouser, ⟨path, hpath⟩, ⟨query, hquery⟩⟩ := hplain.parts split hsplit
  obtain ⟨port, hport⟩ := hreading.ported
  have hblank : PyString.strip payload ≠ "" := by
    intro hblank
    rw [normalizePayloadDestination] at h
    dsimp only at h
    rw [if_pos hblank] at h
    exact throw_bind_ne h
  have hcanonical : canonicalizePath (if split.path = "" then "/" else split.path)
      = .ok (stripTrailingSlashes (removeDotSegments path)) :=
    canonicalizePath_of_normalized hpath
  have hparts : DestinationParts py payload _ split hostname port
      ⟨py.lower split.scheme, destination.host,
        if port.isSome && port = defaultPort (py.lower split.scheme) then none else port,
        stripTrailingSlashes (removeDotSegments path), query⟩ :=
    { notBlank := hblank
      noBackslash := hplain.noBackslash
      noNull := hplain.noNull
      schemed := hsame
      split := hsplit
      noUserinfo := hnouser
      named := hnamed.trans hreading.named
      ported := hported.trans hport
      scheme_eq := rfl
      host := canonicalizeHost_of_normalizeHost hreading.host
      port_eq := rfl
      path := hcanonical
      query := hquery }
  exact ⟨_, hparts.canonicalizeDestination_eq⟩

/-- Read as the same URL, a payload has the same host in canonical form. -/
theorem host_of_sameUrl (hpy : IsRuntime py toAscii fits) {payload : String}
    {destination : NormalizedDestination} {canonical : CanonicalDestination}
    (hsame : SameUrl py payload) (h : normalizePayloadDestination py payload = .ok destination)
    (hcanonical : canonicalizeDestination py payload = .ok canonical) :
    canonical.host = destination.host := by
  obtain ⟨parsed, hostname, hreading⟩ := exists_reading h
  obtain ⟨candidate, split, hostname', port, hparts⟩ := exists_parts hcanonical
  obtain rfl := Except.ok.inj (hsame.symm.trans hparts.schemed)
  obtain ⟨split', hsplit, -, -, hnamed, -⟩ := hpy.parsesAlike _ _ hreading.parse
  obtain rfl := Except.ok.inj (hsplit.symm.trans hparts.split)
  obtain rfl := Option.some.inj ((hnamed.trans hreading.named).symm.trans hparts.named)
  exact Except.ok.inj (hparts.host.symm.trans (canonicalizeHost_of_normalizeHost hreading.host))

/-! ## The domain a decision names -/

/-- A covering domain is the host or a parent of it. -/
theorem isSameOrSubdomain_of_coveringDomain {host : String} {allowSubdomains : Bool}
    {entries : List (String × Option Datetime)} {matched reason : String}
    {expiry : Option Datetime}
    (h : coveringDomain host allowSubdomains entries = some (matched, reason, expiry)) :
    isSameOrSubdomain host matched = true := by
  induction entries with
  | nil => cases h
  | cons hd rest ih =>
      obtain ⟨rule, expiry'⟩ := hd
      rw [coveringDomain] at h
      cases hcover : coverReason host rule allowSubdomains with
      | none =>
          rw [hcover] at h
          exact ih h
      | some reason' =>
          rw [hcover] at h
          obtain ⟨rfl, -, -⟩ : rule = matched ∧ reason' = reason ∧ expiry' = expiry := by
            simpa using h
          rcases exists_coverReason_iff.mp ⟨_, hcover⟩ with rfl | ⟨-, hparent⟩
          · rw [isSameOrSubdomain, decide_eq_true rfl, Bool.true_or]
          · exact hparent

/-- The policy says nothing of the payload, or takes it for a resolver: the
    decision names the verified domain. -/
def LeavesDomain (py : PyRuntime) (policyFile : Option PolicyFile)
    (destination : NormalizedDestination) : Prop :=
  matchDestinationPolicy py policyFile destination = .ok none ∨
    matchDestinationPolicy py policyFile destination = .ok (some (resolverApproval destination))

/-- The domain an allowed decision names: the verified one, or the host a rule of
    the policy approves. -/
def NamesDomain (py : PyRuntime) (policyFile : Option PolicyFile)
    (destination : NormalizedDestination) (matched domain : String) : Prop :=
  LeavesDomain py policyFile destination ∧ domain = matched ∨
    ApprovedByRule py policyFile destination domain

theorem policyOrMatch_allows_iff {policyFile : Option PolicyFile}
    {destination : NormalizedDestination} {matched reason domain : String} :
    (∃ decision, policyOrMatch py policyFile destination matched reason = .ok decision ∧
        decision.allowed = true ∧ decision.matchedDomain = some domain) ↔
      NamesDomain py policyFile destination matched domain := by
  rw [policyOrMatch, NamesDomain, LeavesDomain]
  constructor
  · rintro ⟨decision, h, hallowed, hdomain⟩
    obtain ⟨policyDecision, hpolicy, h⟩ := bind_eq_ok_iff.mp h
    cases policyDecision with
    | none =>
        obtain rfl := Except.ok.inj h
        exact .inl ⟨.inl hpolicy, (Option.some.inj hdomain).symm⟩
    | some policyDecision =>
        dsimp only at h
        have hpolicyAllowed : policyDecision.allowed = true := by
          split at h
          · rename_i hboth
            exact (Bool.and_eq_true_iff.mp hboth).1
          · obtain rfl := Except.ok.inj h
            exact hallowed
        rcases matchDestinationPolicy_allows hpolicy hpolicyAllowed with rfl | ⟨host, hrule, rfl⟩
        · obtain rfl := Except.ok.inj h
          exact .inl ⟨.inr hpolicy, (Option.some.inj hdomain).symm⟩
        · obtain rfl := Except.ok.inj h
          obtain rfl := Option.some.inj hdomain
          exact .inr hrule
  · rintro (⟨hpolicy | hpolicy, rfl⟩ | hrule)
    · rw [hpolicy]
      exact ⟨_, rfl, rfl, rfl⟩
    · rw [hpolicy]
      exact ⟨_, rfl, rfl, rfl⟩
    · rw [matchDestinationPolicy_of_approved hrule]
      exact ⟨_, rfl, rfl, rfl⟩

/-- Where a policy document leaves or names the domain, the payload has a canonical
    form. -/
theorem exists_canonical_of_policy {file : PolicyFile} {payload : String}
    {destination : NormalizedDestination} {matched domain : String}
    (hraw : destination.rawPayload = PyString.strip payload)
    (h : NamesDomain py (some file) destination matched domain) :
    ∃ canonical, canonicalizeDestination py payload = .ok canonical := by
  rw [← canonicalizeDestination_strip, ← hraw]
  rcases h with ⟨hleaves, -⟩ | hrule
  · rw [LeavesDomain, matchDestinationPolicy] at hleaves
    cases hload : loadDestinationPolicy (some file) with
    | absent =>
        rw [loadDestinationPolicy] at hload
        split at hload <;> cases hload
    | invalid detail =>
        rw [hload] at hleaves
        rcases hleaves with h | h
        · cases h
        · exact absurd (congrArg MatchDecision.allowed (Option.some.inj (Except.ok.inj h)))
            Bool.false_ne_true
    | policy fields =>
        rw [hload] at hleaves
        cases hcanonical : canonicalizeDestination py destination.rawPayload with
        | ok canonical => exact ⟨canonical, rfl⟩
        | error exc =>
            rw [hcanonical] at hleaves
            dsimp only at hleaves
            cases hreason : canonicalizationReason exc with
            | none =>
                rw [hreason] at hleaves
                rcases hleaves with h | h <;> cases h
            | some reason =>
                rw [hreason] at hleaves
                rcases hleaves with h | h
                · cases h
                · exact absurd (congrArg MatchDecision.allowed (Option.some.inj (Except.ok.inj h)))
                    Bool.false_ne_true
  · obtain ⟨_, canonical, _, -, hcanonical, -⟩ := hrule.approved
    exact ⟨canonical, hcanonical⟩

/-! ## What is allowed -/

/-- What is allowed has a canonical form, whose host is the domain the decision
    names or is below it. -/
def MatchesCanonically (py : PyRuntime) (policyFile : Option PolicyFile) (payload : String)
    (domains : OrderedMap String (Option Datetime)) (allowSubdomains : Bool) (now : Datetime) :
    Prop :=
  ∀ decision, matchPayloadToVerifiedDomains py policyFile payload domains allowSubdomains now
      = .ok decision → decision.allowed = true →
    ∃ canonical domain, canonicalizeDestination py payload = .ok canonical ∧
      decision.matchedDomain = some domain ∧ isSameOrSubdomain canonical.host domain = true

/-- The payload has a canonical form, at the domain or below it. -/
def CanonicalUnder (py : PyRuntime) (payload domain : String) : Prop :=
  ∃ canonical, canonicalizeDestination py payload = .ok canonical ∧
    isSameOrSubdomain canonical.host domain = true

theorem matchesCanonically_iff_named {policyFile : Option PolicyFile} {payload : String}
    {domains : OrderedMap String (Option Datetime)} {allowSubdomains : Bool} {now : Datetime} :
    MatchesCanonically py policyFile payload domains allowSubdomains now ↔
      ∀ destination normalized matched reason expiry,
        Covered py payload domains allowSubdomains now destination normalized matched reason
          expiry →
        ∀ domain, NamesDomain py policyFile destination matched domain →
          CanonicalUnder py payload domain := by
  constructor
  · intro hlaw destination normalized matched reason expiry hcovered domain hnames
    obtain ⟨decision, hdecided, hallowed, hdomain⟩ :=
      (@policyOrMatch_allows_iff py policyFile destination matched reason domain).mpr hnames
    rw [← hcovered.match_eq] at hdecided
    obtain ⟨canonical, domain', hcanonical, hdomain', hunder⟩ := hlaw decision hdecided hallowed
    obtain rfl := Option.some.inj (hdomain.symm.trans hdomain')
    exact ⟨canonical, hcanonical, hunder⟩
  · intro hnamed decision hdecided hallowed
    obtain ⟨destination, normalized, matched, reason, expiry, hcovered⟩ :=
      exists_covered hdecided hallowed
    rw [hcovered.match_eq] at hdecided
    have hdomain : ∃ domain, decision.matchedDomain = some domain := by
      rcases matchedDomain_of_policyOrMatch hdecided hallowed with h | ⟨host, -, h⟩
      · exact ⟨matched, h⟩
      · exact ⟨host, h⟩
    obtain ⟨domain, hdomain⟩ := hdomain
    obtain ⟨canonical, hcanonical, hunder⟩ :=
      hnamed destination normalized matched reason expiry hcovered domain
        (policyOrMatch_allows_iff.mp ⟨decision, hdecided, hallowed, hdomain⟩)
    exact ⟨canonical, domain, hcanonical, hdomain, hunder⟩

/-- **SAME URL**: a payload that is read as one URL has its canonical form under
    the domain that is named, if it has one. -/
theorem canonicalUnder_of_sameUrl (hpy : IsRuntime py toAscii fits)
    {policyFile : Option PolicyFile} {payload : String}
    {domains normalized : OrderedMap String (Option Datetime)} {allowSubdomains : Bool}
    {now : Datetime} {destination : NormalizedDestination} {matched reason domain : String}
    {expiry : Option Datetime} {canonical : CanonicalDestination}
    (hcovered : Covered py payload domains allowSubdomains now destination normalized matched
      reason expiry) (hsame : SameUrl py payload)
    (hnames : NamesDomain py policyFile destination matched domain)
    (hcanonical : canonicalizeDestination py payload = .ok canonical) :
    isSameOrSubdomain canonical.host domain = true := by
  have hhost := host_of_sameUrl hpy hsame hcovered.payload hcanonical
  obtain ⟨parsed, hostname, hreading⟩ := exists_reading hcovered.payload
  rcases hnames with ⟨-, rfl⟩ | hrule
  · rw [hhost]
    exact isSameOrSubdomain_of_coveringDomain hcovered.covers
  · -- the rule is about the host of the canonical form, which is its own domain
    obtain ⟨_, canonical', _, -, hcanonical', -, hdomain, -⟩ := hrule.approved
    rw [hreading.raw, canonicalizeDestination_strip] at hcanonical'
    obtain rfl := Except.ok.inj (hcanonical.symm.trans hcanonical')
    obtain ⟨-, -, hdns⟩ := canonicalizeVerifiedDomain_ok_iff.mp hreading.host
    rw [hhost, hpy.normalizeHost_eq (canonicalizeHost_of_normalizeHost hreading.host) hdns]
      at hdomain
    rw [hhost, ← Except.ok.inj hdomain, isSameOrSubdomain, decide_eq_true rfl, Bool.true_or]

/-- A runtime that knows a URL with userinfo and the same without. -/
def userinfoRuntime : PyRuntime :=
  let split (url : String) : Except String SplitResult :=
    if url = "https://user@acme.example/" then
      .ok ⟨"https", some "user", none, some "acme.example", .ok none, "/", ""⟩
    else if url = "https://acme.example/" then
      .ok ⟨"https", none, none, some "acme.example", .ok none, "/", ""⟩
    else .error ""
  { fullStopRuntime with urlsplit := split, urlparse := split }

theorem isRuntime_userinfoRuntime :
    IsRuntime userinfoRuntime (fun label => label) fun _ => True where
  idna := isIdnaEncoder_encodeAsciiLabels
  lower := isLower_lowerAscii
  foldsCase := by
    intro text encoded h hupper c hc
    rw [isIdnaEncoder_encodeAsciiLabels.encodes text encoded h, List.map_id'] at hc
    rcases Separated.mem_joined hc with rfl | ⟨label, hlabel, hc⟩
    · decide
    · exact hupper c (Separated.of_mem_splitOnP hlabel hc).1
  parsesAlike := fun _ parsed h => ⟨parsed, h, rfl, rfl, rfl, rfl⟩

end PayloadRevalidation
