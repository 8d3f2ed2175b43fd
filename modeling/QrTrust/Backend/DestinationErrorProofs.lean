import QrTrust.Backend.CanonicalMatchProofs

/-! # The errors of destination matching

    Which inputs make `canonicalize_destination` raise something else than a
    `CanonicalizationError`, and `match_payload_to_verified_domains` raise at all.
    The port of a URL is read under a guard, the URL itself is not: a text that
    `urlsplit` refuses gets out as a plain `ValueError`, which the matcher of the
    policy does not catch either (`errors_stay_typed_iff`). -/

namespace PayloadRevalidation

open DestinationCanonicalization Fallible

variable {py : PyRuntime}

/-- A `CanonicalizationError`. -/
def IsCanonicalizationError (exc : PyError) : Prop := ∃ reason, exc = .canonicalizationError reason

theorem canonicalizationReason_eq_some_iff {exc : PyError} {reason : String} :
    canonicalizationReason exc = some reason ↔ exc = .canonicalizationError reason := by
  cases exc <;> simp [canonicalizationReason]

/-! ## Canonicalization -/

theorem normalizePercentEncodingFrom_raises (index : Nat) (text : List Char) :
    RaisesOnly IsCanonicalizationError (normalizePercentEncodingFrom index text) := by
  fun_induction normalizePercentEncodingFrom index text with
  | case1 => exact raisesOnly_ok _
  | case2 => exact raisesOnly_error_iff.mpr ⟨_, rfl⟩
  | case3 _ _ _ _ _ _ _ _ _ _ _ _ ih => exact raisesOnly_map_iff.mpr ih
  | case4 => exact raisesOnly_error_iff.mpr ⟨_, rfl⟩
  | case5 => exact raisesOnly_error_iff.mpr ⟨_, rfl⟩
  | case6 _ _ _ _ ih => exact raisesOnly_map_iff.mpr ih

theorem normalizePercentEncoding_raises (text : String) :
    RaisesOnly IsCanonicalizationError (normalizePercentEncoding text) :=
  raisesOnly_map_iff.mpr (normalizePercentEncodingFrom_raises 0 text.toList)

theorem canonicalizeRulePrefix_raises (rulePrefix : String) :
    RaisesOnly IsCanonicalizationError (canonicalizeRulePrefix rulePrefix) :=
  raisesOnly_bind_iff.mpr
    ⟨normalizePercentEncoding_raises _, fun _ _ => raisesOnly_ok _⟩

theorem canonicalizeHost_raises (rawHost : String) :
    RaisesOnly IsCanonicalizationError (canonicalizeHost py rawHost) :=
  fun _ h => canonicalizeHost_error h

theorem normalizeHost_raises (host : String) :
    RaisesOnly IsCanonicalizationError (normalizeHost py host) :=
  fun _ h => canonicalizeVerifiedDomain_error h

theorem schemedCandidate_raises (candidate : String) :
    RaisesOnly IsCanonicalizationError (schemedCandidate py candidate) := by
  rw [schemedCandidate]
  split
  · exact raisesOnly_ok _
  · dsimp only
    split
    · exact raisesOnly_ok _
    · split
      · exact raisesOnly_ok _
      · exact raisesOnly_error_iff.mpr ⟨_, rfl⟩

/-- The text `canonicalize_destination` hands to `urlsplit`, where it gets so far. -/
def splitText (py : PyRuntime) (raw : String) : Option String :=
  let stripped := PyString.strip raw
  if stripped = "" || PyString.contains stripped "\\" || stripped.toList.any (fun c => c.toNat = 0)
    then none
  else (schemedCandidate py stripped).toOption

/-- `urlsplit` does not raise on the text it is handed. -/
def SplitsUrl (py : PyRuntime) (raw : String) : Prop :=
  ∀ text, splitText py raw = some text → ∃ parsed, py.urlsplit text = .ok parsed

/-- What `canonicalize_destination` does with a URL once it is split. -/
theorem canonicalizeDestination_raises_iff {raw : String} :
    RaisesOnly IsCanonicalizationError (canonicalizeDestination py raw) ↔ SplitsUrl py raw := by
  have hthrow : ∀ {α β : Type} (reason : String) (f : α → Except PyError β),
      RaisesOnly IsCanonicalizationError
        ((throw (.canonicalizationError reason) : Except PyError α) >>= f) := by
    intro α β reason f
    exact raisesOnly_error_iff.mpr ⟨reason, rfl⟩
  rw [canonicalizeDestination, SplitsUrl, splitText]
  dsimp only
  by_cases hblank : PyString.strip raw = ""
  · rw [if_pos hblank, hblank]
    refine iff_of_true (hthrow _ _) fun text htext => ?_
    cases htext
  rw [if_neg hblank]
  by_cases hbackslash : PyString.contains (PyString.strip raw) "\\" = true
  · rw [if_pos hbackslash, hbackslash]
    refine iff_of_true (hthrow _ _) fun text htext => ?_
    rw [if_pos (by simp)] at htext
    cases htext
  rw [if_neg hbackslash]
  by_cases hnull : ((PyString.strip raw).toList.any fun c => c.toNat = 0) = true
  · rw [if_pos hnull, hnull]
    refine iff_of_true (hthrow _ _) fun text htext => ?_
    rw [if_pos (by simp)] at htext
    cases htext
  rw [if_neg hnull, if_neg (by simp [hblank, hbackslash, hnull]), raisesOnly_bind_iff,
    and_iff_right (schemedCandidate_raises _)]
  refine forall_congr' fun candidate => ?_
  rw [toOption_eq_some_iff]
  refine imp_congr_right fun _ => ?_
  rw [raisesOnly_bind_iff, raisesOnly_mapError_iff, ← raisesNothing_iff]
  constructor
  · rintro ⟨hsplit, -⟩
    refine hsplit.mono fun exc hexc => ?_
    obtain ⟨reason, h⟩ := hexc
    cases h
  intro hsplit
  refine ⟨hsplit.mono fun exc h => h.elim, fun parsed _ => ?_⟩
  -- from here on every step is guarded
  split
  · exact hthrow _ _
  split
  · exact raisesOnly_error_iff.mpr ⟨_, rfl⟩
  refine raisesOnly_bind_iff.mpr ⟨raisesOnly_ok _, fun hostname _ => ?_⟩
  refine raisesOnly_bind_iff.mpr ⟨?_, fun port _ => ?_⟩
  · exact raisesOnly_mapError_iff.mpr fun exc _ => ⟨_, rfl⟩
  refine raisesOnly_bind_iff.mpr ⟨canonicalizeHost_raises _, fun host _ => ?_⟩
  refine raisesOnly_bind_iff.mpr ⟨normalizePercentEncoding_raises _, fun path _ => ?_⟩
  exact raisesOnly_bind_iff.mpr ⟨normalizePercentEncoding_raises _, fun query _ => raisesOnly_ok _⟩

/-! ## The rules of the policy -/

/-- `iter(value or [])` does not raise. -/
def IsIterable : PyJson → Prop
  | .bool b => b = false
  | .int n => n = 0
  | .float x => x = 0
  | _ => True

theorem iterOrEmpty_returns_iff {value : PyJson} :
    RaisesNothing value.iterOrEmpty ↔ IsIterable value := by
  rw [raisesNothing_iff]
  cases value with
  | none => exact iff_of_true ⟨_, rfl⟩ trivial
  | str s => exact iff_of_true ⟨_, rfl⟩ trivial
  | list items => exact iff_of_true ⟨_, rfl⟩ trivial
  | dict fields => exact iff_of_true ⟨_, rfl⟩ trivial
  | bool b => cases b <;> simp [PyJson.iterOrEmpty, IsIterable]
  | int n =>
      show (∃ items, (if n = 0 then .ok [] else .error PyError.typeError) = Except.ok items) ↔ n = 0
      split <;> simp [*]
  | float x =>
      show (∃ items, (if x = 0 then .ok [] else .error PyError.typeError) = Except.ok items) ↔ x = 0
      split <;> simp [*]

/-- What `iter(value or [])` raises is a `TypeError`, which is not typed. -/
theorem iterOrEmpty_raises_iff {value : PyJson} :
    RaisesOnly IsCanonicalizationError value.iterOrEmpty ↔ IsIterable value := by
  rw [← iterOrEmpty_returns_iff]
  constructor
  · intro h exc hexc
    obtain ⟨reason, rfl⟩ := h exc hexc
    cases value with
    | none => cases hexc
    | str s => cases hexc
    | list items => cases hexc
    | dict fields => cases hexc
    | bool b => cases b <;> cases hexc
    | int n => rw [PyJson.iterOrEmpty] at hexc; split at hexc <;> cases hexc
    | float x => rw [PyJson.iterOrEmpty] at hexc; split at hexc <;> cases hexc
  · intro h
    exact h.mono fun exc hexc => hexc.elim

theorem anyAllowedHost_raises (host : String) (allowSubdomains : Bool) (hosts : List String) :
    RaisesOnly IsCanonicalizationError (anyAllowedHost py host allowSubdomains hosts) := by
  induction hosts with
  | nil => exact raisesOnly_ok _
  | cons hd rest ih =>
      refine raisesOnly_bind_iff.mpr ⟨normalizeHost_raises hd, fun normalized _ => ?_⟩
      split
      · exact raisesOnly_ok _
      · exact ih

theorem anyPrefixMatches_raises (path : String) (prefixes : List String) :
    RaisesOnly IsCanonicalizationError (anyPrefixMatches path prefixes) := by
  induction prefixes with
  | nil => exact raisesOnly_ok _
  | cons hd rest ih =>
      refine raisesOnly_bind_iff.mpr ⟨canonicalizeRulePrefix_raises hd, fun normalized _ => ?_⟩
      split
      · exact raisesOnly_ok _
      · exact ih

/-- The `expected_final_url` of a rule, where it has one. -/
def expectedFinalUrl (rule : List (String × PyJson)) : Option String :=
  (PyJson.get rule "expected_final_url").asStr.filter (PyString.strip · ≠ "")

/-- `urlparse` does not raise on the `expected_final_url` of the rule. -/
def ParsesFinalUrl (py : PyRuntime) (rule : List (String × PyJson)) : Prop :=
  ∀ url, expectedFinalUrl rule = some url → ∃ parsed, py.urlparse (PyString.strip url) = .ok parsed

theorem ruleAllowsDestinationHost_raises_iff {rule : List (String × PyJson)} {host : String} :
    RaisesOnly IsCanonicalizationError (ruleAllowsDestinationHost py rule host)
      ↔ ParsesFinalUrl py rule := by
  rw [ruleAllowsDestinationHost, ParsesFinalUrl, expectedFinalUrl]
  cases (PyJson.get rule "expected_final_url").asStr.filter (PyString.strip · ≠ "") with
  | none =>
      refine iff_of_true (anyAllowedHost_raises _ _ _) fun url hurl => ?_
      cases hurl
  | some url =>
      dsimp only
      rw [raisesOnly_bind_iff, raisesOnly_mapError_iff]
      constructor
      · rintro ⟨hparse, -⟩ url' hurl'
        obtain rfl := Option.some.inj hurl'
        refine raisesNothing_iff.mp (hparse.mono fun exc hexc => ?_)
        obtain ⟨reason, h⟩ := hexc
        cases h
      · intro hparse
        refine ⟨(raisesNothing_iff.mpr (hparse url rfl)).mono fun exc h => h.elim,
          fun parsed _ => ?_⟩
        split
        · exact raisesOnly_ok _
        · exact raisesOnly_bind_iff.mpr ⟨normalizeHost_raises _, fun _ _ => raisesOnly_ok _⟩

/-- The ports of the rule can be listed, where the scheme lets it come to that. -/
def ListsPorts (canonical : CanonicalDestination) (rule : List (String × PyJson)) : Prop :=
  canonical.scheme ∈ allowedSchemes rule → IsIterable (PyJson.get rule "allowed_ports")

theorem policyRuleReason_raises_iff {canonical : CanonicalDestination}
    {rule : List (String × PyJson)} :
    RaisesOnly IsCanonicalizationError (policyRuleReason py canonical rule)
      ↔ ListsPorts canonical rule := by
  rw [policyRuleReason, ListsPorts]
  dsimp only
  by_cases hscheme : canonical.scheme ∈ allowedSchemes rule
  · rw [if_neg (not_not_intro hscheme), raisesOnly_bind_iff, iterOrEmpty_raises_iff]
    rw [imp_iff_right hscheme]
    refine and_iff_left fun ports _ => ?_
    split
    · exact raisesOnly_ok _
    · refine raisesOnly_bind_iff.mpr ⟨anyPrefixMatches_raises _ _, fun inside _ => ?_⟩
      split
      · exact raisesOnly_ok _
      · exact raisesOnly_ok _
  · rw [if_pos hscheme]
    exact iff_of_true (raisesOnly_ok _) fun h => absurd h hscheme

/-- A rule raises nothing that its caller does not catch. -/
def RuleReads (py : PyRuntime) (canonical : CanonicalDestination) (host : String)
    (rule : List (String × PyJson)) : Prop :=
  ParsesFinalUrl py rule ∧
    (ruleAllowsDestinationHost py rule host = .ok true → ListsPorts canonical rule)

theorem ruleVerdict_raises_iff {canonical : CanonicalDestination} {host : String}
    {rule : List (String × PyJson)} :
    RaisesOnly IsCanonicalizationError (ruleVerdict py canonical host rule)
      ↔ RuleReads py canonical host rule := by
  rw [ruleVerdict, raisesOnly_bind_iff, ruleAllowsDestinationHost_raises_iff, RuleReads]
  refine and_congr_right fun _ => ?_
  constructor
  · intro h hallows
    have hverdict := h true hallows
    rw [if_pos rfl] at hverdict
    exact policyRuleReason_raises_iff.mp (raisesOnly_bind_iff.mp hverdict).1
  · intro h allows hallows
    cases allows with
    | false => exact raisesOnly_ok _
    | true =>
        rw [if_pos rfl]
        exact raisesOnly_bind_iff.mpr
          ⟨policyRuleReason_raises_iff.mpr (h hallows), fun _ _ => raisesOnly_ok _⟩

/-- Every rule that is tried raises nothing that its caller does not catch; a rule
    is tried where those before it are passed over. -/
def RulesRead (py : PyRuntime) (canonical : CanonicalDestination) (host : String) :
    List PyJson → Prop
  | [] => True
  | rule :: rest =>
      (∀ fields, rule = .dict fields → RuleReads py canonical host fields) ∧
        (PassedOver py canonical host rule → RulesRead py canonical host rest)

/-- A rule whose verdict is there raises nothing. -/
theorem ruleReads_of_verdict {canonical : CanonicalDestination} {host : String}
    {rule : List (String × PyJson)} {verdict : Option (Option String)}
    (h : ruleVerdict py canonical host rule = .ok verdict) : RuleReads py canonical host rule := by
  rw [← ruleVerdict_raises_iff, h]
  exact raisesOnly_ok verdict

/-- **RULES**: the loop over the rules returns exactly where the rules it tries can
    be read. -/
theorem matchRules_returns_iff {canonical : CanonicalDestination} {host : String}
    {rules : List PyJson} {firstReason : Option String} :
    RaisesNothing (matchRules py canonical host rules firstReason)
      ↔ RulesRead py canonical host rules := by
  induction rules generalizing firstReason with
  | nil => exact iff_of_true (raisesOnly_ok _) trivial
  | cons hd rest ih =>
      -- a rule that is no object is skipped
      have hskip : ∀ rule : PyJson, (∀ fields, rule ≠ .dict fields) →
          matchRules py canonical host (rule :: rest) firstReason
            = matchRules py canonical host rest firstReason →
          (RaisesNothing (matchRules py canonical host (rule :: rest) firstReason)
            ↔ RulesRead py canonical host (rule :: rest)) := by
        intro rule hrule heq
        have hpassed : PassedOver py canonical host rule := fun fields h => absurd h (hrule fields)
        rw [heq, ih, RulesRead, and_iff_right fun fields h => absurd h (hrule fields),
          imp_iff_right hpassed]
      cases hd with
      | none => exact hskip _ (fun fields h => by cases h) rfl
      | bool b => exact hskip _ (fun fields h => by cases h) rfl
      | int n => exact hskip _ (fun fields h => by cases h) rfl
      | float x => exact hskip _ (fun fields h => by cases h) rfl
      | str s => exact hskip _ (fun fields h => by cases h) rfl
      | list items => exact hskip _ (fun fields h => by cases h) rfl
      | dict fields =>
          have hpassed : PassedOver py canonical host (.dict fields) ↔
              ∃ verdict, ruleVerdict py canonical host fields = .ok verdict
                ∧ verdict ≠ some none := by
            simp only [PassedOver, PyJson.dict.injEq, forall_eq']
          simp only [RulesRead, PyJson.dict.injEq, forall_eq']
          rw [hpassed, matchRules]
          cases hverdict : ruleVerdict py canonical host fields with
          | error exc =>
              have hreads : RuleReads py canonical host fields ↔ IsCanonicalizationError exc := by
                rw [← ruleVerdict_raises_iff, hverdict, raisesOnly_error_iff]
              have hstopped : ¬ PassedOver py canonical host (.dict fields) := by
                rw [hpassed, hverdict]
                rintro ⟨verdict, h, -⟩
                cases h
              rw [hpassed, hverdict] at hstopped
              rw [hreads, and_iff_left fun h => absurd h hstopped]
              dsimp only
              cases hreason : canonicalizationReason exc with
              | none =>
                  refine iff_of_false (fun h => h exc rfl) ?_
                  rintro ⟨reason, h⟩
                  rw [h] at hreason
                  cases hreason
              | some reason =>
                  exact iff_of_true (raisesOnly_ok _)
                    ⟨reason, canonicalizationReason_eq_some_iff.mp hreason⟩
          | ok verdict =>
              rw [and_iff_right (ruleReads_of_verdict hverdict)]
              rcases verdict with _ | _ | reason
              · dsimp only
                rw [ih, imp_iff_right ⟨none, rfl, (Option.some_ne_none _).symm⟩]
              · refine iff_of_true (raisesOnly_ok _) ?_
                rintro ⟨verdict, h, hne⟩
                exact absurd (Except.ok.inj h).symm hne
              · dsimp only
                rw [ih, imp_iff_right ⟨some (some reason), rfl, by simp⟩]

/-! ## The policy -/

/-- `_url_without_query` does not raise: `urlparse` takes the text, and the port can
    be read where it comes to that. -/
def UrlReads (py : PyRuntime) (value : String) : Prop :=
  ∃ parsed, py.urlparse (PyString.strip value) = .ok parsed ∧
    ((parsed.scheme = "http" ∨ parsed.scheme = "https") → truthyText parsed.hostname ≠ none →
      ∃ port, parsed.port = .ok port)

theorem urlWithoutQuery_returns_iff {value : String} :
    RaisesNothing (urlWithoutQuery py value) ↔ UrlReads py value := by
  rw [urlWithoutQuery, RaisesNothing, raisesOnly_bind_iff, raisesOnly_mapError_iff, UrlReads]
  cases hparse : py.urlparse (PyString.strip value) with
  | error exc =>
      refine iff_of_false (fun h => h.1 exc rfl) ?_
      rintro ⟨parsed, h, -⟩
      cases h
  | ok parsed =>
      constructor
      · rintro ⟨-, h⟩
        refine ⟨parsed, rfl, fun hscheme hname => ?_⟩
        obtain ⟨hostname, hhostname⟩ := Option.ne_none_iff_exists'.mp hname
        have hread := h parsed rfl
        rw [if_neg fun hother => hscheme.elim hother.1 hother.2, hhostname] at hread
        exact raisesNothing_iff.mp (raisesOnly_mapError_iff.mp (raisesOnly_bind_iff.mp hread).1)
      · rintro ⟨parsed', h', hport⟩
        obtain rfl := Except.ok.inj h'
        refine ⟨raisesOnly_ok _, fun parsed' h' => ?_⟩
        obtain rfl := Except.ok.inj h'
        split
        · exact raisesOnly_ok _
        rename_i hscheme
        rw [not_and_or, not_ne_iff, not_ne_iff] at hscheme
        split
        · exact raisesOnly_ok _
        rename_i hostname hhostname
        have hname : truthyText parsed.hostname ≠ none := by
          rw [hhostname]
          exact Option.some_ne_none _
        have hread : RaisesNothing parsed.port := raisesNothing_iff.mpr (hport hscheme hname)
        exact raisesOnly_bind_iff.mpr
          ⟨raisesOnly_mapError_iff.mpr hread, fun _ _ => raisesOnly_ok _⟩

/-- The resolver URLs of the policy can be read, and so can the payload as one. -/
def ResolversRead (py : PyRuntime) (policy : List (String × PyJson)) (rawPayload : String) :
    Prop :=
  ∀ redirectPolicy, PyJson.get policy "redirect_policy" = .dict redirectPolicy →
    (∀ url ∈ (PyJson.get redirectPolicy "resolver_urls").stringList, UrlReads py url) ∧
      UrlReads py rawPayload

theorem approvedResolver_returns_iff {policy : List (String × PyJson)} {rawPayload : String} :
    RaisesNothing (approvedResolver py policy rawPayload)
      ↔ ResolversRead py policy rawPayload := by
  rw [approvedResolver, ResolversRead]
  generalize PyJson.get policy "redirect_policy" = redirect
  split
  · rename_i redirectPolicy
    simp only [PyJson.dict.injEq, forall_eq']
    have hlist : RaisesNothing ((PyJson.get redirectPolicy "resolver_urls").stringList.mapM
        (urlWithoutQuery py)) ↔
        ∀ url ∈ (PyJson.get redirectPolicy "resolver_urls").stringList, UrlReads py url := by
      rw [raisesNothing_mapM_iff]
      exact forall₂_congr fun url _ => urlWithoutQuery_returns_iff
    rw [RaisesNothing, raisesOnly_bind_iff, ← RaisesNothing, hlist]
    refine and_congr_right fun hreads => ?_
    obtain ⟨resolverUrls, hresolverUrls⟩ := raisesNothing_iff.mp (hlist.mpr hreads)
    rw [← urlWithoutQuery_returns_iff]
    constructor
    · intro h
      exact (raisesOnly_bind_iff.mp (h resolverUrls hresolverUrls)).1
    · intro h resolverUrls' _
      refine raisesOnly_bind_iff.mpr ⟨h, fun url _ => ?_⟩
      split
      · exact raisesOnly_ok _
      · exact raisesOnly_ok _
  · rename_i hother
    exact iff_of_true (raisesOnly_ok _) fun redirectPolicy h => absurd h (hother redirectPolicy)

/-- The host of the destination is one the policy can be asked about, its rules can
    be listed, and those that are tried can be read. -/
def DestinationsRead (py : PyRuntime) (policy : List (String × PyJson))
    (canonical : CanonicalDestination) : Prop :=
  ∃ host, normalizeHost py canonical.host = .ok host ∧
    ∃ rules, (PyJson.get policy "approved_destinations").iterOrEmpty = .ok rules ∧
      RulesRead py canonical host rules

theorem destinations_returns_iff {policy : List (String × PyJson)}
    {canonical : CanonicalDestination} :
    RaisesNothing (do
        let matchHost ← normalizeHost py canonical.host
        let rules ← (PyJson.get policy "approved_destinations").iterOrEmpty
        matchRules py canonical matchHost rules none) ↔
      DestinationsRead py policy canonical := by
  rw [raisesNothing_iff]
  constructor
  · rintro ⟨decision, h⟩
    obtain ⟨host, hhost, h⟩ := bind_eq_ok_iff.mp h
    obtain ⟨rules, hrules, h⟩ := bind_eq_ok_iff.mp h
    exact ⟨host, hhost, rules, hrules,
      matchRules_returns_iff.mp (raisesNothing_iff.mpr ⟨decision, h⟩)⟩
  · rintro ⟨host, hhost, rules, hrules, hread⟩
    obtain ⟨decision, h⟩ := raisesNothing_iff.mp (matchRules_returns_iff.mpr hread)
    exact ⟨decision, bind_eq_ok_iff.mpr ⟨host, hhost, bind_eq_ok_iff.mpr ⟨rules, hrules, h⟩⟩⟩

/-- The policy can be read as far as the payload takes it. -/
structure PolicyReads (py : PyRuntime) (policy : List (String × PyJson)) (rawPayload : String) :
    Prop where
  splits : SplitsUrl py rawPayload
  resolvers : ∀ canonical, canonicalizeDestination py rawPayload = .ok canonical →
    ResolversRead py policy rawPayload
  destinations : ∀ canonical, canonicalizeDestination py rawPayload = .ok canonical →
    approvedResolver py policy rawPayload = .ok false → DestinationsRead py policy canonical

theorem matchDestinationPolicy_returns_iff {policyFile : Option PolicyFile}
    {destination : NormalizedDestination} :
    RaisesNothing (matchDestinationPolicy py policyFile destination) ↔
      ∀ policy, loadDestinationPolicy policyFile = .policy policy →
        PolicyReads py policy destination.rawPayload := by
  rw [matchDestinationPolicy]
  cases hload : loadDestinationPolicy policyFile with
  | invalid detail =>
      refine iff_of_true (raisesOnly_ok _) fun policy h => ?_
      cases h
  | absent =>
      refine iff_of_true (raisesOnly_ok _) fun policy h => ?_
      cases h
  | policy policy =>
      simp only [PolicyLoad.policy.injEq, forall_eq']
      have hsplits : SplitsUrl py destination.rawPayload ↔
          RaisesOnly IsCanonicalizationError
            (canonicalizeDestination py destination.rawPayload) :=
        canonicalizeDestination_raises_iff.symm
      cases hcanonical : canonicalizeDestination py destination.rawPayload with
      | error exc =>
          rw [hcanonical, raisesOnly_error_iff] at hsplits
          dsimp only
          cases hreason : canonicalizationReason exc with
          | none =>
              refine iff_of_false (fun h => h exc rfl) fun h => ?_
              obtain ⟨reason, hreason'⟩ := hsplits.mp h.splits
              rw [hreason'] at hreason
              cases hreason
          | some reason =>
              refine iff_of_true (raisesOnly_ok _) ⟨?_, fun canonical h => ?_,
                fun canonical h => ?_⟩
              · exact hsplits.mpr ⟨reason, canonicalizationReason_eq_some_iff.mp hreason⟩
              · rw [hcanonical] at h
                cases h
              · rw [hcanonical] at h
                cases h
      | ok canonical =>
          rw [hcanonical] at hsplits
          have hreads : PolicyReads py policy destination.rawPayload ↔
              ResolversRead py policy destination.rawPayload ∧
                (approvedResolver py policy destination.rawPayload = .ok false →
                  DestinationsRead py policy canonical) := by
            constructor
            · intro h
              exact ⟨h.resolvers canonical hcanonical, h.destinations canonical hcanonical⟩
            · intro h
              refine ⟨hsplits.mpr (raisesOnly_ok _), fun canonical' _ => h.1,
                fun canonical' h' => ?_⟩
              obtain rfl := Except.ok.inj (hcanonical.symm.trans h')
              exact h.2
          rw [hreads, ← approvedResolver_returns_iff]
          dsimp only
          rw [RaisesNothing, raisesOnly_bind_iff]
          refine and_congr_right fun _ => ?_
          rw [← destinations_returns_iff]
          constructor
          · intro h hother
            exact h false hother
          · intro h resolver hresolver
            cases resolver with
            | true => exact raisesOnly_ok _
            | false => exact h hresolver

/-! ## The decision -/

/-- A naive expiry cannot be compared with an aware clock, nor the other way round. -/
def ComparesWith (now : Datetime) (expiry : Option Datetime) : Prop :=
  ∀ time, expiry = some time → (time.utcoffset = none ↔ now.utcoffset = none)

theorem proofExpired_returns_iff {now : Datetime} {expiry : Option Datetime} :
    RaisesNothing (proofExpired now expiry) ↔ ComparesWith now expiry := by
  cases expiry with
  | none =>
      refine iff_of_true (raisesOnly_ok _) fun time h => ?_
      cases h
  | some time =>
      simp only [ComparesWith, Option.some.injEq, forall_eq']
      rw [proofExpired, Datetime.le, RaisesNothing, raisesOnly_map_iff, Datetime.compareKeys]
      cases time.utcoffset <;> cases now.utcoffset <;>
        simp [raisesOnly_ok, raisesOnly_error_iff]

/-- The verified domain that covers the payload can be compared with the clock, and
    the policy can be read where its proof has not expired. -/
def MatchReads (py : PyRuntime) (policyFile : Option PolicyFile) (payload : String)
    (domains : OrderedMap String (Option Datetime)) (allowSubdomains : Bool) (now : Datetime) :
    Prop :=
  ∀ destination normalized matched reason expiry,
    normalizePayloadDestination py payload = .ok destination →
    normalizedVerifiedDomains py domains = .ok normalized →
    coveringDomain destination.host allowSubdomains normalized.entries
      = some (matched, reason, expiry) →
    ComparesWith now expiry ∧
      (Unexpired now expiry → ∀ policy, loadDestinationPolicy policyFile = .policy policy →
        PolicyReads py policy destination.rawPayload)

theorem policyOrMatch_returns_iff {policyFile : Option PolicyFile}
    {destination : NormalizedDestination} {matched reason : String} :
    RaisesNothing (policyOrMatch py policyFile destination matched reason) ↔
      RaisesNothing (matchDestinationPolicy py policyFile destination) := by
  rw [policyOrMatch, RaisesNothing, raisesOnly_bind_iff]
  refine and_iff_left fun decision _ => ?_
  split
  · split
    · exact raisesOnly_ok _
    · exact raisesOnly_ok _
  · exact raisesOnly_ok _

theorem matchDomain_returns_iff {policyFile : Option PolicyFile}
    {destination : NormalizedDestination} {now : Datetime} {matched reason : String}
    {expiry : Option Datetime} :
    RaisesNothing (matchDomain py policyFile destination now matched reason expiry) ↔
      ComparesWith now expiry ∧
        (Unexpired now expiry → ∀ policy, loadDestinationPolicy policyFile = .policy policy →
          PolicyReads py policy destination.rawPayload) := by
  rw [matchDomain, RaisesNothing, raisesOnly_bind_iff, ← RaisesNothing, proofExpired_returns_iff,
    ← matchDestinationPolicy_returns_iff]
  refine and_congr_right fun _ => ?_
  constructor
  · intro h hlive
    exact policyOrMatch_returns_iff.mp (h false hlive)
  · intro h expired hexpired
    cases expired with
    | true => exact raisesOnly_ok _
    | false => exact policyOrMatch_returns_iff.mpr (h hexpired)

/-- What a payload that cannot be taken apart raises is a `ValueError`. -/
theorem normalizePayloadDestination_raises (payload : String) :
    RaisesOnly (fun exc => ∃ text, exc.asValueError = some text)
      (normalizePayloadDestination py payload) := by
  have hthrow : ∀ {α β : Type} (text : String) (f : α → Except PyError β),
      RaisesOnly (fun exc => ∃ text, exc.asValueError = some text)
        ((throw (.valueError text) : Except PyError α) >>= f) := by
    intro α β text f
    exact raisesOnly_error_iff.mpr ⟨text, rfl⟩
  rw [normalizePayloadDestination]
  dsimp only
  split
  · exact hthrow _ _
  refine raisesOnly_bind_iff.mpr ⟨raisesOnly_mapError_iff.mpr fun exc _ => ⟨_, rfl⟩,
    fun parsed _ => ?_⟩
  split
  · exact raisesOnly_error_iff.mpr ⟨_, rfl⟩
  refine raisesOnly_bind_iff.mpr ⟨raisesOnly_ok _, fun hostname _ => ?_⟩
  refine raisesOnly_bind_iff.mpr ⟨raisesOnly_mapError_iff.mpr fun exc _ => ⟨_, rfl⟩,
    fun port _ => ?_⟩
  refine raisesOnly_bind_iff.mpr ⟨?_, fun host _ => raisesOnly_ok _⟩
  refine (normalizeHost_raises _).mono fun exc h => ?_
  obtain ⟨reason, rfl⟩ := h
  exact ⟨reason, rfl⟩

/-- **DECISIONS**: the matcher returns exactly where what the payload leads it to
    can be read. -/
theorem match_returns_iff {policyFile : Option PolicyFile} {payload : String}
    {domains : OrderedMap String (Option Datetime)} {allowSubdomains : Bool} {now : Datetime} :
    RaisesNothing
        (matchPayloadToVerifiedDomains py policyFile payload domains allowSubdomains now) ↔
      MatchReads py policyFile payload domains allowSubdomains now := by
  rw [matchPayloadToVerifiedDomains, MatchReads]
  cases hdestination : normalizePayloadDestination py payload with
  | error exc =>
      obtain ⟨text, htext⟩ := normalizePayloadDestination_raises payload exc hdestination
      dsimp only
      rw [htext]
      refine iff_of_true (raisesOnly_ok _) fun destination _ _ _ _ h => ?_
      cases h
  | ok destination =>
      simp only [Except.ok.injEq]
      cases hnormalized : normalizedVerifiedDomains py domains with
      | error exc =>
          obtain ⟨reason, rfl⟩ := normalizedVerifiedDomains_error hnormalized
          refine iff_of_true (raisesOnly_ok _) fun _ _ _ _ _ _ h => ?_
          cases h
      | ok normalized =>
          dsimp only
          split
          · rename_i hkeys
            refine iff_of_true (raisesOnly_ok _) fun destination' normalized' matched reason
              expiry _ h hcovers => ?_
            obtain rfl := Except.ok.inj h
            have hmem := OrderedMap.mem_keys.mpr ⟨expiry, mem_of_coveringDomain hcovers⟩
            rw [hkeys] at hmem
            exact absurd hmem List.not_mem_nil
          split
          · rename_i matched reason expiry hcovers
            rw [matchDomain_returns_iff]
            constructor
            · rintro h destination' normalized' matched' reason' expiry' rfl h' hcovers'
              obtain rfl := Except.ok.inj h'
              obtain ⟨rfl, rfl, rfl⟩ : matched = matched' ∧ reason = reason'
                  ∧ expiry = expiry' := by
                simpa [hcovers] using hcovers'
              exact h
            · intro h
              exact h destination normalized matched reason expiry rfl rfl hcovers
          · rename_i hcovers
            refine iff_of_true (raisesOnly_ok _) ?_
            rintro destination' normalized' matched reason expiry rfl h hcovers'
            obtain rfl := Except.ok.inj h
            rw [hcovers] at hcovers'
            cases hcovers'

/-! ## Payloads that do not parse -/

/-- The payload has no destination, or none that the policy can be asked about. -/
def Unparsable (py : PyRuntime) (policyFile : Option PolicyFile) (payload : String) : Prop :=
  (∀ destination, normalizePayloadDestination py payload ≠ .ok destination) ∨
    (∃ policy, loadDestinationPolicy policyFile = .policy policy) ∧
      ∀ canonical, canonicalizeDestination py payload ≠ .ok canonical

/-- **DENIAL**: what is decided about a payload that does not parse is a denial. -/
theorem refused_of_unparsable {policyFile : Option PolicyFile} {payload : String}
    {domains : OrderedMap String (Option Datetime)} {allowSubdomains : Bool} {now : Datetime}
    {decision : MatchDecision} (hunparsable : Unparsable py policyFile payload)
    (h : matchPayloadToVerifiedDomains py policyFile payload domains allowSubdomains now
      = .ok decision) : decision.allowed = false := by
  by_contra hallowed
  rw [Bool.not_eq_false] at hallowed
  obtain ⟨destination, normalized, matched, reason, expiry, hcovered⟩ := exists_covered h hallowed
  rcases hunparsable with hnone | ⟨⟨policy, hload⟩, hnone⟩
  · exact hnone destination hcovered.payload
  rw [hcovered.match_eq] at h
  obtain ⟨parsed, hostname, hreading⟩ := exists_reading hcovered.payload
  obtain ⟨domain, hdomain⟩ : ∃ domain, decision.matchedDomain = some domain := by
    rcases matchedDomain_of_policyOrMatch h hallowed with hdomain | ⟨host, -, hdomain⟩
    · exact ⟨matched, hdomain⟩
    · exact ⟨host, hdomain⟩
  cases policyFile with
  | none => cases hload
  | some file =>
      obtain ⟨canonical, hcanonical⟩ := exists_canonical_of_policy hreading.raw
        (policyOrMatch_allows_iff.mp ⟨decision, h, hallowed, hdomain⟩)
      exact hnone canonical hcanonical

/-- The errors about a destination stay typed, and the matcher answers. -/
structure ErrorsStayTyped (py : PyRuntime) (raw : String) (policyFile : Option PolicyFile)
    (payload : String) (domains : OrderedMap String (Option Datetime)) (allowSubdomains : Bool)
    (now : Datetime) : Prop where
  typed : (∃ destination, canonicalizeDestination py raw = .ok destination) ∨
    ∃ reason, canonicalizeDestination py raw = .error (.canonicalizationError reason)
  answers : ∃ decision,
    matchPayloadToVerifiedDomains py policyFile payload domains allowSubdomains now = .ok decision
  denies : Unparsable py policyFile payload → ∃ decision,
    matchPayloadToVerifiedDomains py policyFile payload domains allowSubdomains now
      = .ok decision ∧ decision.allowed = false

/-- **ERRORS**: the errors stay typed exactly where `urlsplit` takes the text it is
    handed, and everything the payload leads the matcher to can be read. -/
theorem errors_stay_typed_iff (py : PyRuntime) (raw : String) (policyFile : Option PolicyFile)
    (payload : String) (domains : OrderedMap String (Option Datetime)) (allowSubdomains : Bool)
    (now : Datetime) :
    ErrorsStayTyped py raw policyFile payload domains allowSubdomains now ↔
      SplitsUrl py raw ∧ MatchReads py policyFile payload domains allowSubdomains now := by
  rw [← canonicalizeDestination_raises_iff, ← match_returns_iff]
  constructor
  · intro h
    refine ⟨raisesOnly_iff.mpr (h.typed.imp_right ?_), raisesNothing_iff.mpr h.answers⟩
    rintro ⟨reason, hreason⟩
    exact ⟨_, hreason, reason, rfl⟩
  · rintro ⟨htyped, hanswers⟩
    obtain ⟨decision, hdecision⟩ := raisesNothing_iff.mp hanswers
    refine ⟨(raisesOnly_iff.mp htyped).imp_right ?_, ⟨decision, hdecision⟩, fun hunparsable =>
      ⟨decision, hdecision, refused_of_unparsable hunparsable hdecision⟩⟩
    rintro ⟨exc, hexc, reason, rfl⟩
    exact ⟨reason, hexc⟩

/-- A runtime that knows the URLs of one host, and whose URL parsers refuse an
    unclosed bracket. -/
def unclosedBracketRuntime : PyRuntime :=
  let split (url : String) : Except String SplitResult :=
    if url = "http://a.b" then .ok ⟨"http", none, none, some "a.b", .ok none, "", ""⟩
    else .error "Invalid IPv6 URL"
  { payHostRuntime with urlsplit := split, urlparse := split }

/-- A policy with a resolver URL that does not parse. -/
def unclosedBracketPolicy : PolicyFile where
  digest := "digest"
  content := .ok (.dict [("redirect_policy", .dict [("resolver_urls", .list [.str "http://["])])])

/-- A URL with an unclosed bracket raises a plain `ValueError`, and so does the
    matcher on a proper payload under a policy that lists such a URL. -/
theorem errors_stay_typed_unclosed_bracket :
    ¬ (∀ raw payload, ErrorsStayTyped unclosedBracketRuntime raw (some unclosedBracketPolicy)
        payload ⟨[("a.b", none)], by decide⟩ false (.utc 0)) ∧
      canonicalizeDestination unclosedBracketRuntime "http://["
        = .error (.valueError "Invalid IPv6 URL") ∧
      matchPayloadToVerifiedDomains unclosedBracketRuntime (some unclosedBracketPolicy)
          "http://a.b" ⟨[("a.b", none)], by decide⟩ false (.utc 0)
        = .error (.valueError "Invalid IPv6 URL") := by
  have hraises : canonicalizeDestination unclosedBracketRuntime "http://["
        = .error (.valueError "Invalid IPv6 URL") ∧
      matchPayloadToVerifiedDomains unclosedBracketRuntime (some unclosedBracketPolicy)
          "http://a.b" ⟨[("a.b", none)], by decide⟩ false (.utc 0)
        = .error (.valueError "Invalid IPv6 URL") := by
    decide +kernel
  refine ⟨fun hlaw => ?_, hraises⟩
  rcases (hlaw "http://[" "http://a.b").typed with ⟨destination, h⟩ | ⟨reason, h⟩
  · rw [hraises.1] at h
    cases h
  · rw [hraises.1] at h
    cases h

end PayloadRevalidation
