import QrTrust.Backend.VerdictCache
import QrTrust.Backend.VerifiedDomainProofs

/-! # The domain a decision names

    A decision that allows names the verified domain it rests on, for the cache
    to look up how long its proof holds.  Under a rule of the destination policy
    it names the host of the payload instead, which under a verified parent need
    not be a verified domain at all (`matchedDomain_live_iff`). -/

namespace PayloadRevalidation

open DestinationCanonicalization Fallible

variable {py : PyRuntime}

/-! ## The rules of the policy -/

/-- A rule that is passed over: it is not an object, it is not about the host, or
    it gives a reason against the destination. -/
def PassedOver (py : PyRuntime) (canonical : CanonicalDestination) (host : String)
    (rule : PyJson) : Prop :=
  ∀ fields, rule = .dict fields → ∃ verdict, ruleVerdict py canonical host fields = .ok verdict
    ∧ verdict ≠ some none

/-- Some rule approves the destination, and those before it are passed over. -/
def SomeRuleApproves (py : PyRuntime) (canonical : CanonicalDestination) (host : String)
    (rules : List PyJson) : Prop :=
  ∃ before fields after, rules = before ++ .dict fields :: after
    ∧ (∀ rule ∈ before, PassedOver py canonical host rule)
    ∧ ruleVerdict py canonical host fields = .ok (some none)

/-- The decision where a rule approves. -/
def ruleApproval (host : String) : MatchDecision where
  allowed := true
  matchedRule := some host
  reason := "Destination matches issuer-approved destination policy"
  cause := none
  matchedDomain := some host

theorem someRuleApproves_cons_of_passedOver {canonical : CanonicalDestination} {host : String}
    {rule : PyJson} {rest : List PyJson} (h : PassedOver py canonical host rule) :
    SomeRuleApproves py canonical host (rule :: rest) ↔ SomeRuleApproves py canonical host rest := by
  constructor
  · rintro ⟨before, fields, after, hsplit, hbefore, happroves⟩
    cases before with
    | nil =>
        obtain ⟨rfl, rfl⟩ := List.cons.inj hsplit
        obtain ⟨verdict, hverdict, hne⟩ := h fields rfl
        rw [happroves] at hverdict
        exact absurd (Except.ok.inj hverdict).symm hne
    | cons hd before =>
        obtain ⟨rfl, rfl⟩ := List.cons.inj hsplit
        exact ⟨before, fields, after, rfl,
          fun rule hrule => hbefore rule (List.mem_cons_of_mem _ hrule), happroves⟩
  · rintro ⟨before, fields, after, rfl, hbefore, happroves⟩
    refine ⟨rule :: before, fields, after, rfl, fun other hother => ?_, happroves⟩
    rcases List.mem_cons.mp hother with rfl | hother
    · exact h
    · exact hbefore other hother

/-- **RULES**: the loop over the rules allows exactly where some rule approves,
    and then it names the host. -/
theorem matchRules_allows_iff {canonical : CanonicalDestination} {host : String}
    {rules : List PyJson} {firstReason : Option String} {decision : MatchDecision} :
    (matchRules py canonical host rules firstReason = .ok (some decision)
        ∧ decision.allowed = true)
      ↔ SomeRuleApproves py canonical host rules ∧ decision = ruleApproval host := by
  induction rules generalizing firstReason with
  | nil =>
      constructor
      · rintro ⟨h, hallowed⟩
        obtain ⟨reason, -, rfl⟩ := Option.map_eq_some_iff.mp (Except.ok.inj h)
        cases hallowed
      · rintro ⟨⟨before, fields, after, hsplit, -⟩, -⟩
        exact absurd hsplit (by simp)
  | cons hd rest ih =>
      -- a rule that is no object is skipped
      have hskip : ∀ rule : PyJson, (∀ fields, rule ≠ .dict fields) →
          matchRules py canonical host (rule :: rest) firstReason
            = matchRules py canonical host rest firstReason →
          ((matchRules py canonical host (rule :: rest) firstReason = .ok (some decision)
              ∧ decision.allowed = true)
            ↔ SomeRuleApproves py canonical host (rule :: rest) ∧ decision = ruleApproval host) := by
        intro rule hrule heq
        rw [heq, ih, someRuleApproves_cons_of_passedOver fun fields h => absurd h (hrule fields)]
      cases hd with
      | none => exact hskip _ (fun fields h => by cases h) rfl
      | bool b => exact hskip _ (fun fields h => by cases h) rfl
      | int n => exact hskip _ (fun fields h => by cases h) rfl
      | float x => exact hskip _ (fun fields h => by cases h) rfl
      | str s => exact hskip _ (fun fields h => by cases h) rfl
      | list items => exact hskip _ (fun fields h => by cases h) rfl
      | dict fields =>
          rw [matchRules]
          cases hverdict : ruleVerdict py canonical host fields with
          | error exc =>
              dsimp only
              constructor
              · rintro ⟨h, hallowed⟩
                cases hreason : canonicalizationReason exc with
                | none => rw [hreason] at h; cases h
                | some reason =>
                    rw [hreason] at h
                    obtain rfl := Option.some.inj (Except.ok.inj h)
                    cases hallowed
              · rintro ⟨⟨before, fields', after, hsplit, hbefore, happroves⟩, -⟩
                cases before with
                | nil =>
                    obtain ⟨heq, -⟩ := List.cons.inj hsplit
                    obtain rfl := PyJson.dict.inj heq
                    rw [hverdict] at happroves
                    cases happroves
                | cons hd before =>
                    obtain ⟨rfl, -⟩ := List.cons.inj hsplit
                    obtain ⟨verdict, h, -⟩ := hbefore _ (List.mem_cons_self ..) fields rfl
                    rw [hverdict] at h
                    cases h
          | ok verdict =>
              have hpassed : verdict ≠ some none → PassedOver py canonical host (.dict fields) := by
                intro hne fields' heq
                obtain rfl := PyJson.dict.inj heq
                exact ⟨verdict, hverdict, hne⟩
              match verdict, hverdict, hpassed with
              | none, hverdict, hpassed =>
                  dsimp only
                  rw [ih, someRuleApproves_cons_of_passedOver (hpassed (Option.some_ne_none _).symm)]
              | some none, hverdict, hpassed =>
                  constructor
                  · rintro ⟨h, -⟩
                    obtain rfl := Option.some.inj (Except.ok.inj h)
                    exact ⟨⟨[], fields, rest, rfl,
                      fun rule hrule => absurd hrule List.not_mem_nil, hverdict⟩, rfl⟩
                  · rintro ⟨-, rfl⟩
                    exact ⟨rfl, rfl⟩
              | some (some reason), hverdict, hpassed =>
                  dsimp only
                  rw [ih, someRuleApproves_cons_of_passedOver (hpassed (by simp))]

/-- A rule of the policy file approves the payload, under this host; the payload
    is not a resolver URL. -/
structure ApprovedByRule (py : PyRuntime) (policyFile : Option PolicyFile)
    (destination : NormalizedDestination) (host : String) : Prop where
  approved : ∃ policy canonical rules, loadDestinationPolicy policyFile = .policy policy
    ∧ canonicalizeDestination py destination.rawPayload = .ok canonical
    ∧ approvedResolver py policy destination.rawPayload = .ok false
    ∧ normalizeHost py canonical.host = .ok host
    ∧ (PyJson.get policy "approved_destinations").iterOrEmpty = .ok rules
    ∧ SomeRuleApproves py canonical host rules

/-- The decision for a resolver URL. -/
def resolverApproval (destination : NormalizedDestination) : MatchDecision where
  allowed := true
  matchedRule := some destination.host
  reason := "Approved resolver URL"
  cause := none
  matchedDomain := none

/-- **POLICY**: the policy allows a resolver URL, without a domain, or what a rule
    approves, under the host of the payload. -/
theorem matchDestinationPolicy_allows {policyFile : Option PolicyFile}
    {destination : NormalizedDestination} {decision : MatchDecision}
    (h : matchDestinationPolicy py policyFile destination = .ok (some decision))
    (hallowed : decision.allowed = true) :
    decision = resolverApproval destination
      ∨ ∃ host, ApprovedByRule py policyFile destination host ∧ decision = ruleApproval host := by
  rw [matchDestinationPolicy] at h
  cases hload : loadDestinationPolicy policyFile with
  | absent => rw [hload] at h; cases h
  | invalid detail =>
      rw [hload] at h
      obtain rfl := Option.some.inj (Except.ok.inj h)
      cases hallowed
  | policy policy =>
      rw [hload] at h
      dsimp only at h
      cases hcanonical : canonicalizeDestination py destination.rawPayload with
      | error exc =>
          rw [hcanonical] at h
          dsimp only at h
          cases hreason : canonicalizationReason exc with
          | none => rw [hreason] at h; cases h
          | some reason =>
              rw [hreason] at h
              obtain rfl := Option.some.inj (Except.ok.inj h)
              cases hallowed
      | ok canonical =>
          rw [hcanonical] at h
          obtain ⟨resolver, hresolver, h⟩ := bind_eq_ok_iff.mp h
          cases resolver with
          | true =>
              obtain rfl := Option.some.inj (Except.ok.inj h)
              exact .inl rfl
          | false =>
              obtain ⟨host, hhost, h⟩ := bind_eq_ok_iff.mp h
              obtain ⟨rules, hrules, h⟩ := bind_eq_ok_iff.mp h
              obtain ⟨happroves, rfl⟩ := matchRules_allows_iff.mp ⟨h, hallowed⟩
              exact .inr ⟨host, ⟨policy, canonical, rules, hload, hcanonical, hresolver, hhost,
                hrules, happroves⟩, rfl⟩

/-- What a rule approves, the policy allows. -/
theorem matchDestinationPolicy_of_approved {policyFile : Option PolicyFile}
    {destination : NormalizedDestination} {host : String}
    (h : ApprovedByRule py policyFile destination host) :
    matchDestinationPolicy py policyFile destination = .ok (some (ruleApproval host)) := by
  obtain ⟨policy, canonical, rules, hload, hcanonical, hresolver, hhost, hrules, happroves⟩ :=
    h.approved
  simp only [matchDestinationPolicy, hload, hcanonical, hresolver, hhost, hrules, bind, Except.bind]
  exact (matchRules_allows_iff.mpr ⟨happroves, rfl⟩).1

/-! ## The domain of a decision -/

/-- The covering domain is one of the map. -/
theorem mem_of_coveringDomain {host : String} {allowSubdomains : Bool}
    {entries : List (String × Option Datetime)} {matched reason : String}
    {expiry : Option Datetime}
    (h : coveringDomain host allowSubdomains entries = some (matched, reason, expiry)) :
    (matched, expiry) ∈ entries := by
  induction entries with
  | nil => cases h
  | cons hd rest ih =>
      obtain ⟨rule, expiry'⟩ := hd
      rw [coveringDomain] at h
      cases hcover : coverReason host rule allowSubdomains with
      | some reason' =>
          rw [hcover] at h
          obtain ⟨rfl, -, rfl⟩ : rule = matched ∧ reason' = reason ∧ expiry' = expiry := by
            simpa using h
          exact List.mem_cons_self ..
      | none =>
          rw [hcover] at h
          exact List.mem_cons_of_mem _ (ih h)

/-- A payload under the first verified domain that covers its host, whose proof
    has not expired. -/
structure Covered (py : PyRuntime) (payload : String)
    (domains : OrderedMap String (Option Datetime)) (allowSubdomains : Bool) (now : Datetime)
    (destination : NormalizedDestination) (normalized : OrderedMap String (Option Datetime))
    (matched reason : String) (expiry : Option Datetime) : Prop where
  payload : normalizePayloadDestination py payload = .ok destination
  domains : normalizedVerifiedDomains py domains = .ok normalized
  covers : coveringDomain destination.host allowSubdomains normalized.entries
    = some (matched, reason, expiry)
  live : Unexpired now expiry

theorem Covered.get? {payload : String} {domains normalized : OrderedMap String (Option Datetime)}
    {allowSubdomains : Bool} {now : Datetime} {destination : NormalizedDestination}
    {matched reason : String} {expiry : Option Datetime}
    (h : Covered py payload domains allowSubdomains now destination normalized matched reason
      expiry) : normalized.get? matched = some expiry :=
  (OrderedMap.get?_eq_some_iff ..).mpr (mem_of_coveringDomain h.covers)

theorem Covered.match_eq {policyFile : Option PolicyFile} {payload : String}
    {domains normalized : OrderedMap String (Option Datetime)} {allowSubdomains : Bool}
    {now : Datetime} {destination : NormalizedDestination} {matched reason : String}
    {expiry : Option Datetime}
    (h : Covered py payload domains allowSubdomains now destination normalized matched reason
      expiry) :
    matchPayloadToVerifiedDomains py policyFile payload domains allowSubdomains now
      = policyOrMatch py policyFile destination matched reason := by
  have hkeys : normalized.keys ≠ [] := fun hnil =>
    List.not_mem_nil (hnil ▸ OrderedMap.mem_keys.mpr ⟨expiry, mem_of_coveringDomain h.covers⟩)
  simp only [matchPayloadToVerifiedDomains, h.payload, h.domains, if_neg hkeys, h.covers,
    matchDomain]
  rw [show proofExpired now expiry = .ok false from h.live]
  rfl

/-- **ALLOWED**: what is allowed is covered. -/
theorem exists_covered {policyFile : Option PolicyFile} {payload : String}
    {domains : OrderedMap String (Option Datetime)} {allowSubdomains : Bool} {now : Datetime}
    {decision : MatchDecision}
    (h : matchPayloadToVerifiedDomains py policyFile payload domains allowSubdomains now
      = .ok decision) (hallowed : decision.allowed = true) :
    ∃ destination normalized matched reason expiry,
      Covered py payload domains allowSubdomains now destination normalized matched reason
        expiry := by
  rw [matchPayloadToVerifiedDomains] at h
  cases hdestination : normalizePayloadDestination py payload with
  | error exc =>
      rw [hdestination] at h
      dsimp only at h
      split at h
      · cases h
      · obtain rfl := Except.ok.inj h
        cases hallowed
  | ok destination =>
      rw [hdestination] at h
      dsimp only at h
      cases hnormalized : normalizedVerifiedDomains py domains with
      | error exc =>
          rw [hnormalized] at h
          dsimp only at h
          split at h
          · cases h
          · obtain rfl := Except.ok.inj h
            cases hallowed
      | ok normalized =>
          rw [hnormalized] at h
          dsimp only at h
          split at h
          · obtain rfl := Except.ok.inj h
            cases hallowed
          · cases hcovers : coveringDomain destination.host allowSubdomains normalized.entries with
            | none =>
                rw [hcovers] at h
                obtain rfl := Except.ok.inj h
                cases hallowed
            | some cover =>
                obtain ⟨matched, reason, expiry⟩ := cover
                rw [hcovers] at h
                obtain ⟨expired, hexpired, h⟩ := bind_eq_ok_iff.mp h
                cases expired with
                | true =>
                    obtain rfl := Except.ok.inj h
                    cases hallowed
                | false =>
                    exact ⟨destination, normalized, matched, reason, expiry, hdestination,
                      hnormalized, hcovers, hexpired⟩

/-- The domain of an allowed decision: that of the map, unless a rule approves. -/
theorem matchedDomain_of_policyOrMatch {policyFile : Option PolicyFile}
    {destination : NormalizedDestination} {matched reason : String} {decision : MatchDecision}
    (h : policyOrMatch py policyFile destination matched reason = .ok decision)
    (hallowed : decision.allowed = true) :
    decision.matchedDomain = some matched
      ∨ ∃ host, ApprovedByRule py policyFile destination host
          ∧ decision.matchedDomain = some host := by
  obtain ⟨policyDecision, hpolicy, h⟩ := bind_eq_ok_iff.mp h
  cases policyDecision with
  | none =>
      obtain rfl := Except.ok.inj h
      exact .inl rfl
  | some policyDecision =>
      dsimp only at h
      split at h
      · obtain rfl := Except.ok.inj h
        exact .inl rfl
      · rename_i hnamed
        obtain rfl := Except.ok.inj h
        rcases matchDestinationPolicy_allows hpolicy hallowed with rfl | ⟨host, hrule, rfl⟩
        · exact absurd rfl hnamed
        · exact .inr ⟨host, hrule, rfl⟩

/-- The domain an allowed decision names is one of the normalized map, and its
    proof has not expired: who looks the expiry up finds it. -/
def NamesLiveProof (py : PyRuntime) (policyFile : Option PolicyFile) (payload : String)
    (domains : OrderedMap String (Option Datetime)) (allowSubdomains : Bool) (now : Datetime) :
    Prop :=
  ∀ decision, matchPayloadToVerifiedDomains py policyFile payload domains allowSubdomains now
      = .ok decision → decision.allowed = true →
    ∃ domain normalized expiry, decision.matchedDomain = some domain
      ∧ normalizedVerifiedDomains py domains = .ok normalized
      ∧ normalized.get? domain = some expiry ∧ Unexpired now expiry

/-- **MATCHED DOMAIN**: an allowed decision names a verified domain with a live
    proof exactly where what a rule of the policy approves under a live covering
    domain has a host that is such a domain itself. -/
theorem matchedDomain_live_iff (py : PyRuntime) (policyFile : Option PolicyFile)
    (payload : String) (domains : OrderedMap String (Option Datetime)) (allowSubdomains : Bool)
    (now : Datetime) :
    NamesLiveProof py policyFile payload domains allowSubdomains now
      ↔ ∀ destination normalized matched reason expiry,
          Covered py payload domains allowSubdomains now destination normalized matched reason
            expiry →
          ∀ host, ApprovedByRule py policyFile destination host →
            ∃ proof, normalized.get? host = some proof ∧ Unexpired now proof := by
  constructor
  · intro hnames destination normalized matched reason expiry hcovered host hrule
    have hdecided : matchPayloadToVerifiedDomains py policyFile payload domains allowSubdomains now
        = .ok (ruleApproval host) := by
      rw [hcovered.match_eq, policyOrMatch, matchDestinationPolicy_of_approved hrule]
      rfl
    obtain ⟨domain, normalized', proof, hdomain, hnormalized, hproof, hlive⟩ :=
      hnames _ hdecided rfl
    obtain rfl := Option.some.inj hdomain
    obtain rfl := Except.ok.inj (hnormalized.symm.trans hcovered.domains)
    exact ⟨proof, hproof, hlive⟩
  · intro hrules decision hdecided hallowed
    obtain ⟨destination, normalized, matched, reason, expiry, hcovered⟩ :=
      exists_covered hdecided hallowed
    rw [hcovered.match_eq] at hdecided
    rcases matchedDomain_of_policyOrMatch hdecided hallowed with hdomain | ⟨host, hrule, hdomain⟩
    · exact ⟨matched, normalized, expiry, hdomain, hcovered.domains, hcovered.get?, hcovered.live⟩
    · obtain ⟨proof, hproof, hlive⟩ :=
        hrules destination normalized matched reason expiry hcovered host hrule
      exact ⟨host, normalized, proof, hdomain, hcovered.domains, hproof, hlive⟩

/-- A policy with one rule, about the host of the payload. -/
def payHostPolicy : PolicyFile where
  digest := "digest"
  content := .ok (.dict [("approved_destinations",
    .list [.dict [("allowed_hosts", .list [.str "pay.acme.example"])]])])

/-- The parent is verified, the rule approves the host under it, and the decision
    names the host. -/
theorem matchedDomain_of_rule :
    ¬ NamesLiveProof payHostRuntime (some payHostPolicy) "https://pay.acme.example/"
        ⟨[("acme.example", some (.utc 1000000))], by decide⟩ true (.utc 0) := by
  intro hnames
  have hrun : (matchPayloadToVerifiedDomains payHostRuntime (some payHostPolicy)
        "https://pay.acme.example/" ⟨[("acme.example", some (.utc 1000000))], by decide⟩ true
        (.utc 0)).toOption = some (ruleApproval "pay.acme.example")
      ∧ (normalizedVerifiedDomains payHostRuntime
        ⟨[("acme.example", some (.utc 1000000))], by decide⟩).toOption.map OrderedMap.keys
        = some ["acme.example"] := by
    decide +kernel
  obtain ⟨domain, normalized, expiry, hdomain, hnormalized, hget, -⟩ :=
    hnames _ (toOption_eq_some_iff.mp hrun.1) rfl
  obtain rfl := Option.some.inj hdomain
  rw [hnormalized] at hrun
  have hkeys : normalized.keys = ["acme.example"] := Option.some.inj hrun.2
  have hmem := OrderedMap.mem_keys_iff_get?.mpr ⟨expiry, hget⟩
  rw [hkeys] at hmem
  exact absurd hmem (by decide)

end PayloadRevalidation
