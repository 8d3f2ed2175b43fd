import QrTrust.Backend.DomainMapProofs
import QrTrust.Backend.PayloadRevalidation
import QrTrust.Lib.DecisionList
import QrTrust.Lib.Fallible

/-! # Verified domains, one against another

    `match_payload_to_verified_domains` returns from inside the first verified
    domain that covers the host: a decision list with an arm for each entry of
    the map, in the order of the map.  Where an expired proof and a live one
    cover the same host, the order decides (`domainMatching_iff`). -/

namespace PayloadRevalidation

open DestinationCanonicalization DecisionList Fallible

variable {py : PyRuntime} {ν : Type}

/-! ## The normalized map -/

/-- The canonical form of a domain that has one. -/
def canonicalOf (py : PyRuntime) (raw : String) : String :=
  (canonicalizeVerifiedDomain py raw).toOption.getD ""

/-- What becomes of an entry of the map: a blank domain is left out. -/
def normalizedEntry (py : PyRuntime) (entry : String × ν) : Option (String × ν) :=
  if PyString.strip entry.1 = "" then none else some (canonicalOf py entry.1, entry.2)

/-- The entries with a domain that is not blank. -/
def namedEntries (entries : List (String × ν)) : List (String × ν) :=
  entries.filter fun entry => PyString.strip entry.1 ≠ ""

/-- Blank domains are as good as not there. -/
theorem canonicalizeEntries_named (entries : List (String × ν)) (normalized : OrderedMap String ν)
    (rawKeys : OrderedMap String String) :
    canonicalizeEntries py true entries normalized rawKeys
      = canonicalizeEntries py false (namedEntries entries) normalized rawKeys := by
  induction entries generalizing normalized rawKeys with
  | nil => rfl
  | cons hd rest ih =>
      obtain ⟨raw, value⟩ := hd
      rw [canonicalizeEntries, namedEntries, List.filter_cons]
      by_cases hblank : PyString.strip raw = ""
      · rw [if_pos ⟨rfl, hblank⟩, if_neg (by simpa using hblank)]
        exact ih normalized rawKeys
      · rw [if_neg (fun h => hblank h.2), if_pos (by simpa using hblank), canonicalizeEntries,
          if_neg (fun h => Bool.noConfusion h.1)]
        cases canonicalizeVerifiedDomain py raw with
        | error exc => rfl
        | ok domain =>
            dsimp only
            split
            · rfl
            · exact ih _ _

/-- **NORMALIZED ENTRIES**: what the loop returns has the entries it started with,
    then those left, each under its canonical domain, in their order. -/
theorem entries_canonicalizeEntries {entries : List (String × ν)} {normalized result : OrderedMap String ν}
    {rawKeys : OrderedMap String String}
    (h : canonicalizeEntries py true entries normalized rawKeys = .ok result) :
    result.entries = normalized.entries ++ entries.filterMap (normalizedEntry py) := by
  induction entries generalizing normalized rawKeys with
  | nil =>
      obtain rfl := Except.ok.inj h
      exact (List.append_nil _).symm
  | cons hd rest ih =>
      obtain ⟨raw, value⟩ := hd
      rw [canonicalizeEntries] at h
      by_cases hblank : PyString.strip raw = ""
      · rw [if_pos ⟨rfl, hblank⟩] at h
        rw [ih h, List.filterMap_cons_none (by rw [normalizedEntry, if_pos hblank])]
      · rw [if_neg (fun hskip => hblank hskip.2)] at h
        cases hcanonical : canonicalizeVerifiedDomain py raw with
        | error exc => rw [hcanonical] at h; cases h
        | ok domain =>
            rw [hcanonical] at h
            dsimp only at h
            split at h
            · cases h
            · rename_i hnew
              have hentry : normalizedEntry py (raw, value) = some (domain, value) := by
                rw [normalizedEntry, if_neg hblank, canonicalOf, hcanonical]
                rfl
              have hfresh : domain ∉ normalized.keys := fun hmem =>
                hnew (OrderedMap.contains_iff.mpr hmem)
              rw [ih h, List.filterMap_cons_some hentry,
                OrderedMap.entries_set_of_notMem value hfresh, List.append_assoc]
              rfl

theorem entries_normalizedVerifiedDomains {domains normalized : OrderedMap String (Option Datetime)}
    (h : normalizedVerifiedDomains py domains = .ok normalized) :
    normalized.entries = domains.entries.filterMap (normalizedEntry py) :=
  entries_canonicalizeEntries h

/-- A map can be normalized in every order of its entries, or in none. -/
theorem exists_normalized_of_perm {domains reordered : OrderedMap String (Option Datetime)}
    (hperm : reordered.entries.Perm domains.entries)
    (h : ∃ normalized, normalizedVerifiedDomains py domains = .ok normalized) :
    ∃ normalized, normalizedVerifiedDomains py reordered = .ok normalized := by
  simp only [normalizedVerifiedDomains, canonicalizeVerifiedDomainMap, canonicalizeEntries_named,
    exists_canonicalizeEntries_iff] at h ⊢
  have hnamed : ((namedEntries reordered.entries).map Prod.fst).Perm
      ((namedEntries domains.entries).map Prod.fst) := (hperm.filter _).map _
  refine ⟨fun raw hraw => h.1 raw (hnamed.mem_iff.mp hraw), ?_⟩
  exact (hnamed.pairwise_iff fun hne => hne.symm).mpr h.2

/-- What a host that has no canonical form raises. -/
theorem canonicalizeHost_error {rawHost : String} {exc : PyError}
    (h : canonicalizeHost py rawHost = .error exc) :
    ∃ reason, exc = .canonicalizationError reason := by
  rw [canonicalizeHost] at h
  generalize (if PyString.endswith (py.lower (PyString.strip rawHost)) "." then
    PyString.dropLast (py.lower (PyString.strip rawHost))
    else py.lower (PyString.strip rawHost)) = host at h
  split at h
  · obtain rfl := Except.error.inj h
    exact ⟨_, rfl⟩
  · split at h
    · cases h
    · obtain rfl := Except.error.inj h
      exact ⟨_, rfl⟩

/-- What a domain that has no canonical form raises. -/
theorem canonicalizeVerifiedDomain_error {raw : String} {exc : PyError}
    (h : canonicalizeVerifiedDomain py raw = .error exc) :
    ∃ reason, exc = .canonicalizationError reason := by
  rw [canonicalizeVerifiedDomain] at h
  dsimp only at h
  split at h
  · obtain rfl := Except.error.inj h
    exact ⟨_, rfl⟩
  · simp only [bind, Except.bind, pure, Except.pure] at h
    cases hhost : canonicalizeHost py (PyString.strip raw) with
    | error exc' =>
        rw [hhost] at h
        obtain rfl := Except.error.inj h
        exact canonicalizeHost_error hhost
    | ok host =>
        rw [hhost] at h
        dsimp only at h
        split at h
        · obtain rfl := Except.error.inj h
          exact ⟨_, rfl⟩
        · cases h

/-- What a map that cannot be normalized raises. -/
theorem normalizedVerifiedDomains_error {domains : OrderedMap String (Option Datetime)}
    {exc : PyError} (h : normalizedVerifiedDomains py domains = .error exc) :
    ∃ reason, exc = .canonicalizationError reason := by
  rw [normalizedVerifiedDomains, canonicalizeVerifiedDomainMap] at h
  generalize (OrderedMap.empty : OrderedMap String (Option Datetime)) = normalized at h
  generalize (OrderedMap.empty : OrderedMap String String) = rawKeys at h
  generalize domains.entries = entries at h
  induction entries generalizing normalized rawKeys with
  | nil => cases h
  | cons hd rest ih =>
      obtain ⟨raw, value⟩ := hd
      rw [canonicalizeEntries] at h
      split at h
      · exact ih _ _ h
      · split at h
        · rename_i exc' hcanonical
          obtain rfl := Except.error.inj h
          exact canonicalizeVerifiedDomain_error hcanonical
        · split at h
          · obtain rfl := Except.error.inj h
            exact ⟨_, rfl⟩
          · exact ih _ _ h

/-! ## What each verified domain answers -/

/-- What a decision says of the payload: is it allowed, and if not, for what
    cause. -/
def MatchDecision.answer (decision : MatchDecision) : Bool × Option String :=
  (decision.allowed, decision.cause)

/-- The answer of an outcome. -/
def answerOf (outcome : Except PyError MatchDecision) : Except PyError (Bool × Option String) :=
  outcome.map MatchDecision.answer

/-- The answer under an expired domain proof. -/
def expiredAnswer : Bool × Option String := (false, some "destination-not-authorized")

/-- The answer of the destination policy; where it says nothing, the payload is
    allowed. -/
def policyAnswer (py : PyRuntime) (policyFile : Option PolicyFile)
    (destination : NormalizedDestination) : Except PyError (Bool × Option String) :=
  (matchDestinationPolicy py policyFile destination).map fun decision =>
    match decision with
    | none => (true, none)
    | some decision => decision.answer

/-- The answer under a domain proof, `policy` being that of the policy. -/
def proofAnswer (policy : Except PyError (Bool × Option String)) (now : Datetime)
    (expiry : Option Datetime) : Except PyError (Bool × Option String) :=
  (proofExpired now expiry).bind fun expired => if expired then .ok expiredAnswer else policy

/-- A verified domain matches the host: it is the host, or a parent with
    subdomains allowed. -/
def MatchesHost (host : String) (allowSubdomains : Bool) (domain : String) : Prop :=
  host = domain ∨ allowSubdomains = true ∧ isSameOrSubdomain host domain = true

theorem exists_coverReason_iff {host rule : String} {allowSubdomains : Bool} :
    (∃ reason, coverReason host rule allowSubdomains = some reason)
      ↔ MatchesHost host allowSubdomains rule := by
  rw [coverReason, MatchesHost]
  by_cases hexact : host = rule
  · simp [hexact]
  · by_cases hparent : (allowSubdomains && isSameOrSubdomain host rule) = true
    · simp [hexact, Bool.and_eq_true_iff.mp hparent]
    · rw [if_neg hexact, if_neg hparent]
      simp [hexact]
      simpa using hparent

/-- The arm of an entry of the map. -/
def domainArm (policy : Except PyError (Bool × Option String)) (now : Datetime) (host : String)
    (allowSubdomains : Bool) (entry : String × Option Datetime) :
    Option (Except PyError (Bool × Option String)) :=
  (coverReason host entry.1 allowSubdomains).map fun _ => proofAnswer policy now entry.2

theorem domainArm_eq_some_iff {policy : Except PyError (Bool × Option String)} {now : Datetime}
    {host : String} {allowSubdomains : Bool} {entry : String × Option Datetime}
    {answer : Except PyError (Bool × Option String)} :
    domainArm policy now host allowSubdomains entry = some answer
      ↔ MatchesHost host allowSubdomains entry.1 ∧ proofAnswer policy now entry.2 = answer := by
  rw [← exists_coverReason_iff, domainArm, Option.map_eq_some_iff]
  constructor
  · rintro ⟨reason, hreason, hanswer⟩
    exact ⟨⟨reason, hreason⟩, hanswer⟩
  · rintro ⟨⟨reason, hreason⟩, hanswer⟩
    exact ⟨reason, hreason, hanswer⟩

theorem answerOf_policyOrMatch (policyFile : Option PolicyFile)
    (destination : NormalizedDestination) (matched reason : String) :
    answerOf (policyOrMatch py policyFile destination matched reason)
      = policyAnswer py policyFile destination := by
  rw [policyOrMatch, policyAnswer]
  cases matchDestinationPolicy py policyFile destination with
  | error exc => rfl
  | ok decision =>
      cases decision with
      | none => rfl
      | some decision =>
          show answerOf (ite _ _ _) = .ok decision.answer
          split <;> rfl

theorem answerOf_matchDomain (policyFile : Option PolicyFile)
    (destination : NormalizedDestination) (now : Datetime) (matched reason : String)
    (expiry : Option Datetime) :
    answerOf (matchDomain py policyFile destination now matched reason expiry)
      = proofAnswer (policyAnswer py policyFile destination) now expiry := by
  rw [matchDomain, proofAnswer, ← answerOf_policyOrMatch policyFile destination matched reason]
  cases proofExpired now expiry with
  | error exc => rfl
  | ok expired => cases expired <;> rfl

/-- **DECISION LIST**: the first domain that covers the host answers. -/
theorem answerOf_coveringDomain (policyFile : Option PolicyFile)
    (destination : NormalizedDestination) (now : Datetime) (allowSubdomains : Bool)
    (entries : List (String × Option Datetime)) (other : MatchDecision) :
    answerOf (match coveringDomain destination.host allowSubdomains entries with
        | some (matched, reason, expiry) =>
            matchDomain py policyFile destination now matched reason expiry
        | none => .ok other)
      = firstAnswer (entries.map
          (domainArm (policyAnswer py policyFile destination) now destination.host allowSubdomains))
          (.ok other.answer) := by
  induction entries with
  | nil => rfl
  | cons hd rest ih =>
      obtain ⟨rule, expiry⟩ := hd
      rw [coveringDomain, List.map_cons, domainArm]
      cases coverReason destination.host rule allowSubdomains with
      | some reason => exact answerOf_matchDomain policyFile destination now rule reason expiry
      | none => exact ih

/-- **NORMALIZED**: the answer where the payload and the map can be normalized. -/
theorem answerOf_match {policyFile : Option PolicyFile} {payload : String}
    {domains normalized : OrderedMap String (Option Datetime)} {allowSubdomains : Bool}
    {now : Datetime} {destination : NormalizedDestination}
    (hdestination : normalizePayloadDestination py payload = .ok destination)
    (hnormalized : normalizedVerifiedDomains py domains = .ok normalized) :
    answerOf (matchPayloadToVerifiedDomains py policyFile payload domains allowSubdomains now)
      = firstAnswer (normalized.entries.map
          (domainArm (policyAnswer py policyFile destination) now destination.host allowSubdomains))
          (.ok (false, none)) := by
  rw [matchPayloadToVerifiedDomains, hdestination, hnormalized]
  dsimp only
  by_cases hkeys : normalized.keys = []
  · rw [if_pos hkeys, List.map_eq_nil_iff.mp hkeys]
    rfl
  · rw [if_neg hkeys]
    exact answerOf_coveringDomain policyFile destination now allowSubdomains normalized.entries _

/-- A payload that cannot be normalized is not allowed. -/
theorem answerOf_match_of_payload {policyFile : Option PolicyFile} {payload : String}
    {domains : OrderedMap String (Option Datetime)} {allowSubdomains : Bool} {now : Datetime}
    {exc : PyError} (h : normalizePayloadDestination py payload = .error exc) :
    answerOf (matchPayloadToVerifiedDomains py policyFile payload domains allowSubdomains now)
      = match exc.asValueError with
        | none => .error exc
        | some _ => .ok (false, none) := by
  rw [matchPayloadToVerifiedDomains, h]
  dsimp only
  cases exc.asValueError <;> rfl

/-- Nor is one under a map that cannot be normalized. -/
theorem answerOf_match_of_domains {policyFile : Option PolicyFile} {payload : String}
    {domains : OrderedMap String (Option Datetime)} {allowSubdomains : Bool} {now : Datetime}
    {destination : NormalizedDestination} {exc : PyError}
    (hdestination : normalizePayloadDestination py payload = .ok destination)
    (h : normalizedVerifiedDomains py domains = .error exc) :
    answerOf (matchPayloadToVerifiedDomains py policyFile payload domains allowSubdomains now)
      = .ok (false, some "policy-invalid") := by
  obtain ⟨reason, rfl⟩ := normalizedVerifiedDomains_error h
  rw [matchPayloadToVerifiedDomains, hdestination, h]
  rfl

/-! ## The order of the verified domains -/

/-- The domain proof is there and has not expired at `now`. -/
def Unexpired (now : Datetime) (expiry : Option Datetime) : Prop := proofExpired now expiry = .ok false

/-- The destination policy allows the payload, or says nothing of it. -/
def PolicyAccepts (py : PyRuntime) (policyFile : Option PolicyFile)
    (destination : NormalizedDestination) : Prop :=
  ∃ cause, policyAnswer py policyFile destination = .ok (true, cause)

/-- The order of the verified domains does not matter to the answer, and the
    payload is allowed exactly under some unexpired proof that matches its host,
    by a policy that accepts it. -/
structure DomainMatchingLaw (py : PyRuntime) (policyFile : Option PolicyFile) (payload : String)
    (domains : OrderedMap String (Option Datetime)) (allowSubdomains : Bool) (now : Datetime) :
    Prop where
  orderIndependent : ∀ reordered : OrderedMap String (Option Datetime),
    reordered.entries.Perm domains.entries →
      answerOf (matchPayloadToVerifiedDomains py policyFile payload reordered allowSubdomains now)
        = answerOf (matchPayloadToVerifiedDomains py policyFile payload domains allowSubdomains now)
  allowsIff :
    (∃ decision, matchPayloadToVerifiedDomains py policyFile payload domains allowSubdomains now
          = .ok decision ∧ decision.allowed = true)
      ↔ ∃ destination normalized, normalizePayloadDestination py payload = .ok destination
          ∧ normalizedVerifiedDomains py domains = .ok normalized
          ∧ (∃ entry ∈ normalized.entries,
              MatchesHost destination.host allowSubdomains entry.1 ∧ Unexpired now entry.2)
          ∧ PolicyAccepts py policyFile destination

/-- The matching domains are at one about their proofs, or the policy says what
    those that differ say: the answer of an expired proof, or the exception of a
    proof that cannot be compared with the clock. -/
def ProofsAgree (policy : Except PyError (Bool × Option String)) (now : Datetime)
    (matching : List (Option Datetime)) : Prop :=
  (∀ expiry ∈ matching, ∀ expiry' ∈ matching, proofExpired now expiry = proofExpired now expiry')
    ∨ (policy = .ok expiredAnswer ∧ ∀ expiry ∈ matching, ∃ expired,
        proofExpired now expiry = .ok expired)
    ∨ (policy = .error .typeError ∧ ∀ expiry ∈ matching, proofExpired now expiry ≠ .ok true)

/-- A proof compares with the clock, or raises. -/
theorem proofExpired_cases (now : Datetime) (expiry : Option Datetime) :
    proofExpired now expiry = .ok true ∨ proofExpired now expiry = .ok false
      ∨ proofExpired now expiry = .error .typeError := by
  cases hexpired : proofExpired now expiry with
  | ok expired =>
      cases expired with
      | true => exact .inl rfl
      | false => exact .inr (.inl rfl)
  | error exc =>
      refine .inr (.inr ?_)
      cases expiry with
      | none => cases hexpired
      | some expiry =>
          simp only [proofExpired, Datetime.le, Datetime.compareKeys] at hexpired
          split at hexpired
          · cases hexpired
          · cases hexpired
          · exact hexpired.symm

theorem proofAnswer_of_expired {policy : Except PyError (Bool × Option String)} {now : Datetime}
    {expiry : Option Datetime} (h : proofExpired now expiry = .ok true) :
    proofAnswer policy now expiry = .ok expiredAnswer := by
  rw [proofAnswer, h]
  rfl

theorem proofAnswer_of_unexpired {policy : Except PyError (Bool × Option String)} {now : Datetime}
    {expiry : Option Datetime} (h : Unexpired now expiry) :
    proofAnswer policy now expiry = policy := by
  rw [proofAnswer, h]
  rfl

theorem proofAnswer_of_error {policy : Except PyError (Bool × Option String)} {now : Datetime}
    {expiry : Option Datetime} (h : proofExpired now expiry = .error .typeError) :
    proofAnswer policy now expiry = .error .typeError := by
  rw [proofAnswer, h]
  rfl

/-- **AGREEMENT**: proofs give one answer exactly where they agree in this sense. -/
theorem proofAnswer_agree_iff {policy : Except PyError (Bool × Option String)} {now : Datetime}
    {matching : List (Option Datetime)} :
    (∀ expiry ∈ matching, ∀ expiry' ∈ matching,
        proofAnswer policy now expiry = proofAnswer policy now expiry')
      ↔ ProofsAgree policy now matching := by
  constructor
  · intro hsame
    by_cases hone : ∀ expiry ∈ matching, ∀ expiry' ∈ matching,
        proofExpired now expiry = proofExpired now expiry'
    · exact .inl hone
    refine .inr ?_
    by_cases hexpired : ∃ expiry ∈ matching, proofExpired now expiry = .ok true
    · -- an expired proof makes its answer that of all
      obtain ⟨old, hold, holdExpired⟩ := hexpired
      have hall : ∀ expiry ∈ matching, proofAnswer policy now expiry = .ok expiredAnswer :=
        fun expiry hmem => (hsame expiry hmem old hold).trans (proofAnswer_of_expired holdExpired)
      have hcompares : ∀ expiry ∈ matching, ∃ expired, proofExpired now expiry = .ok expired := by
        intro expiry hmem
        rcases proofExpired_cases now expiry with h | h | h
        · exact ⟨true, h⟩
        · exact ⟨false, h⟩
        · have hraised := hall expiry hmem
          rw [proofAnswer_of_error h] at hraised
          cases hraised
      refine .inl ⟨?_, hcompares⟩
      by_contra hpolicy
      refine hone fun expiry hmem expiry' hmem' => ?_
      have hdead : ∀ expiry ∈ matching, proofExpired now expiry = .ok true := by
        intro expiry hmem
        rcases proofExpired_cases now expiry with h | h | h
        · exact h
        · exact absurd ((proofAnswer_of_unexpired h).symm.trans (hall expiry hmem)) hpolicy
        · obtain ⟨expired, hcompared⟩ := hcompares expiry hmem
          rw [h] at hcompared
          cases hcompared
      rw [hdead expiry hmem, hdead expiry' hmem']
    · have hlive : ∀ expiry ∈ matching, proofExpired now expiry ≠ .ok true :=
        fun expiry hmem h => hexpired ⟨expiry, hmem, h⟩
      refine .inr ⟨?_, hlive⟩
      by_contra hpolicy
      refine hone fun expiry hmem expiry' hmem' => ?_
      have hboth := hsame expiry hmem expiry' hmem'
      rcases proofExpired_cases now expiry with h | h | h
      · exact absurd h (hlive expiry hmem)
      · rcases proofExpired_cases now expiry' with h' | h' | h'
        · exact absurd h' (hlive expiry' hmem')
        · rw [h, h']
        · rw [proofAnswer_of_unexpired h, proofAnswer_of_error h'] at hboth
          exact absurd hboth hpolicy
      · rcases proofExpired_cases now expiry' with h' | h' | h'
        · exact absurd h' (hlive expiry' hmem')
        · rw [proofAnswer_of_error h, proofAnswer_of_unexpired h'] at hboth
          exact absurd hboth.symm hpolicy
        · rw [h, h']
  · rintro (hone | ⟨hpolicy, hcompares⟩ | ⟨hpolicy, hlive⟩) expiry hmem expiry' hmem'
    · rw [proofAnswer, proofAnswer, hone expiry hmem expiry' hmem']
    · have hall : ∀ expiry ∈ matching, proofAnswer policy now expiry = .ok expiredAnswer := by
        intro expiry hmem
        obtain ⟨expired, h⟩ := hcompares expiry hmem
        cases expired with
        | true => exact proofAnswer_of_expired h
        | false => exact (proofAnswer_of_unexpired h).trans hpolicy
      rw [hall expiry hmem, hall expiry' hmem']
    · have hall : ∀ expiry ∈ matching, proofAnswer policy now expiry = .error .typeError := by
        intro expiry hmem
        rcases proofExpired_cases now expiry with h | h | h
        · exact absurd h (hlive expiry hmem)
        · exact (proofAnswer_of_unexpired h).trans hpolicy
        · exact proofAnswer_of_error h
      rw [hall expiry hmem, hall expiry' hmem']

/-- The proofs of the verified domains that match the host. -/
def matchingProofs (host : String) (allowSubdomains : Bool)
    (normalized : OrderedMap String (Option Datetime)) : List (Option Datetime) :=
  (normalized.entries.filter fun entry =>
    (coverReason host entry.1 allowSubdomains).isSome).map Prod.snd

theorem mem_matchingProofs {host : String} {allowSubdomains : Bool}
    {normalized : OrderedMap String (Option Datetime)} {expiry : Option Datetime} :
    expiry ∈ matchingProofs host allowSubdomains normalized
      ↔ ∃ entry ∈ normalized.entries, MatchesHost host allowSubdomains entry.1
          ∧ entry.2 = expiry := by
  simp only [matchingProofs, List.mem_map, List.mem_filter, Option.isSome_iff_exists,
    exists_coverReason_iff, and_assoc]

/-- The arms agree where the proofs of the matching domains do. -/
theorem domainArm_agree_iff {policy : Except PyError (Bool × Option String)} {now : Datetime}
    {host : String} {allowSubdomains : Bool} {normalized : OrderedMap String (Option Datetime)} :
    (∀ entry ∈ normalized.entries, ∀ entry' ∈ normalized.entries, ∀ a b,
        domainArm policy now host allowSubdomains entry = some a →
        domainArm policy now host allowSubdomains entry' = some b → a = b)
      ↔ ProofsAgree policy now (matchingProofs host allowSubdomains normalized) := by
  rw [← proofAnswer_agree_iff]
  constructor
  · intro h expiry hmem expiry' hmem'
    obtain ⟨entry, hentry, hmatches, rfl⟩ := mem_matchingProofs.mp hmem
    obtain ⟨entry', hentry', hmatches', rfl⟩ := mem_matchingProofs.mp hmem'
    exact h entry hentry entry' hentry' _ _ (domainArm_eq_some_iff.mpr ⟨hmatches, rfl⟩)
      (domainArm_eq_some_iff.mpr ⟨hmatches', rfl⟩)
  · intro h entry hentry entry' hentry' a b ha hb
    obtain ⟨hmatches, rfl⟩ := domainArm_eq_some_iff.mp ha
    obtain ⟨hmatches', rfl⟩ := domainArm_eq_some_iff.mp hb
    exact h _ (mem_matchingProofs.mpr ⟨entry, hentry, hmatches, rfl⟩) _
      (mem_matchingProofs.mpr ⟨entry', hentry', hmatches', rfl⟩)

/-- The answer in terms of the map as it is given: blank domains are silent. -/
theorem answerOf_match_raw {policyFile : Option PolicyFile} {payload : String}
    {domains normalized : OrderedMap String (Option Datetime)} {allowSubdomains : Bool}
    {now : Datetime} {destination : NormalizedDestination}
    (hdestination : normalizePayloadDestination py payload = .ok destination)
    (hnormalized : normalizedVerifiedDomains py domains = .ok normalized) :
    answerOf (matchPayloadToVerifiedDomains py policyFile payload domains allowSubdomains now)
      = firstAnswer (domains.entries.map fun entry => (normalizedEntry py entry).bind
          (domainArm (policyAnswer py policyFile destination) now destination.host allowSubdomains))
          (.ok (false, none)) := by
  rw [answerOf_match hdestination hnormalized, entries_normalizedVerifiedDomains hnormalized,
    firstAnswer_filterMap]

/-- **ORDER OF THE DOMAINS**: the answer is the same in every order of the map
    exactly where the matching domains agree. -/
theorem orderIndependent_iff {policyFile : Option PolicyFile} {payload : String}
    {domains normalized : OrderedMap String (Option Datetime)} {allowSubdomains : Bool}
    {now : Datetime} {destination : NormalizedDestination}
    (hdestination : normalizePayloadDestination py payload = .ok destination)
    (hnormalized : normalizedVerifiedDomains py domains = .ok normalized) :
    (∀ reordered : OrderedMap String (Option Datetime), reordered.entries.Perm domains.entries →
        answerOf (matchPayloadToVerifiedDomains py policyFile payload reordered allowSubdomains now)
          = answerOf (matchPayloadToVerifiedDomains py policyFile payload domains allowSubdomains
              now))
      ↔ ProofsAgree (policyAnswer py policyFile destination) now
          (matchingProofs destination.host allowSubdomains normalized) := by
  have hraw : ∀ reordered : OrderedMap String (Option Datetime),
      reordered.entries.Perm domains.entries →
        answerOf (matchPayloadToVerifiedDomains py policyFile payload reordered allowSubdomains now)
          = firstAnswer (reordered.entries.map fun entry => (normalizedEntry py entry).bind
              (domainArm (policyAnswer py policyFile destination) now destination.host
                allowSubdomains)) (.ok (false, none)) := by
    intro reordered hperm
    obtain ⟨normalized', hnormalized'⟩ := exists_normalized_of_perm hperm ⟨normalized, hnormalized⟩
    exact answerOf_match_raw hdestination hnormalized'
  rw [← domainArm_agree_iff, entries_normalizedVerifiedDomains hnormalized]
  constructor
  · intro hsame
    have hagree := firstAnswer_map_perm_iff.mp fun l' hl' => by
      have hnodup : (l'.map Prod.fst).Nodup := (hl'.map Prod.fst).nodup_iff.mpr domains.nodup
      have hreordered := hsame ⟨l', hnodup⟩ hl'
      rwa [hraw ⟨l', hnodup⟩ hl', hraw domains (List.Perm.refl _)] at hreordered
    intro entry hentry entry' hentry' a b ha hb
    obtain ⟨raw, hmem, hraw⟩ := List.mem_filterMap.mp hentry
    obtain ⟨raw', hmem', hraw'⟩ := List.mem_filterMap.mp hentry'
    exact hagree raw hmem raw' hmem' a b (by rw [hraw]; exact ha) (by rw [hraw']; exact hb)
  · intro hagree reordered hperm
    rw [hraw reordered hperm, hraw domains (List.Perm.refl _)]
    refine firstAnswer_map_perm_iff.mpr ?_ reordered.entries hperm
    intro raw hmem raw' hmem' a b ha hb
    obtain ⟨entry, hentry, ha⟩ := Option.bind_eq_some_iff.mp ha
    obtain ⟨entry', hentry', hb⟩ := Option.bind_eq_some_iff.mp hb
    exact hagree entry (List.mem_filterMap.mpr ⟨raw, hmem, hentry⟩) entry'
      (List.mem_filterMap.mpr ⟨raw', hmem', hentry'⟩) a b ha hb

theorem allowed_iff_answerOf {outcome : Except PyError MatchDecision} :
    (∃ decision, outcome = .ok decision ∧ decision.allowed = true)
      ↔ ∃ cause, answerOf outcome = .ok (true, cause) := by
  cases outcome with
  | error exc =>
      constructor
      · rintro ⟨decision, h, -⟩
        cases h
      · rintro ⟨cause, h⟩
        cases h
  | ok decision =>
      constructor
      · rintro ⟨decision', h, hallowed⟩
        obtain rfl := Except.ok.inj h
        exact ⟨decision.cause, congrArg Except.ok (Prod.ext hallowed rfl)⟩
      · rintro ⟨cause, h⟩
        exact ⟨decision, rfl, congrArg Prod.fst (Except.ok.inj h)⟩

/-- An answer that allows is that of the policy, under an unexpired proof. -/
theorem proofAnswer_allows_iff {policy : Except PyError (Bool × Option String)} {now : Datetime}
    {expiry : Option Datetime} {cause : Option String} :
    proofAnswer policy now expiry = .ok (true, cause)
      ↔ Unexpired now expiry ∧ policy = .ok (true, cause) := by
  rcases proofExpired_cases now expiry with h | h | h
  · rw [proofAnswer_of_expired h, Unexpired, h]
    simp [expiredAnswer]
  · rw [proofAnswer_of_unexpired h, Unexpired, h]
    simp
  · rw [proofAnswer_of_error h, Unexpired, h]
    simp

/-- **ALLOWED**: where the matching domains agree, the payload is allowed exactly
    under some unexpired proof that matches, by a policy that accepts it. -/
theorem allowed_iff_of_agree {policyFile : Option PolicyFile} {payload : String}
    {domains normalized : OrderedMap String (Option Datetime)} {allowSubdomains : Bool}
    {now : Datetime} {destination : NormalizedDestination}
    (hdestination : normalizePayloadDestination py payload = .ok destination)
    (hnormalized : normalizedVerifiedDomains py domains = .ok normalized)
    (hagree : ProofsAgree (policyAnswer py policyFile destination) now
      (matchingProofs destination.host allowSubdomains normalized)) :
    (∃ decision, matchPayloadToVerifiedDomains py policyFile payload domains allowSubdomains now
          = .ok decision ∧ decision.allowed = true)
      ↔ (∃ entry ∈ normalized.entries,
            MatchesHost destination.host allowSubdomains entry.1 ∧ Unexpired now entry.2)
          ∧ PolicyAccepts py policyFile destination := by
  rw [allowed_iff_answerOf, answerOf_match hdestination hnormalized]
  have harms := domainArm_agree_iff.mpr hagree
  constructor
  · rintro ⟨cause, hanswer⟩
    rcases firstAnswer_mem (normalized.entries.map _) (Except.ok (false, none)) with hnone | hmem
    · rw [hnone] at hanswer
      cases hanswer
    · rw [hanswer] at hmem
      obtain ⟨entry, hentry, harm⟩ := List.mem_map.mp hmem
      obtain ⟨hmatches, hproof⟩ := domainArm_eq_some_iff.mp harm
      obtain ⟨hlive, hpolicy⟩ := proofAnswer_allows_iff.mp hproof
      exact ⟨⟨entry, hentry, hmatches, hlive⟩, cause, hpolicy⟩
  · rintro ⟨⟨entry, hentry, hmatches, hlive⟩, cause, hpolicy⟩
    have harm := domainArm_eq_some_iff.mpr
      ⟨hmatches, proofAnswer_allows_iff.mpr ⟨hlive, hpolicy⟩⟩
    refine ⟨cause, firstAnswer_eq_of_agree (List.mem_map.mpr ⟨entry, hentry, harm⟩) ?_ _⟩
    intro answer hmem
    obtain ⟨entry', hentry', harm'⟩ := List.mem_map.mp hmem
    exact harms entry' hentry' entry hentry _ _ harm' harm

/-- **DOMAIN MATCHING**: the order of the verified domains does not matter, and
    the payload is allowed exactly under some unexpired proof that matches,
    exactly where all proofs that match agree. -/
theorem domainMatching_iff (py : PyRuntime) (policyFile : Option PolicyFile) (payload : String)
    (domains : OrderedMap String (Option Datetime)) (allowSubdomains : Bool) (now : Datetime) :
    DomainMatchingLaw py policyFile payload domains allowSubdomains now
      ↔ ∀ destination normalized, normalizePayloadDestination py payload = .ok destination →
          normalizedVerifiedDomains py domains = .ok normalized →
          ProofsAgree (policyAnswer py policyFile destination) now
            (matchingProofs destination.host allowSubdomains normalized) := by
  constructor
  · intro hlaw destination normalized hdestination hnormalized
    exact (orderIndependent_iff hdestination hnormalized).mp hlaw.orderIndependent
  · intro hagree
    cases hdestination : normalizePayloadDestination py payload with
    | error exc =>
        refine ⟨fun reordered hperm => ?_, ?_⟩
        · rw [answerOf_match_of_payload hdestination, answerOf_match_of_payload hdestination]
        · rw [allowed_iff_answerOf, answerOf_match_of_payload hdestination]
          constructor
          · rintro ⟨cause, h⟩
            cases hcaught : exc.asValueError <;> rw [hcaught] at h <;> cases h
          · rintro ⟨destination, normalized, h, -⟩
            rw [hdestination] at h
            cases h
    | ok destination =>
        cases hnormalized : normalizedVerifiedDomains py domains with
        | error exc =>
            refine ⟨fun reordered hperm => ?_, ?_⟩
            · cases hreordered : normalizedVerifiedDomains py reordered with
              | error exc' =>
                  rw [answerOf_match_of_domains hdestination hreordered,
                    answerOf_match_of_domains hdestination hnormalized]
              | ok normalized =>
                  obtain ⟨normalized', h⟩ :=
                    exists_normalized_of_perm hperm.symm ⟨normalized, hreordered⟩
                  rw [hnormalized] at h
                  cases h
            · rw [allowed_iff_answerOf, answerOf_match_of_domains hdestination hnormalized]
              constructor
              · rintro ⟨cause, h⟩
                cases h
              · rintro ⟨destination', normalized, -, h, -⟩
                rw [hnormalized] at h
                cases h
        | ok normalized =>
            have hproofs := hagree destination normalized hdestination hnormalized
            refine ⟨(orderIndependent_iff hdestination hnormalized).mpr hproofs, ?_⟩
            rw [allowed_iff_of_agree hdestination hnormalized hproofs]
            constructor
            · rintro ⟨hlive, hpolicy⟩
              exact ⟨destination, normalized, hdestination, hnormalized, hlive, hpolicy⟩
            · rintro ⟨destination', normalized', hdestination', hnormalized', hlive, hpolicy⟩
              rw [hdestination] at hdestination'
              obtain rfl := Except.ok.inj hdestination'
              rw [hnormalized] at hnormalized'
              obtain rfl := Except.ok.inj hnormalized'
              exact ⟨hlive, hpolicy⟩

/-! ## A host with two proofs -/

/-- A runtime that knows the URLs of one host. -/
def payHostRuntime : PyRuntime where
  lower := id
  repr := id
  reprList := fun _ => ""
  encodeIdna := .ok
  urlsplit := fun url =>
    if url = "https://pay.acme.example/" then
      .ok ⟨"https", none, none, some "pay.acme.example", .ok none, "/", ""⟩
    else .error ""
  urlparse := fun url =>
    if url = "https://pay.acme.example/" then
      .ok ⟨"https", none, none, some "pay.acme.example", .ok none, "/", ""⟩
    else .error ""
  isDigit := fun _ => false
  parseQsl := fun _ => []
  fromisoformat := fun _ => none
  loadsPemPublicKey := fun _ => true
  verifiesRsaPss := fun _ _ _ => true
  sha256 := id

/-- The host is verified, and so is its parent, whose proof has expired. -/
def overlappingDomains : OrderedMap String (Option Datetime) :=
  ⟨[("acme.example", some (.utc 0)), ("pay.acme.example", none)], by decide⟩

/-- With the expired proof of the parent before the live one of the host, the
    payload is refused; the other way round it is allowed. -/
theorem domainMatching_expired_parent :
    ¬ DomainMatchingLaw payHostRuntime none "https://pay.acme.example/" overlappingDomains true
        (.utc 1) := by
  intro hlaw
  have hswapped := hlaw.orderIndependent
    ⟨[("pay.acme.example", none), ("acme.example", some (.utc 0))], by decide⟩
    (List.Perm.swap _ _ _)
  have hboth : answerOf (matchPayloadToVerifiedDomains payHostRuntime none
        "https://pay.acme.example/" overlappingDomains true (.utc 1))
        = .ok (false, some "destination-not-authorized")
      ∧ answerOf (matchPayloadToVerifiedDomains payHostRuntime none "https://pay.acme.example/"
        ⟨[("pay.acme.example", none), ("acme.example", some (.utc 0))], by decide⟩ true (.utc 1))
        = .ok (true, none) := by
    decide +kernel
  rw [hboth.1, hboth.2] at hswapped
  cases hswapped

end PayloadRevalidation
