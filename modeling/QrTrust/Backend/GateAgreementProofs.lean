import QrTrust.Backend.PolicyActivation
import QrTrust.Lib.MergedFlags
import QrTrust.Network.PublicationGateProofs

/-! # The two gates of a destination policy

    The statement that activates a policy asks for some proof in force behind
    every host, under the subdomain flag merged over the destinations that name
    it (`activates_canonical`).  The publication gate asks for the most specific
    proof, under the flag of the first destination that allows the host
    (`publishable_canonical`).  They agree on the policies where these are the
    same questions (`gates_agree`), and not on others (`gates_differ`). -/

namespace GateAgreement

open VerifierCache PolicyDecoding PublicationGate DestinationPolicies TrustProjection
open PolicyActivation Fallible

/-! ## The same rows on both sides -/

/-- The namespace of the key of an issuer. -/
def namespaceOf (key : IssuerKey) : IssuerNamespace :=
  ⟨key.rootProgramId, key.delegatedAuthorityId, key.issuerId⟩

theorem namespaceOf_inj {key key' : IssuerKey} :
    namespaceOf key = namespaceOf key' ↔ key = key' := by
  obtain ⟨root, authority, issuer⟩ := key
  obtain ⟨root', authority', issuer'⟩ := key'
  simp [namespaceOf]

/-- The text of an enrollment status in the table. -/
def enrollmentText : DomainProof.IssuerEnrollmentStatus → String
  | .pending => "pending"
  | .active => "active"
  | .suspended => "suspended"
  | .revoked => "revoked"
  | .expired => "expired"

/-- The text of a verification status in the table. -/
def verificationText : DomainProof.DomainProofVerificationStatus → String
  | .pending => "pending"
  | .verified => "verified"
  | .failed => "failed"
  | .expired => "expired"
  | .revoked => "revoked"

theorem enrollmentText_active {status : DomainProof.IssuerEnrollmentStatus} :
    enrollmentText status = "active" ↔ status = .active := by
  cases status <;> decide

theorem verificationText_verified {status : DomainProof.DomainProofVerificationStatus} :
    verificationText status = "verified" ↔ status = .verified := by
  cases status <;> decide

/-- The enrollment that the network loads of an issuer row. -/
structure SameIssuer (row : IssuerRow) (issuer : DomainProof.IssuerEnrollmentProjection) :
    Prop where
  ns : issuer.ns = namespaceOf row.key
  status : row.enrollmentStatus = enrollmentText issuer.enrollmentStatus

/-- `domainProofRecordFromPostgresRow`: the record of a proof row, its expiry
    written as a text. -/
structure SameProof (iso : Int → String) (row : DomainProofRow)
    (record : DomainProof.DomainProofRecord) : Prop where
  ns : record.ns = namespaceOf row.issuer
  domain : record.domain = row.domain
  status : row.verificationStatus = verificationText record.verificationStatus
  expiry : record.expiresAt = row.expiresAt.map fun expiry => iso expiry.instant

/-- A destination, as a rule of the published policy. -/
def destinationRule (destination : ApprovedDestination) : DestinationPolicyRule where
  destinationId := destination.destinationId
  expectedFinalUrl := destination.expectedFinalUrl
  allowedHosts := destination.allowedHosts
  allowSubdomains := destination.allowSubdomains
  pathPrefixes := destination.pathPrefixes
  queryPolicy := destination.queryPolicy
  allowedQueryKeys := none

/-- The policy of an issuer with the given destinations. -/
structure SamePolicy (key : IssuerKey) (destinations : List ApprovedDestination)
    (policy : DestinationPolicyProjection) : Prop where
  ns : policy.ns = namespaceOf key
  rules : policy.approvedDestinations = destinations.map destinationRule

/-! ## Canonical hosts and times -/

variable {py : PyRuntime} {js : JsRuntime} {iso : Int → String}

/-- **CANONICAL HOST**: a DNS name that both sides normalise to itself, and the
    host of the URL made from it. -/
structure CanonicalHost (py : PyRuntime) (js : JsRuntime) (host : String) : Prop where
  backend : DestinationPolicies.normalizeDomain py host = .ok host
  network : normalizeHost js host = host
  boundary : DomainProof.normalizeDomain js host = host
  dns : isDnsName host = true
  parsed : ∃ url, urlForHost js host "https:" = .ok url ∧ url.hostname = host

/-- The host of the expected final URL of a destination. -/
def expectedHost (js : JsRuntime) (destination : ApprovedDestination) : String :=
  ((PublicationGate.parseExpectedFinalUrl js destination.expectedFinalUrl).map
    Url.hostname).getD ""

/-- The hosts a destination names. -/
def namedHosts (js : JsRuntime) (destination : ApprovedDestination) : List String :=
  expectedHost js destination :: destination.allowedHosts

/-- Both sides read the same https host from the expected final URL, and every
    host the destination names is canonical. -/
structure CanonicalDestination (py : PyRuntime) (js : JsRuntime)
    (destination : ApprovedDestination) : Prop where
  expected : ∃ parsed url, py.urlparse destination.expectedFinalUrl = .ok parsed
    ∧ PublicationGate.parseExpectedFinalUrl js destination.expectedFinalUrl = some url
    ∧ parsed.hostname = some url.hostname
  hosts : ∀ host ∈ namedHosts js destination, CanonicalHost py js host

/-- **CANONICAL DOMAIN**: the domain of a proof as the enrolment stores it, which
    the network leaves as it is. -/
structure CanonicalDomain (py : PyRuntime) (js : JsRuntime) (domain : String) : Prop where
  backend : DestinationCanonicalization.canonicalizeVerifiedDomain py domain = .ok domain
  boundary : DomainProof.normalizeDomain js domain = domain

/-- **ISO TEXTS**: the text of an expiry is not empty, and compares with the text
    of the time as the instants do. -/
def OrderedTexts (iso : Int → String) (rows : List DomainProofRow) (now : Int) : Prop :=
  ∀ row ∈ rows, ∀ expiry, row.expiresAt = some expiry →
    iso expiry.instant ≠ ""
      ∧ (JsString.less (iso now) (iso expiry.instant) = true ↔ now < expiry.instant)

theorem CanonicalHost.ne_empty {host : String} (h : CanonicalHost py js host) : host ≠ "" := by
  rintro rfl
  exact absurd h.dns (by decide)

/-! ## The host scopes of a policy -/

/-- The hosts of a destination with its subdomain flag. -/
def flaggedHosts (js : JsRuntime) (destination : ApprovedDestination) : List (String × Bool) :=
  (namedHosts js destination).map fun host => (host, destination.allowSubdomains)

/-- The merged flag of a host: does any destination that names it allow
    subdomains? -/
def mergedFlag (js : JsRuntime) (destinations : List ApprovedDestination) (host : String) : Bool :=
  destinations.any fun destination =>
    destination.allowSubdomains && host ∈ namedHosts js destination

/-- A host is named by one of the destinations. -/
def Named (js : JsRuntime) (destinations : List ApprovedDestination) (host : String) : Prop :=
  ∃ destination ∈ destinations, host ∈ namedHosts js destination

theorem addHostScope_canonical {scopes : OrderedMap String Bool} {flag : Bool} {host : String}
    (h : CanonicalHost py js host) :
    addHostScope py scopes flag host = .ok (MergedFlags.join scopes (host, flag)) := by
  rw [addHostScope, h.backend]
  rfl

theorem foldlM_addHostScope {flag : Bool} {hosts : List String}
    (hosts_canonical : ∀ host ∈ hosts, CanonicalHost py js host) (scopes : OrderedMap String Bool) :
    hosts.foldlM (fun scopes host => addHostScope py scopes flag host) scopes
      = .ok ((hosts.map fun host => (host, flag)).foldl MergedFlags.join scopes) := by
  induction hosts generalizing scopes with
  | nil => rfl
  | cons host hosts ih =>
      obtain ⟨hhost, hrest⟩ := List.forall_mem_cons.mp hosts_canonical
      rw [List.foldlM_cons, addHostScope_canonical hhost]
      exact ih hrest _

/-- The hosts of a canonical destination join with its flag. -/
theorem addDestinationScopes_canonical {destination : ApprovedDestination}
    (h : CanonicalDestination py js destination) (scopes : OrderedMap String Bool) :
    addDestinationScopes py scopes destination
      = .ok ((flaggedHosts js destination).foldl MergedFlags.join scopes) := by
  obtain ⟨parsed, url, hparsed, hurl, hhostname⟩ := h.expected
  have hexpected : expectedHost js destination = url.hostname := by
    rw [expectedHost, hurl]
    rfl
  obtain ⟨hhost, hallowed⟩ := List.forall_mem_cons.mp h.hosts
  rw [hexpected] at hhost
  rw [addDestinationScopes, hparsed, flaggedHosts, namedHosts, hexpected, List.map_cons,
    List.foldl_cons, ← foldlM_addHostScope hallowed]
  show (if parsed.hostname.getD "" ≠ "" then
      addHostScope py scopes destination.allowSubdomains (parsed.hostname.getD "") >>= _
    else _) = _
  rw [hhostname, Option.getD_some, if_pos hhost.ne_empty, addHostScope_canonical hhost]
  rfl

theorem foldlM_addDestinationScopes {destinations : List ApprovedDestination}
    (hcanonical : ∀ destination ∈ destinations, CanonicalDestination py js destination)
    (scopes : OrderedMap String Bool) :
    destinations.foldlM (addDestinationScopes py) scopes
      = .ok ((destinations.flatMap (flaggedHosts js)).foldl MergedFlags.join scopes) := by
  induction destinations generalizing scopes with
  | nil => rfl
  | cons destination destinations ih =>
      obtain ⟨hfirst, hrest⟩ := List.forall_mem_cons.mp hcanonical
      rw [List.foldlM_cons, addDestinationScopes_canonical hfirst, List.flatMap_cons,
        List.foldl_append]
      exact ih hrest _

theorem raised_flaggedHosts (destinations : List ApprovedDestination) (host : String) :
    MergedFlags.raised (destinations.flatMap (flaggedHosts js)) host
      = mergedFlag js destinations host := by
  apply Bool.eq_iff_iff.mpr
  rw [MergedFlags.raised, decide_eq_true_eq, mergedFlag, List.any_eq_true]
  simp only [List.mem_flatMap, flaggedHosts, List.mem_map, Prod.mk.injEq, Bool.and_eq_true,
    decide_eq_true_eq]
  constructor
  · rintro ⟨destination, hmem, host', hhost, rfl, hflag⟩
    exact ⟨destination, hmem, hflag, hhost⟩
  · rintro ⟨destination, hmem, hflag, hhost⟩
    exact ⟨destination, hmem, host, hhost, rfl, hflag⟩

/-- **SCOPES**: the scopes of a canonical policy are its named hosts, each under
    its merged flag. -/
theorem hostScopes_canonical {destinations : List ApprovedDestination}
    (hcanonical : ∀ destination ∈ destinations, CanonicalDestination py js destination) :
    ∃ scopes, destinationPolicyHostScopes py destinations = .ok scopes
      ∧ ∀ scope, scope ∈ scopes ↔ Named js destinations scope.host
          ∧ scope.allowSubdomains = mergedFlag js destinations scope.host := by
  refine ⟨_, by rw [destinationPolicyHostScopes, foldlM_addDestinationScopes hcanonical]; rfl, ?_⟩
  intro scope
  have hnamed : scope.host ∈ (destinations.flatMap (flaggedHosts js)).map Prod.fst
      ↔ Named js destinations scope.host := by
    simp only [Named, List.mem_map, List.mem_flatMap, flaggedHosts]
    constructor
    · rintro ⟨_, ⟨destination, hmem, host, hhost, rfl⟩, rfl⟩
      exact ⟨destination, hmem, hhost⟩
    · rintro ⟨destination, hmem, hhost⟩
      exact ⟨_, ⟨destination, hmem, _, hhost, rfl⟩, rfl⟩
  rw [List.mem_mergeSort, List.mem_map, ← raised_flaggedHosts, ← hnamed,
    ← MergedFlags.mem_foldl_join]
  constructor
  · rintro ⟨entry, hentry, rfl⟩
    exact hentry
  · intro hentry
    exact ⟨_, hentry, rfl⟩

/-! ## The activating statement -/

/-- What is split off keeps the other characters. -/
theorem exists_mem_splitOnP {α : Type} {p : α → Bool} {l : List α} {c : α} (hc : c ∈ l)
    (hp : p c = false) : ∃ piece ∈ l.splitOnP p, c ∈ piece := by
  induction l with
  | nil => exact absurd hc List.not_mem_nil
  | cons x xs ih =>
      rw [List.splitOnP_cons_eq_if_modifyHead]
      obtain ⟨head, tail, hsplit⟩ := List.exists_cons_of_ne_nil (List.splitOnP_ne_nil p xs)
      by_cases hx : p x = true
      · rw [if_pos hx]
        rcases List.mem_cons.mp hc with rfl | hmem
        · rw [hp] at hx
          cases hx
        · obtain ⟨piece, hpiece, hin⟩ := ih hmem
          exact ⟨piece, List.mem_cons_of_mem _ hpiece, hin⟩
      · rw [if_neg hx, hsplit, List.modifyHead_cons]
        rcases List.mem_cons.mp hc with rfl | hmem
        · exact ⟨_, List.mem_cons_self .., List.mem_cons_self ..⟩
        · obtain ⟨piece, hpiece, hin⟩ := ih hmem
          rw [hsplit] at hpiece
          rcases List.mem_cons.mp hpiece with rfl | htail
          · exact ⟨_, List.mem_cons_self .., List.mem_cons_of_mem _ hin⟩
          · exact ⟨piece, List.mem_cons_of_mem _ htail, hin⟩

/-- A canonical domain has no pattern characters. -/
theorem CanonicalDomain.plain {domain : String} (h : CanonicalDomain py js domain) :
    LikePattern.Plain domain.toList := by
  have hbackend := h.backend
  rw [DestinationCanonicalization.canonicalizeVerifiedDomain] at hbackend
  have hlabels : (domain.toList.splitOn '.').all DestinationCanonicalization.isDnsLabel = true := by
    dsimp only at hbackend
    split at hbackend
    · cases hbackend
    · obtain ⟨host, -, hhost⟩ := bind_eq_ok_iff.mp hbackend
      split at hhost
      · cases hhost
      · rename_i hvalid
        obtain rfl := Except.ok.inj hhost
        rw [Bool.or_eq_true, not_or, Bool.not_eq_true', Bool.not_eq_false] at hvalid
        exact hvalid.2
  intro c hc hmeta
  have hdot : (c == '.') = false := by
    simp only [List.mem_cons, List.not_mem_nil, or_false] at hmeta
    rcases hmeta with rfl | rfl | rfl <;> decide
  obtain ⟨label, hlabel, hin⟩ := @exists_mem_splitOnP Char (fun x => x == '.') _ c hc hdot
  have hdns := List.all_eq_true.mp hlabels label hlabel
  rw [DestinationCanonicalization.isDnsLabel, Bool.and_eq_true] at hdns
  have hchar := List.all_eq_true.mp hdns.2 c hin
  simp only [List.mem_cons, List.not_mem_nil, or_false] at hmeta
  rcases hmeta with rfl | rfl | rfl <;> exact absurd hchar (by decide)

/-- A proof covers a scope as the network has it cover a host under the flag. -/
theorem proofCoversHost_iff {row : DomainProofRow} {scope : HostScope}
    (h : CanonicalDomain py js row.domain) :
    proofCoversHost row scope = true
      ↔ DomainProof.hostMatches scope.allowSubdomains row.domain scope.host = true := by
  rw [proofCoversHost, DomainProof.hostMatches, Bool.or_eq_true, Bool.or_eq_true,
    Bool.and_eq_true, Bool.and_eq_true, underDomain_iff h.plain, decide_eq_true_eq,
    decide_eq_true_eq, eq_comm]

/-- **STATEMENT**: a canonical policy becomes active when the issuer is, and every
    named host has a proof in force under its merged flag. -/
theorem activates_canonical {issuers : List IssuerRow} {rows : List DomainProofRow}
    {key : IssuerKey} {now : Int} {destinations : List ApprovedDestination}
    (hcanonical : ∀ destination ∈ destinations, CanonicalDestination py js destination)
    (hdomains : ∀ row ∈ rows, CanonicalDomain py js row.domain) :
    (∃ scopes, destinationPolicyHostScopes py destinations = .ok scopes
        ∧ activates issuers rows key now scopes = true)
      ↔ issuerOk issuers key = true
        ∧ ∀ host, Named js destinations host → ∃ row ∈ rows, row.issuer = key
            ∧ proofInForce now row = true
            ∧ DomainProof.hostMatches (mergedFlag js destinations host) row.domain host = true := by
  obtain ⟨scopes, hscopes, hmem⟩ := hostScopes_canonical hcanonical
  constructor
  · rintro ⟨scopes', hscopes', hactivates⟩
    obtain rfl := Except.ok.inj (hscopes.symm.trans hscopes')
    obtain ⟨hissuer, hcovered⟩ := activates_iff.mp hactivates
    refine ⟨hissuer, fun host hnamed => ?_⟩
    obtain ⟨row, hrow, hkey, hforce, hcovers⟩ :=
      hcovered ⟨host, mergedFlag js destinations host⟩ ((hmem _).mpr ⟨hnamed, rfl⟩)
    exact ⟨row, hrow, hkey, hforce, (proofCoversHost_iff (hdomains row hrow)).mp hcovers⟩
  · rintro ⟨hissuer, hcovered⟩
    refine ⟨scopes, hscopes, activates_iff.mpr ⟨hissuer, fun scope hscope => ?_⟩⟩
    obtain ⟨hnamed, hflag⟩ := (hmem scope).mp hscope
    obtain ⟨row, hrow, hkey, hforce, hcovers⟩ := hcovered scope.host hnamed
    refine ⟨row, hrow, hkey, hforce, (proofCoversHost_iff (hdomains row hrow)).mpr ?_⟩
    rw [hflag]
    exact hcovers

/-! ## The publication gate -/

theorem effective_verified_iff {record : DomainProof.DomainProofRecord} {observedAt : String} :
    DomainProof.effectiveDomainControlStatus record observedAt = .verified
      ↔ DomainProof.HoldsAt record observedAt := by
  constructor
  · exact DomainProof.holdsAt_of_effective
  · rintro ⟨hverified, hexpiry⟩
    rw [DomainProof.effectiveDomainControlStatus, if_neg, hverified]
    rintro ⟨-, hexpired⟩
    cases hsome : JsString.truthy record.expiresAt with
    | none =>
        rw [hsome] at hexpired
        cases hexpired
    | some expiry =>
        rw [hsome, Option.any_some, hexpiry expiry hsome] at hexpired
        cases hexpired

/-- What the gate asks the boundary about a host. -/
def hostInput (input : GateInput) (host : String) : DomainProof.DomainProofBoundaryInput where
  issuer := input.issuer
  destinationPolicy := input.destinationPolicy
  domainProofs := input.domainProofs
  destinationUrl := plainUrl host "/"
  observedAt := input.observedAt

/-- The most specific of the issuer's proofs that cover the host under the rule. -/
def topProof (js : JsRuntime) (input : GateInput) (rule : DestinationPolicyRule)
    (host : String) : Option DomainProof.DomainProofRecord :=
  DomainProof.mostSpecificDomainProof js (hostInput input host) rule host

/-- The rule that decides a host: the first one that allows it. -/
def decidingRule (js : JsRuntime) (input : GateInput) (host : String) :
    Option DestinationPolicyRule :=
  DomainProof.matchingDestinationRule js input.destinationPolicy.approvedDestinations host

/-- **HOST VERIFIED**: the top proof of the host under its deciding rule holds. -/
def HostVerified (js : JsRuntime) (input : GateInput) (host : String) : Prop :=
  ∃ rule, decidingRule js input host = some rule
    ∧ ∃ proof, topProof js input rule host = some proof
      ∧ DomainProof.HoldsAt proof input.observedAt

/-- A supported binding says that the domain control is verified. -/
theorem verified_of_supportsBinding {input : DomainProof.DomainProofBoundaryInput}
    (h : (DomainProof.evaluateDomainProofBoundary js input).supportsBinding = true) :
    (DomainProof.evaluateDomainProofBoundary js input).domainControl = .proof .verified := by
  rw [DomainProof.evaluateDomainProofBoundary] at h ⊢
  split
  · rename_i hinactive
    rw [if_pos hinactive] at h
    cases h
  · rename_i hactive
    rw [if_neg hactive] at h
    dsimp only at h ⊢
    split
    · rename_i hrule
      rw [hrule] at h
      cases h
    · rename_i rule hrule
      rw [hrule] at h
      dsimp only at h ⊢
      split
      · rename_i hproof
        rw [hproof] at h
        cases h
      · rename_i proof hproof
        rw [hproof] at h
        exact congrArg _ (of_decide_eq_true h)

/-- **BOUNDARY**: a binding is supported when the issuer is active and the top
    proof under the rule that decides the host holds. -/
theorem supportsBinding_iff {input : DomainProof.DomainProofBoundaryInput} {host : String}
    (hhost : DomainProof.normalizeDomain js input.destinationUrl.hostname = host) :
    (DomainProof.evaluateDomainProofBoundary js input).supportsBinding = true
      ↔ input.issuer.enrollmentStatus = .active
        ∧ ∃ rule, DomainProof.matchingDestinationRule js
            input.destinationPolicy.approvedDestinations host = some rule
          ∧ ∃ proof, DomainProof.mostSpecificDomainProof js input rule host = some proof
            ∧ DomainProof.HoldsAt proof input.observedAt := by
  rw [DomainProof.evaluateDomainProofBoundary]
  split
  · rename_i hinactive
    constructor
    · intro h; cases h
    · rintro ⟨h, -⟩; exact absurd h hinactive
  · rename_i hactive
    dsimp only
    rw [hhost]
    split
    · rename_i hrule
      constructor
      · intro h; cases h
      · rintro ⟨-, rule, hsome, -⟩
        rw [hrule] at hsome
        cases hsome
    · rename_i rule hrule
      split
      · rename_i hproof
        constructor
        · intro h; cases h
        · rintro ⟨-, rule', hsome, proof, hsome', -⟩
          obtain rfl := Option.some.inj (hrule.symm.trans hsome)
          rw [hproof] at hsome'
          cases hsome'
      · rename_i proof hproof
        constructor
        · intro h
          exact ⟨not_not.mp hactive, rule, hrule, proof, hproof,
            effective_verified_iff.mp (of_decide_eq_true h)⟩
        · rintro ⟨-, rule', hsome, proof', hsome', hholds⟩
          obtain rfl := Option.some.inj (hrule.symm.trans hsome)
          obtain rfl := Option.some.inj (hproof.symm.trans hsome')
          exact decide_eq_true (effective_verified_iff.mpr hholds)

/-- A host is publishable when the issuer is active and the host verified. -/
theorem evaluateHostPublication_iff {input : GateInput} {destinationId host : String} {url : Url}
    (hhost : DomainProof.normalizeDomain js url.hostname = host) :
    (evaluateHostPublication js input destinationId url).publishable = true
      ↔ input.issuer.enrollmentStatus = .active ∧ HostVerified js input host := by
  have hboundary := @supportsBinding_iff js
    ⟨input.issuer, input.destinationPolicy, input.domainProofs, url, input.observedAt⟩ host hhost
  constructor
  · intro h
    exact hboundary.mp (Bool.and_eq_true .. ▸ h).1
  · intro h
    have hsupports := hboundary.mpr h
    exact (Bool.and_eq_true ..).mpr
      ⟨hsupports, decide_eq_true (verified_of_supportsBinding hsupports)⟩

/-- Steps that all succeed succeed together. -/
theorem exists_mapM_eq_ok {ε α β : Type} {f : α → Except ε β} {l : List α}
    (h : ∀ a ∈ l, ∃ b, f a = .ok b) : ∃ r, l.mapM f = .ok r := by
  induction l with
  | nil => exact ⟨[], rfl⟩
  | cons a rest ih =>
      obtain ⟨⟨b, hb⟩, hrest⟩ := List.forall_mem_cons.mp h
      obtain ⟨r, hr⟩ := ih hrest
      exact ⟨b :: r, mapM_eq_ok_iff.mpr (.cons hb (mapM_eq_ok_iff.mp hr))⟩

/-- The hosts the gate evaluates of a canonical destination are those it names. -/
theorem mem_destinationHostCandidates {destination : ApprovedDestination} {url : Url}
    (h : CanonicalDestination py js destination)
    (hurl : PublicationGate.parseExpectedFinalUrl js destination.expectedFinalUrl = some url)
    {host : String} :
    host ∈ destinationHostCandidates js (destinationRule destination) url
      ↔ host ∈ namedHosts js destination := by
  have hexpected : expectedHost js destination = url.hostname := by
    rw [expectedHost, hurl]
    rfl
  have hallowed : destination.allowedHosts.map (normalizeHost js) = destination.allowedHosts := by
    have hnormal : ∀ allowed ∈ destination.allowedHosts, normalizeHost js allowed = id allowed :=
      fun allowed hallowed => (h.hosts allowed (List.mem_cons_of_mem _ hallowed)).network
    rw [List.map_congr_left hnormal, List.map_id]
  rw [destinationHostCandidates, mem_uniqueStrings]
  show host ∈ url.hostname :: destination.allowedHosts.map (normalizeHost js) ∧ host ≠ "" ↔ _
  rw [hallowed, ← hexpected]
  constructor
  · exact fun hmem => hmem.1
  · exact fun hmem => ⟨hmem, (h.hosts host hmem).ne_empty⟩

/-- **RULE**: a canonical destination is publishable when the issuer is active and
    every host it names is verified. -/
theorem evaluateRulePublication_canonical {input : GateInput} {destination : ApprovedDestination}
    (h : CanonicalDestination py js destination) :
    ∃ decision, evaluateRulePublication js input (destinationRule destination) = .ok decision
      ∧ (decision.publishable = true ↔ ∀ host ∈ namedHosts js destination,
          input.issuer.enrollmentStatus = .active ∧ HostVerified js input host) := by
  obtain ⟨-, url, -, hurl, -⟩ := h.expected
  have hprotocol : url.protocol = "https:" := by
    obtain ⟨-, hall⟩ := Option.filter_eq_some_iff.mp hurl
    rw [Bool.and_eq_true, Bool.and_eq_true] at hall
    exact of_decide_eq_true hall.1.1
  have hcandidates := fun host => @mem_destinationHostCandidates py js destination url h hurl host
  have hvalid : ¬ (destinationHostCandidates js (destinationRule destination) url).any
      (fun host => !isDnsHostname js host) = true := by
    intro hany
    obtain ⟨host, hmem, hinvalid⟩ := List.any_eq_true.mp hany
    have hhost := h.hosts host ((hcandidates host).mp hmem)
    rw [isDnsHostname, hhost.network, hhost.dns] at hinvalid
    cases hinvalid
  obtain ⟨hostUrls, hurls⟩ := exists_mapM_eq_ok
    (l := destinationHostCandidates js (destinationRule destination) url)
    (f := fun host => urlForHost js host "https:") fun host hmem => by
      obtain ⟨hostUrl, hparsed, -⟩ := (h.hosts host ((hcandidates host).mp hmem)).parsed
      exact ⟨hostUrl, hparsed⟩
  -- the URL of a host the gate evaluates has that very host
  have hhostOf : ∀ host ∈ namedHosts js destination, ∀ hostUrl,
      urlForHost js host "https:" = .ok hostUrl →
      DomainProof.normalizeDomain js hostUrl.hostname = host := by
    intro host hnamed hostUrl hparse
    obtain ⟨hostUrl', hparsed, hhostname⟩ := (h.hosts host hnamed).parsed
    obtain rfl := Except.ok.inj (hparse.symm.trans hparsed)
    rw [hhostname]
    exact (h.hosts host hnamed).boundary
  have hurl' : PublicationGate.parseExpectedFinalUrl js
      (destinationRule destination).expectedFinalUrl = some url := hurl
  rw [evaluateRulePublication, hurl']
  dsimp only
  rw [if_neg hvalid, hprotocol, hurls]
  refine ⟨_, rfl, ?_⟩
  dsimp only
  rw [Bool.and_eq_true, List.all_eq_true, decide_eq_true_eq]
  constructor
  · rintro ⟨-, hall⟩ host hnamed
    obtain ⟨hostUrl, hmem, hparse⟩ := exists_of_mapM_eq_ok hurls ((hcandidates host).mpr hnamed)
    exact (evaluateHostPublication_iff (hhostOf host hnamed hostUrl hparse)).mp
      (hall _ (List.mem_map.mpr ⟨hostUrl, hmem, rfl⟩))
  · intro hall
    constructor
    · intro hnil
      obtain ⟨hostUrl, hmem, -⟩ := exists_of_mapM_eq_ok hurls
        ((hcandidates _).mpr (List.mem_cons_self ..))
      rw [List.map_eq_nil_iff.mp hnil] at hmem
      cases hmem
    · intro decision hdecision
      obtain ⟨hostUrl, hmem, rfl⟩ := List.mem_map.mp hdecision
      obtain ⟨host, hcandidate, hparse⟩ := exists_source_of_mapM_eq_ok hurls hmem
      have hnamed := (hcandidates host).mp hcandidate
      exact (evaluateHostPublication_iff (hhostOf host hnamed hostUrl hparse)).mpr
        (hall host hnamed)

/-- **GATE**: a canonical policy of the issuer is publishable when the issuer is
    active and every named host is verified. -/
theorem publishable_canonical {input : GateInput} {destinations : List ApprovedDestination}
    (hcanonical : ∀ destination ∈ destinations, CanonicalDestination py js destination)
    (hns : input.issuer.ns = input.destinationPolicy.ns)
    (hrules : input.destinationPolicy.approvedDestinations = destinations.map destinationRule)
    (hne : destinations ≠ []) :
    Publishable js input
      ↔ input.issuer.enrollmentStatus = .active
        ∧ ∀ host, Named js destinations host → HostVerified js input host := by
  obtain ⟨ruleDecisions, hdecisions⟩ := exists_mapM_eq_ok
    (l := input.destinationPolicy.approvedDestinations) (f := evaluateRulePublication js input)
    fun rule hrule => by
      rw [hrules] at hrule
      obtain ⟨destination, hmem, rfl⟩ := List.mem_map.mp hrule
      obtain ⟨decision, hdecision, -⟩ := evaluateRulePublication_canonical (hcanonical _ hmem)
      exact ⟨decision, hdecision⟩
  -- each destination has its decision among those of the rules, and the other way around
  have hrule : ∀ destination ∈ destinations, ∀ decision,
      evaluateRulePublication js input (destinationRule destination) = .ok decision →
      (decision.publishable = true ↔ ∀ host ∈ namedHosts js destination,
        input.issuer.enrollmentStatus = .active ∧ HostVerified js input host) := by
    intro destination hmem decision hdecision
    obtain ⟨decision', hdecision', hiff⟩ :=
      @evaluateRulePublication_canonical py js input _ (hcanonical _ hmem)
    obtain rfl := Except.ok.inj (hdecision.symm.trans hdecision')
    exact hiff
  have hrulesNe : input.destinationPolicy.approvedDestinations ≠ [] := by
    rw [hrules]
    exact fun hnil => hne (List.map_eq_nil_iff.mp hnil)
  rw [Publishable, evaluateDestinationPolicyPublicationGate, if_neg (not_not.mpr hns),
    if_neg hrulesNe, hdecisions]
  constructor
  · rintro ⟨decision, hdecision, hpublishable⟩
    obtain rfl := Except.ok.inj hdecision
    have hall := List.all_eq_true.mp (Bool.and_eq_true .. ▸ hpublishable).2
    have hverified : ∀ destination ∈ destinations, ∀ host ∈ namedHosts js destination,
        input.issuer.enrollmentStatus = .active ∧ HostVerified js input host := by
      intro destination hmem
      obtain ⟨decision, hlisted, heval⟩ := exists_of_mapM_eq_ok hdecisions
        (hrules ▸ List.mem_map_of_mem hmem)
      exact (hrule destination hmem decision heval).mp (hall decision hlisted)
    obtain ⟨first, rest, rfl⟩ := List.exists_cons_of_ne_nil hne
    refine ⟨(hverified first (List.mem_cons_self ..) _ (List.mem_cons_self ..)).1, ?_⟩
    rintro host ⟨destination, hmem, hnamed⟩
    exact (hverified destination hmem host hnamed).2
  · rintro ⟨hactive, hverified⟩
    refine ⟨_, rfl, (Bool.and_eq_true ..).mpr ⟨decide_eq_true ?_, List.all_eq_true.mpr ?_⟩⟩
    · intro hnil
      obtain ⟨rule, rest, hcons⟩ := List.exists_cons_of_ne_nil hrulesNe
      obtain ⟨decision, hlisted, -⟩ := exists_of_mapM_eq_ok hdecisions
        (hcons ▸ List.mem_cons_self ..)
      rw [hnil] at hlisted
      cases hlisted
    · intro decision hlisted
      obtain ⟨rule, hmem, heval⟩ := exists_source_of_mapM_eq_ok hdecisions hlisted
      rw [hrules] at hmem
      obtain ⟨destination, hdestination, rfl⟩ := List.mem_map.mp hmem
      exact (hrule destination hdestination decision heval).mpr fun host hnamed =>
        ⟨hactive, hverified host ⟨destination, hdestination, hnamed⟩⟩

/-! ## The same question -/

/-- **SAME STATE**: an issuer row of the table, proof rows and destinations on the
    one side, the records and the policy that the network has of them on the
    other; hosts, domains and times in their canonical forms. -/
structure SameState (py : PyRuntime) (js : JsRuntime) (iso : Int → String)
    (issuers : List IssuerRow) (row : IssuerRow) (rows : List DomainProofRow)
    (destinations : List ApprovedDestination) (now : Int) (input : GateInput) : Prop where
  listed : row ∈ issuers
  unique : (issuers.map IssuerRow.key).Nodup
  issuer : SameIssuer row input.issuer
  proofs : List.Forall₂ (SameProof iso) rows input.domainProofs
  policy : SamePolicy row.key destinations input.destinationPolicy
  time : input.observedAt = iso now
  texts : OrderedTexts iso rows now
  destinations_ne : destinations ≠ []
  hosts : ∀ destination ∈ destinations, CanonicalDestination py js destination
  domains : ∀ row ∈ rows, CanonicalDomain py js row.domain

/-- **ALIGNED**: some rule allows the host of every expected URL, the rule that
    decides a named host has the merged flag of the host, and no proof that holds
    stands behind a top proof that does not. -/
structure Aligned (js : JsRuntime) (destinations : List ApprovedDestination)
    (input : GateInput) : Prop where
  approved : ∀ destination ∈ destinations,
    (decidingRule js input (expectedHost js destination)).isSome = true
  flags : ∀ host rule, Named js destinations host → decidingRule js input host = some rule →
    rule.allowSubdomains = mergedFlag js destinations host
  ranked : ∀ host rule, Named js destinations host → decidingRule js input host = some rule →
    ∀ proof ∈ input.domainProofs, proof.ns = input.issuer.ns →
      DomainProof.proofCoversDestination js rule proof.domain host = true →
      DomainProof.HoldsAt proof input.observedAt →
      ∀ top, topProof js input rule host = some top →
        DomainProof.HoldsAt top input.observedAt

/-- Does the statement make the policy active under its host scopes? -/
def Activates (py : PyRuntime) (issuers : List IssuerRow) (rows : List DomainProofRow)
    (key : IssuerKey) (destinations : List ApprovedDestination) (now : Int) : Prop :=
  ∃ scopes, destinationPolicyHostScopes py destinations = .ok scopes
    ∧ activates issuers rows key now scopes = true

section Agreement

variable {issuers : List IssuerRow} {row : IssuerRow} {rows : List DomainProofRow}
  {destinations : List ApprovedDestination} {now : Int} {input : GateInput}

theorem issuerOk_iff (h : SameState py js iso issuers row rows destinations now input) :
    issuerOk issuers row.key = true ↔ input.issuer.enrollmentStatus = .active := by
  rw [← enrollmentText_active, ← h.issuer.status, issuerOk, List.any_eq_true]
  constructor
  · rintro ⟨row', hlisted, hrow'⟩
    rw [Bool.and_eq_true, decide_eq_true_eq, decide_eq_true_eq] at hrow'
    obtain rfl := List.inj_on_of_nodup_map h.unique hlisted h.listed hrow'.1
    exact hrow'.2
  · intro hactive
    exact ⟨row, h.listed, by simp [hactive]⟩

/-- A row is in force when its record holds. -/
theorem proofInForce_iff {proofRow : DomainProofRow} {record : DomainProof.DomainProofRecord}
    (htexts : OrderedTexts iso rows now) (hrow : proofRow ∈ rows)
    (h : SameProof iso proofRow record) :
    proofInForce now proofRow = true ↔ DomainProof.HoldsAt record (iso now) := by
  rw [proofInForce, Bool.and_eq_true, DomainProofRow.verified, decide_eq_true_eq, h.status,
    verificationText_verified, DomainProof.HoldsAt, h.expiry]
  cases hexpiry : proofRow.expiresAt with
  | none =>
      refine and_congr_right fun _ => ⟨fun _ expiry hsome => ?_, fun _ => rfl⟩
      cases hsome
  | some expiry =>
      obtain ⟨hne, hless⟩ := htexts proofRow hrow expiry hexpiry
      rw [Option.map_some, Option.all_some, decide_eq_true_eq, ← hless]
      have htruthy : JsString.truthy (some (iso expiry.instant)) = some (iso expiry.instant) := by
        rw [JsString.truthy, Option.filter_some, if_pos (decide_eq_true hne)]
      rw [htruthy]
      refine and_congr_right fun _ => ⟨fun hlt expiry' hsome => ?_, fun hall => hall _ rfl⟩
      obtain rfl := Option.some.inj hsome
      exact hlt

/-- A top proof is one of the issuer's proofs, and covers the host. -/
theorem topProof_mem {rule : DestinationPolicyRule} {host : String}
    {proof : DomainProof.DomainProofRecord} (h : topProof js input rule host = some proof) :
    proof ∈ input.domainProofs ∧ proof.ns = input.issuer.ns
      ∧ DomainProof.proofCoversDestination js rule proof.domain host = true := by
  have hmem := List.mem_of_head? h
  rw [List.mem_insertionSort, List.mem_filter, List.mem_filter] at hmem
  obtain ⟨⟨hlisted, hns⟩, hcovers⟩ := hmem
  exact ⟨hlisted, of_decide_eq_true hns, hcovers⟩

/-- Where a proof of the issuer covers the host, there is a top proof. -/
theorem exists_topProof {rule : DestinationPolicyRule} {host : String}
    {proof : DomainProof.DomainProofRecord} (hmem : proof ∈ input.domainProofs)
    (hns : proof.ns = input.issuer.ns)
    (hcovers : DomainProof.proofCoversDestination js rule proof.domain host = true) :
    ∃ top, topProof js input rule host = some top := by
  cases htop : topProof js input rule host with
  | some top => exact ⟨top, rfl⟩
  | none =>
      rw [topProof, DomainProof.mostSpecificDomainProof, List.head?_eq_none_iff] at htop
      have hlisted : proof ∈ (input.domainProofs.filter fun proof =>
          proof.ns = input.issuer.ns).filter fun proof =>
            DomainProof.proofCoversDestination js rule proof.domain host :=
        List.mem_filter.mpr ⟨List.mem_filter.mpr ⟨hmem, decide_eq_true hns⟩, hcovers⟩
      exact absurd ((List.mem_insertionSort ..).mpr hlisted) (htop ▸ List.not_mem_nil)

/-- Every named host of an aligned policy has a rule that decides it: its own
    destination does, if none before. -/
theorem exists_decidingRule (h : SameState py js iso issuers row rows destinations now input)
    (haligned : Aligned js destinations input) {host : String}
    (hnamed : Named js destinations host) : ∃ rule, decidingRule js input host = some rule := by
  obtain ⟨destination, hmem, hhost⟩ := hnamed
  rcases List.mem_cons.mp hhost with rfl | hallowed
  · exact Option.isSome_iff_exists.mp (haligned.approved destination hmem)
  · have hcanonical := ((h.hosts destination hmem).hosts host hhost).boundary
    cases hrule : decidingRule js input host with
    | some rule => exact ⟨rule, rfl⟩
    | none =>
        rw [decidingRule, DomainProof.matchingDestinationRule, List.find?_eq_none] at hrule
        refine absurd ?_ (hrule (destinationRule destination)
          (h.policy.rules ▸ List.mem_map_of_mem hmem))
        refine List.any_eq_true.mpr ⟨host, hallowed, ?_⟩
        rw [DomainProof.hostMatchesAllowedHost, hcanonical, DomainProof.hostMatches,
          decide_eq_true rfl, Bool.true_or]

/-- What lists match element by element, each element has its match. -/
theorem exists_of_forall₂ {α β : Type} {R : α → β → Prop} {l : List α} {r : List β}
    (h : List.Forall₂ R l r) {a : α} (ha : a ∈ l) : ∃ b ∈ r, R a b := by
  induction h with
  | nil => exact absurd ha List.not_mem_nil
  | cons hab _ ih =>
      rcases List.mem_cons.mp ha with rfl | hmem
      · exact ⟨_, List.mem_cons_self .., hab⟩
      · obtain ⟨b, hb, hR⟩ := ih hmem
        exact ⟨b, List.mem_cons_of_mem _ hb, hR⟩

/-- A record covers a host under a rule as its row does under the flag. -/
theorem covers_iff {proofRow : DomainProofRow} {record : DomainProof.DomainProofRecord}
    (hdomain : CanonicalDomain py js proofRow.domain) (h : SameProof iso proofRow record)
    {rule : DestinationPolicyRule} {host : String} :
    DomainProof.proofCoversDestination js rule record.domain host = true
      ↔ DomainProof.hostMatches rule.allowSubdomains proofRow.domain host = true := by
  rw [DomainProof.proofCoversDestination, h.domain, hdomain.boundary]

/-- **HOST**: a named host of an aligned policy is verified when a row of the
    issuer in force covers it under the merged flag. -/
theorem hostVerified_iff (h : SameState py js iso issuers row rows destinations now input)
    (haligned : Aligned js destinations input) {host : String}
    (hnamed : Named js destinations host) :
    HostVerified js input host ↔ ∃ proofRow ∈ rows, proofRow.issuer = row.key
      ∧ proofInForce now proofRow = true
      ∧ DomainProof.hostMatches (mergedFlag js destinations host) proofRow.domain host = true := by
  obtain ⟨rule, hrule⟩ := exists_decidingRule h haligned hnamed
  rw [← haligned.flags host rule hnamed hrule]
  constructor
  · rintro ⟨rule', hrule', top, htop, hholds⟩
    obtain rfl := Option.some.inj (hrule.symm.trans hrule')
    obtain ⟨hmem, hns, hcovers⟩ := topProof_mem htop
    obtain ⟨proofRow, hrow, hsame⟩ := exists_of_forall₂ h.proofs.flip hmem
    refine ⟨proofRow, hrow, ?_, ?_, (covers_iff (h.domains _ hrow) hsame).mp hcovers⟩
    · rw [← namespaceOf_inj, ← hsame.ns, hns, h.issuer.ns]
    · rw [h.time] at hholds
      exact (proofInForce_iff h.texts hrow hsame).mpr hholds
  · rintro ⟨proofRow, hrow, hkey, hforce, hmatches⟩
    obtain ⟨record, hmem, hsame⟩ := exists_of_forall₂ h.proofs hrow
    have hns : record.ns = input.issuer.ns := by rw [hsame.ns, hkey, h.issuer.ns]
    have hcovers : DomainProof.proofCoversDestination js rule record.domain host = true :=
      (covers_iff (h.domains _ hrow) hsame).mpr hmatches
    have hholds : DomainProof.HoldsAt record input.observedAt := by
      rw [h.time]
      exact (proofInForce_iff h.texts hrow hsame).mp hforce
    obtain ⟨top, htop⟩ := exists_topProof hmem hns hcovers
    exact ⟨rule, hrule, top, htop,
      haligned.ranked host rule hnamed hrule record hmem hns hcovers hholds top htop⟩

/-- **AGREEMENT**: an aligned policy becomes active when the network finds it
    publishable, and only then. -/
theorem gates_agree (py : PyRuntime) (js : JsRuntime) (iso : Int → String)
    (issuers : List IssuerRow) (row : IssuerRow) (rows : List DomainProofRow)
    (destinations : List ApprovedDestination) (now : Int) (input : GateInput)
    (h : SameState py js iso issuers row rows destinations now input)
    (haligned : Aligned js destinations input) :
    Activates py issuers rows row.key destinations now ↔ Publishable js input := by
  have hns : input.issuer.ns = input.destinationPolicy.ns := by
    rw [h.issuer.ns, h.policy.ns]
  rw [Activates, activates_canonical h.hosts h.domains, issuerOk_iff h,
    publishable_canonical h.hosts hns h.policy.rules h.destinations_ne]
  refine and_congr_right fun _ => forall_congr' fun host => ?_
  constructor
  · intro hrows hnamed
    exact (hostVerified_iff h haligned hnamed).mpr (hrows hnamed)
  · intro hverified hnamed
    exact (hostVerified_iff h haligned hnamed).mp (hverified hnamed)

end Agreement

/-! ## Policies the gates tell apart -/

/-- A backend that parses the URLs of two hosts. -/
def samplePy : PyRuntime where
  lower := fun text => text
  repr := fun text => text
  reprList := fun _ => ""
  encodeIdna := .ok
  urlsplit := fun _ => .error ""
  urlparse := fun url =>
    if url = "https://acme.example/" then
      .ok ⟨"https", none, none, some "acme.example", .ok none, "/", ""⟩
    else if url = "https://pay.acme.example/" then
      .ok ⟨"https", none, none, some "pay.acme.example", .ok none, "/", ""⟩
    else .error ""
  isDigit := fun _ => false
  parseQsl := fun _ => []
  fromisoformat := fun _ => none
  loadsPemPublicKey := fun _ => true
  verifiesRsaPss := fun _ _ _ => true
  sha256 := fun _ => ""

/-- The texts of two instants. -/
def sampleIso (instant : Int) : String :=
  if instant ≤ 0 then "2026-06-01T00:00:00.000Z" else "2027-01-01T00:00:00.000Z"

/-- The key of the sample issuer. -/
def sampleKey : IssuerKey := ⟨"root:demo", "authority:demo", "issuer:acme"⟩

/-- An active issuer. -/
def sampleRow : IssuerRow where
  key := sampleKey
  displayName := "Acme"
  enrollmentStatus := "active"
  allowSubdomains := false
  expiresAt := none
  createdAt := .utc 0

/-- A proof row of the sample issuer that expires later. -/
def sampleProofRow (domain : String) (status : DomainProof.DomainProofVerificationStatus) :
    DomainProofRow :=
  ⟨sampleKey, domain, verificationText status, some (.utc 1)⟩

/-- A destination for a host, its URL on another. -/
def destinationFor (urlHost allowedHost : String) (allowSubdomains : Bool) :
    ApprovedDestination where
  destinationId := "dest:acme"
  expectedFinalUrl := "https://" ++ urlHost ++ "/"
  allowedHosts := [allowedHost]
  allowSubdomains := allowSubdomains
  pathPrefixes := []
  queryPolicy := "none"

/-- The network's view of the sample issuer with the given proofs and policy. -/
def networkView (proofs : List (String × DomainProof.DomainProofVerificationStatus))
    (destinations : List ApprovedDestination) : GateInput where
  issuer := ⟨namespaceOf sampleKey, .active⟩
  destinationPolicy :=
    { samplePolicy [] with approvedDestinations := destinations.map destinationRule }
  domainProofs := proofs.map fun proof =>
    ⟨namespaceOf sampleKey, proof.1, .dnsTxt, proof.2, some (sampleIso 1)⟩
  observedAt := sampleIso 0

/-- The hosts of the sample. -/
def sampleHosts : List String := ["acme.example", "pay.acme.example"]

theorem canonicalHost_sample {host : String} (h : host ∈ sampleHosts) :
    CanonicalHost samplePy sampleRuntime host := by
  rcases List.mem_cons.mp h with rfl | hpay
  · exact ⟨by decide, by decide, by decide, by decide, plainUrl "acme.example" "/", rfl, rfl⟩
  · obtain rfl := List.mem_singleton.mp hpay
    exact ⟨by decide, by decide, by decide, by decide, plainUrl "pay.acme.example" "/", rfl, rfl⟩

theorem canonicalDestination_sample {urlHost allowedHost : String} (hurl : urlHost ∈ sampleHosts)
    (hallowed : allowedHost ∈ sampleHosts) (flag : Bool) :
    CanonicalDestination samplePy sampleRuntime (destinationFor urlHost allowedHost flag) := by
  have hexpected : expectedHost sampleRuntime (destinationFor urlHost allowedHost flag) = urlHost
      ∧ ∃ parsed url, samplePy.urlparse ("https://" ++ urlHost ++ "/") = .ok parsed
        ∧ PublicationGate.parseExpectedFinalUrl sampleRuntime ("https://" ++ urlHost ++ "/")
          = some url
        ∧ parsed.hostname = some url.hostname := by
    rcases List.mem_cons.mp hurl with rfl | hpay
    · exact ⟨rfl, _, plainUrl "acme.example" "/", rfl, rfl, rfl⟩
    · obtain rfl := List.mem_singleton.mp hpay
      exact ⟨rfl, _, plainUrl "pay.acme.example" "/", rfl, rfl, rfl⟩
  refine ⟨hexpected.2, fun host hhost => canonicalHost_sample ?_⟩
  rw [namedHosts, hexpected.1] at hhost
  rcases List.mem_cons.mp hhost with rfl | hmem
  · exact hurl
  · obtain rfl := List.mem_singleton.mp hmem
    exact hallowed

/-- The rows of the given proofs. -/
def sampleRows (proofs : List (String × DomainProof.DomainProofVerificationStatus)) :
    List DomainProofRow :=
  proofs.map fun proof => sampleProofRow proof.1 proof.2

theorem sameState_sample {proofs : List (String × DomainProof.DomainProofVerificationStatus)}
    {destinations : List ApprovedDestination} (hne : destinations ≠ [])
    (hdomains : ∀ proof ∈ proofs, proof.1 ∈ sampleHosts)
    (hhosts : ∀ destination ∈ destinations,
      CanonicalDestination samplePy sampleRuntime destination) :
    SameState samplePy sampleRuntime sampleIso [sampleRow] sampleRow (sampleRows proofs)
      destinations 0 (networkView proofs destinations) where
  listed := List.mem_singleton_self _
  unique := by decide
  issuer := ⟨rfl, rfl⟩
  proofs := by
    rw [sampleRows, networkView, List.forall₂_map_left_iff, List.forall₂_map_right_iff]
    exact List.forall₂_same.mpr fun proof _ => ⟨rfl, rfl, rfl, rfl⟩
  policy := ⟨rfl, rfl⟩
  time := rfl
  texts := by
    intro row hrow expiry hexpiry
    obtain ⟨proof, -, rfl⟩ := List.mem_map.mp hrow
    obtain rfl := Option.some.inj hexpiry
    exact ⟨by decide, by decide⟩
  destinations_ne := hne
  hosts := hhosts
  domains := by
    intro row hrow
    obtain ⟨proof, hproof, rfl⟩ := List.mem_map.mp hrow
    show CanonicalDomain samplePy sampleRuntime proof.1
    rcases List.mem_cons.mp (hdomains proof hproof) with hacme | hpay
    · rw [hacme]
      exact ⟨by decide, by decide⟩
    · rw [List.mem_singleton.mp hpay]
      exact ⟨by decide, by decide⟩

/-- The gates give different answers on the sample issuer. -/
def Differ (proofs : List (String × DomainProof.DomainProofVerificationStatus))
    (destinations : List ApprovedDestination) : Prop :=
  SameState samplePy sampleRuntime sampleIso [sampleRow] sampleRow (sampleRows proofs)
      destinations 0 (networkView proofs destinations)
    ∧ ¬ (Activates samplePy [sampleRow] (sampleRows proofs) sampleKey destinations 0
      ↔ Publishable sampleRuntime (networkView proofs destinations))

theorem publishable_iff {input : GateInput} {publishable : Bool}
    (h : (evaluateDestinationPolicyPublicationGate js input).toOption.map GateDecision.publishable
      = some publishable) : Publishable js input ↔ publishable = true := by
  constructor
  · rintro ⟨decision, hdecision, hpublishable⟩
    rw [hdecision] at h
    rw [← Option.some.inj h, hpublishable]
  · rintro rfl
    obtain ⟨decision, hdecision, hpublishable⟩ := Option.map_eq_some_iff.mp h
    exact ⟨decision, toOption_eq_some_iff.mp hdecision, hpublishable⟩

/-- The statement's answer on canonical destinations, host by host. -/
def coversNamedHosts (js : JsRuntime) (rows : List DomainProofRow) (key : IssuerKey) (now : Int)
    (destinations : List ApprovedDestination) : Bool :=
  (destinations.flatMap (namedHosts js)).all fun host =>
    rows.any fun row => row.issuer = key && proofInForce now row
      && DomainProof.hostMatches (mergedFlag js destinations host) row.domain host

theorem activates_sample_iff {proofs : List (String × DomainProof.DomainProofVerificationStatus)}
    {destinations : List ApprovedDestination}
    (h : SameState samplePy sampleRuntime sampleIso [sampleRow] sampleRow (sampleRows proofs)
      destinations 0 (networkView proofs destinations)) :
    Activates samplePy [sampleRow] (sampleRows proofs) sampleKey destinations 0
      ↔ coversNamedHosts sampleRuntime (sampleRows proofs) sampleKey 0 destinations = true := by
  rw [Activates, activates_canonical h.hosts h.domains, coversNamedHosts, List.all_eq_true]
  simp only [Named, List.mem_flatMap, List.any_eq_true, Bool.and_eq_true, decide_eq_true_eq,
    and_assoc]
  exact and_iff_right (by decide)

/-- Opposite answers on the sample issuer. -/
theorem differ_of_opposite {proofs : List (String × DomainProof.DomainProofVerificationStatus)}
    {destinations : List ApprovedDestination} (hne : destinations ≠ [])
    (hdomains : ∀ proof ∈ proofs, proof.1 ∈ sampleHosts)
    (hhosts : ∀ destination ∈ destinations,
      CanonicalDestination samplePy sampleRuntime destination)
    (h : (evaluateDestinationPolicyPublicationGate sampleRuntime
        (networkView proofs destinations)).toOption.map GateDecision.publishable
      = some !coversNamedHosts sampleRuntime (sampleRows proofs) sampleKey 0 destinations) :
    Differ proofs destinations := by
  have hstate := sameState_sample hne hdomains hhosts
  refine ⟨hstate, ?_⟩
  rw [activates_sample_iff hstate, publishable_iff h]
  cases coversNamedHosts sampleRuntime (sampleRows proofs) sampleKey 0 destinations <;> decide

/-- Four states of the sample issuer on which the gates give opposite answers. -/
def oppositeStates : {states : List (List (String × DomainProof.DomainProofVerificationStatus)
      × List ApprovedDestination) //
    states =
        [([("acme.example", .verified), ("pay.acme.example", .verified)],
          [destinationFor "acme.example" "pay.acme.example" false]),
        ([("acme.example", .verified)],
          [destinationFor "pay.acme.example" "pay.acme.example" false,
            destinationFor "pay.acme.example" "pay.acme.example" true]),
        ([("acme.example", .verified)],
          [destinationFor "acme.example" "acme.example" true,
            destinationFor "pay.acme.example" "pay.acme.example" false]),
        ([("acme.example", .verified), ("pay.acme.example", .pending)],
          [destinationFor "pay.acme.example" "pay.acme.example" true])]
      ∧ ∀ state ∈ states, (∀ proof ∈ state.1, proof.1 ∈ sampleHosts)
        ∧ (evaluateDestinationPolicyPublicationGate sampleRuntime
            (networkView state.1 state.2)).toOption.map GateDecision.publishable
          = some !coversNamedHosts sampleRuntime (sampleRows state.1) sampleKey 0 state.2} :=
  ⟨_, rfl, by decide +kernel⟩

/-- **DIFFERENT**: a proven URL host that no rule allows; a host whose first rule
    keeps subdomains out, with a later one that lets them in; a host whose first
    rule is that of its parent, which lets them in; a verified parent behind a
    pending proof of the host itself. -/
theorem gates_differ :
    Differ [("acme.example", .verified), ("pay.acme.example", .verified)]
        [destinationFor "acme.example" "pay.acme.example" false]
      ∧ Differ [("acme.example", .verified)]
        [destinationFor "pay.acme.example" "pay.acme.example" false,
          destinationFor "pay.acme.example" "pay.acme.example" true]
      ∧ Differ [("acme.example", .verified)]
        [destinationFor "acme.example" "acme.example" true,
          destinationFor "pay.acme.example" "pay.acme.example" false]
      ∧ Differ [("acme.example", .verified), ("pay.acme.example", .pending)]
        [destinationFor "pay.acme.example" "pay.acme.example" true] := by
  have hacme : "acme.example" ∈ sampleHosts := List.mem_cons_self ..
  have hpay : "pay.acme.example" ∈ sampleHosts := List.mem_cons_of_mem _ (List.mem_cons_self ..)
  obtain ⟨states, hstates, hall⟩ := oppositeStates
  rw [hstates] at hall
  obtain ⟨⟨h₁, hopposite₁⟩, hall⟩ := List.forall_mem_cons.mp hall
  obtain ⟨⟨h₂, hopposite₂⟩, hall⟩ := List.forall_mem_cons.mp hall
  obtain ⟨⟨h₃, hopposite₃⟩, hall⟩ := List.forall_mem_cons.mp hall
  obtain ⟨h₄, hopposite₄⟩ := List.forall_mem_singleton.mp hall
  refine ⟨differ_of_opposite (List.cons_ne_nil _ _) h₁ ?_ hopposite₁,
    differ_of_opposite (List.cons_ne_nil _ _) h₂ ?_ hopposite₂,
    differ_of_opposite (List.cons_ne_nil _ _) h₃ ?_ hopposite₃,
    differ_of_opposite (List.cons_ne_nil _ _) h₄ ?_ hopposite₄⟩
  · exact List.forall_mem_singleton.mpr (canonicalDestination_sample hacme hpay false)
  · exact List.forall_mem_cons.mpr ⟨canonicalDestination_sample hpay hpay false,
      List.forall_mem_singleton.mpr (canonicalDestination_sample hpay hpay true)⟩
  · exact List.forall_mem_cons.mpr ⟨canonicalDestination_sample hacme hacme true,
      List.forall_mem_singleton.mpr (canonicalDestination_sample hpay hpay false)⟩
  · exact List.forall_mem_singleton.mpr (canonicalDestination_sample hpay hpay true)

/-- A policy for a host under a proven domain becomes active, and is publishable. -/
theorem gates_agree_subdomain :
    Activates samplePy [sampleRow] (sampleRows [("acme.example", .verified)]) sampleKey
        [destinationFor "pay.acme.example" "pay.acme.example" true] 0
      ↔ Publishable sampleRuntime (networkView [("acme.example", .verified)]
        [destinationFor "pay.acme.example" "pay.acme.example" true]) := by
  have hpay : "pay.acme.example" ∈ sampleHosts := List.mem_cons_of_mem _ (List.mem_cons_self ..)
  have hnamed : ∀ host, Named sampleRuntime
      [destinationFor "pay.acme.example" "pay.acme.example" true] host →
      host = "pay.acme.example" := by
    rintro host ⟨destination, hmem, hhost⟩
    obtain rfl := List.mem_singleton.mp hmem
    rcases List.mem_cons.mp hhost with rfl | hallowed
    · rfl
    · exact List.mem_singleton.mp hallowed
  refine gates_agree samplePy sampleRuntime sampleIso [sampleRow] sampleRow _ _ 0 _
    (sameState_sample (by decide) (by decide)
      (List.forall_mem_singleton.mpr (canonicalDestination_sample hpay hpay true)))
    ⟨List.forall_mem_singleton.mpr (by decide), ?_, ?_⟩
  · intro host rule hhost hrule
    obtain rfl := hnamed host hhost
    obtain rfl := Option.some.inj
      ((by rfl : decidingRule sampleRuntime _ "pay.acme.example"
        = some (destinationRule (destinationFor "pay.acme.example" "pay.acme.example" true))
        ).symm.trans hrule)
    decide
  · intro host rule _ _ proof hproof _ _ hholds top htop
    -- the issuer has one proof only
    obtain rfl := List.mem_singleton.mp (topProof_mem htop).1
    obtain rfl := List.mem_singleton.mp hproof
    exact hholds

end GateAgreement
