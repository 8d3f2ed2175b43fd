import QrTrust.Backend.GovernanceMutationsProofs
import QrTrust.Backend.ManagementAuthProofs
import QrTrust.Backend.ManagementEndpoints
import QrTrust.Backend.ProjectionIsolationProofs

/-! # Resource confinement

    In enforce mode, a mutation that a key commits for an issuer is covered by one
    of the key's resource assignments: `require_issuer_resource` stands before
    every mutation that names an issuer, except those of destination policies.
    There only the requests themselves can keep to the assignments
    (`committed_covered`). -/

namespace ManagementEndpoints

open GovernanceMutations (GovernanceMutation)
open TrustProjection (IssuerKey)

variable {host : Host} {config : Config} {tables : Tables} {step : Step}
  {principal : ManagementPrincipal} {issuer : IssuerKey} {mutation : GovernanceMutation}

/-! ## Assignments -/

/-- One of the principal's assignments covers the issuer. -/
def Covered (principal : ManagementPrincipal) (issuer : IssuerKey) : Prop :=
  ∃ assignment ∈ principal.resourceAssignments, assignment.covers issuer = true

/-- In enforce mode a key passes the check for the issuers that its assignments
    cover. -/
theorem covered_of_required {scope keyId : String} {decision : ResourceAuthzDecision}
    (h : requireIssuerResource principal scope issuer "enforce" = .ok decision)
    (hkey : principal.keyId = some keyId) : Covered principal issuer := by
  rw [requireIssuerResource, hkey] at h
  dsimp only at h
  split at h
  · rename_i hany
    exact List.any_eq_true.mp hany
  · rw [if_pos rfl] at h
    cases h

/-! ## What a plan may commit -/

/-- **NAMES**: the mutation is about the issuer. -/
def Names (mutation : GovernanceMutation) (issuer : IssuerKey) : Prop :=
  mutation.rootProgramId = some issuer.rootProgramId
    ∧ mutation.delegatedAuthorityId = some issuer.delegatedAuthorityId
    ∧ mutation.issuerId = some issuer.issuerId

/-- The issuer whose destination policy a request is about. -/
def GovernanceRequest.policyIssuer : GovernanceRequest → Option IssuerKey
  | .upsertDestinationPolicy issuer .. => some issuer
  | .updateDestinationPolicyStatus issuer .. => some issuer
  | _ => none

/-- A mutation for an issuer names that issuer only. -/
theorem eq_of_names {named : IssuerKey} (h : Names mutation issuer)
    (h' : Names mutation named) : named = issuer := by
  obtain ⟨hroot, hauthority, hissuer⟩ := h
  obtain ⟨hroot', hauthority', hissuer'⟩ := h'
  have hroots := Option.some.inj (hroot'.symm.trans hroot)
  have hauthorities := Option.some.inj (hauthority'.symm.trans hauthority)
  have hissuers := Option.some.inj (hissuer'.symm.trans hissuer)
  cases named
  cases issuer
  simp only at hroots hauthorities hissuers
  subst hroots hauthorities hissuers
  rfl

/-- A plan for one issuer, with the mutation it has for that issuer. -/
theorem resource_of_plan {named : IssuerKey} {targetId : String} {planned : GovernanceMutation}
    {plan : Plan} (hresource : plan.resource = some (named, targetId))
    (houtcome : plan.outcome = .ok (.inr mutation)) (hplanned : plan.outcome = .ok (.inr planned))
    (hnamed : Names planned named) (hnames : Names mutation issuer) :
    ∃ targetId, plan.resource = some (issuer, targetId) := by
  have heq : mutation = planned := Sum.inr.inj (Except.ok.inj (houtcome.symm.trans hplanned))
  rw [heq] at hnames
  rw [eq_of_names hnames hnamed] at hresource
  exact ⟨targetId, hresource⟩

/-- A mutation without an issuer names none. -/
theorem not_names_of_plan {planned : GovernanceMutation} {plan : Plan}
    (houtcome : plan.outcome = .ok (.inr mutation)) (hplanned : plan.outcome = .ok (.inr planned))
    (hnone : planned.issuerId = none) : ¬ Names mutation issuer := by
  have heq : mutation = planned := Sum.inr.inj (Except.ok.inj (houtcome.symm.trans hplanned))
  rintro ⟨-, -, hissuer⟩
  rw [heq, hnone] at hissuer
  cases hissuer

/-- The enrolment of a certificate is for the issuer it is checked for. -/
theorem resource_of_certificateEnrollment {requested : IssuerCertificates.IssuerCertificateRow}
    (houtcome : (planCertificateEnrollment host requested tables).outcome = .ok (.inr mutation))
    (hnames : Names mutation issuer) : requested.issuer = issuer := by
  rw [planCertificateEnrollment] at houtcome
  dsimp only at houtcome
  split at houtcome
  · rename_i existing _
    cases hreplayed : IssuerCertificates.replayedCertificate existing requested with
    | error exc =>
        rw [hreplayed] at houtcome
        cases houtcome
    | ok response =>
        rw [hreplayed] at houtcome
        cases houtcome
  · obtain rfl := Sum.inr.inj (Except.ok.inj houtcome)
    exact eq_of_names hnames ⟨rfl, rfl, rfl⟩

/-- So is a change of its status. -/
theorem resource_of_certificateStatus {row : IssuerCertificates.IssuerCertificateRow}
    {request : IssuerCertificates.IssuerCertificateStatusRequest}
    (houtcome : (planCertificateStatus row request).outcome = .ok (.inr mutation))
    (hnames : Names mutation issuer) : row.issuer = issuer := by
  rw [planCertificateStatus] at houtcome
  cases hdecision : IssuerCertificates.decideCertificateStatus row request.keyStatus with
  | error exc =>
      rw [hdecision] at houtcome
      cases houtcome
  | ok decision =>
      rw [hdecision] at houtcome
      cases decision with
      | unchanged => cases houtcome
      | change =>
          obtain rfl := Sum.inr.inj (Except.ok.inj houtcome)
          exact eq_of_names hnames ⟨rfl, rfl, rfl⟩

/-- A trust key has no issuer, when it is enrolled as when its status changes. -/
theorem not_names_of_trustKeyEnrollment {request : TrustKeyEnrolment.TrustKeyUpsertRequest}
    {requested : PostgresTrustKeys.TrustKeyRow}
    (houtcome : (planTrustKeyEnrollment host request requested tables).outcome
      = .ok (.inr mutation)) : ¬ Names mutation issuer := by
  rintro ⟨-, -, hissuer⟩
  rw [planTrustKeyEnrollment] at houtcome
  dsimp only at houtcome
  split at houtcome
  · split at houtcome
    · cases houtcome
    · cases houtcome
  · obtain rfl := Sum.inr.inj (Except.ok.inj houtcome)
    cases hissuer

theorem not_names_of_trustKeyStatus {row : PostgresTrustKeys.TrustKeyRow}
    {keyStatus : TrustKeys.TrustKeyStatus}
    (houtcome : (planTrustKeyStatus row keyStatus).outcome = .ok (.inr mutation)) :
    ¬ Names mutation issuer := by
  rintro ⟨-, -, hissuer⟩
  rw [planTrustKeyStatus] at houtcome
  dsimp only at houtcome
  split at houtcome
  · cases houtcome
  · cases houtcome
  · cases houtcome
  · obtain rfl := Sum.inr.inj (Except.ok.inj houtcome)
    cases hissuer

/-- **CHECKED OR A POLICY**: an endpoint that has a mutation for an issuer asks about
    that issuer's resource, or its request is about a destination policy. -/
theorem resource_of_names {now : Int} {request : GovernanceRequest} {scope : String}
    {planOf : Tables → Except PyError Plan} {plan : Plan}
    (hendpoint : endpoint host config now request = .ok (scope, planOf))
    (hplan : planOf tables = .ok plan) (houtcome : plan.outcome = .ok (.inr mutation))
    (hnames : Names mutation issuer) :
    (∃ targetId, plan.resource = some (issuer, targetId))
      ∨ request.policyIssuer = some issuer := by
  cases request with
  | upsertTrustKey request =>
      obtain ⟨requested, -, hpair⟩ := Fallible.bind_eq_ok_iff.mp hendpoint
      obtain ⟨-, rfl⟩ := Prod.mk.inj (Except.ok.inj hpair)
      obtain rfl := Except.ok.inj hplan
      exact absurd hnames (not_names_of_trustKeyEnrollment houtcome)
  | enrollIssuerCertificate request =>
      obtain ⟨requested, -, hpair⟩ := Fallible.bind_eq_ok_iff.mp hendpoint
      obtain ⟨-, rfl⟩ := Prod.mk.inj (Except.ok.inj hpair)
      obtain rfl := Except.ok.inj hplan
      obtain rfl := resource_of_certificateEnrollment houtcome hnames
      exact .inl ⟨_, rfl⟩
  | updateIssuerCertificateStatus request =>
      obtain ⟨certificateId, -, hpair⟩ := Fallible.bind_eq_ok_iff.mp hendpoint
      obtain ⟨-, rfl⟩ := Prod.mk.inj (Except.ok.inj hpair)
      dsimp only at hplan
      split at hplan
      · cases hplan
      · obtain rfl := Except.ok.inj hplan
        obtain rfl := resource_of_certificateStatus houtcome hnames
        exact .inl ⟨_, rfl⟩
  | updateTrustKeyStatus request =>
      obtain ⟨rootProgramId, -, hrest⟩ := Fallible.bind_eq_ok_iff.mp hendpoint
      obtain ⟨keyId, -, hpair⟩ := Fallible.bind_eq_ok_iff.mp hrest
      obtain ⟨-, rfl⟩ := Prod.mk.inj (Except.ok.inj hpair)
      dsimp only at hplan
      split at hplan
      · cases hplan
      · obtain rfl := Except.ok.inj hplan
        exact absurd hnames (not_names_of_trustKeyStatus houtcome)
  | upsertRootProgram rootProgramId name programScope acceptedAlgorithmIds policyConstraints =>
      obtain ⟨-, rfl⟩ := Prod.mk.inj (Except.ok.inj hendpoint)
      obtain ⟨algorithmIds, -, hrecord⟩ := Fallible.bind_eq_ok_iff.mp hplan
      obtain rfl := Except.ok.inj hrecord
      exact absurd hnames (not_names_of_plan houtcome rfl rfl)
  | upsertDelegatedAuthority rootProgramId delegatedAuthorityId name authorityType scope
      assuranceRequirements =>
      obtain ⟨-, rfl⟩ := Prod.mk.inj (Except.ok.inj hendpoint)
      obtain rfl := Except.ok.inj hplan
      exact absurd hnames (not_names_of_plan houtcome rfl rfl)
  | enrollIssuer named displayName issuerClass assuranceTier =>
      obtain ⟨-, rfl⟩ := Prod.mk.inj (Except.ok.inj hendpoint)
      obtain rfl := Except.ok.inj hplan
      exact .inl (resource_of_plan rfl houtcome rfl ⟨rfl, rfl, rfl⟩ hnames)
  | updateIssuerStatus named enrollmentStatus =>
      obtain ⟨-, rfl⟩ := Prod.mk.inj (Except.ok.inj hendpoint)
      obtain rfl := Except.ok.inj hplan
      exact .inl (resource_of_plan rfl houtcome rfl ⟨rfl, rfl, rfl⟩ hnames)
  | upsertDomainProof named domain proofMethod verificationStatus expiresAt evidenceRef =>
      obtain ⟨_, -, hrest⟩ := Fallible.bind_eq_ok_iff.mp hendpoint
      obtain ⟨normalized, -, hpair⟩ := Fallible.bind_eq_ok_iff.mp hrest
      obtain ⟨-, rfl⟩ := Prod.mk.inj (Except.ok.inj hpair)
      obtain rfl := Except.ok.inj hplan
      exact .inl (resource_of_plan rfl houtcome rfl ⟨rfl, rfl, rfl⟩ hnames)
  | upsertDestinationPolicy named destinationPolicyId usagePolicy approvedDestinations
      redirectPolicy runtimeSafetyPolicy =>
      obtain ⟨destinations, -, hrest⟩ := Fallible.bind_eq_ok_iff.mp hendpoint
      obtain ⟨hostScopes, -, hrest⟩ := Fallible.bind_eq_ok_iff.mp hrest
      obtain ⟨redirectPolicy, -, hrest⟩ := Fallible.bind_eq_ok_iff.mp hrest
      obtain ⟨runtimeSafetyPolicy, -, hpair⟩ := Fallible.bind_eq_ok_iff.mp hrest
      obtain ⟨-, rfl⟩ := Prod.mk.inj (Except.ok.inj hpair)
      obtain rfl := Except.ok.inj hplan
      obtain rfl := Sum.inr.inj (Except.ok.inj houtcome)
      exact .inr (congrArg some (eq_of_names hnames ⟨rfl, rfl, rfl⟩))
  | updateDestinationPolicyStatus named destinationPolicyId status =>
      obtain ⟨-, rfl⟩ := Prod.mk.inj (Except.ok.inj hendpoint)
      obtain rfl := Except.ok.inj hplan
      obtain rfl := Sum.inr.inj (Except.ok.inj houtcome)
      exact .inr (congrArg some (eq_of_names hnames ⟨rfl, rfl, rfl⟩))
  | upsertRuntimeProvider providerId displayName baseUrl verdictTtlSeconds staleBehavior
      unavailableBehavior status =>
      obtain ⟨url, -, hpair⟩ := Fallible.bind_eq_ok_iff.mp hendpoint
      obtain ⟨-, rfl⟩ := Prod.mk.inj (Except.ok.inj hpair)
      obtain rfl := Except.ok.inj hplan
      exact absurd hnames (not_names_of_plan houtcome rfl rfl)
  | authorizeNatsSubscriber subscriberId displayName durableName description subjects =>
      obtain ⟨normalized, -, hpair⟩ := Fallible.bind_eq_ok_iff.mp hendpoint
      obtain ⟨-, rfl⟩ := Prod.mk.inj (Except.ok.inj hpair)
      obtain rfl := Except.ok.inj hplan
      exact absurd hnames (not_names_of_plan houtcome rfl rfl)

/-! ## What a request commits -/

/-- A mutation that is recorded for a principal is the one its endpoint has, and
    the audit log grows by its row. -/
theorem committed_of_recordMutation {plan : Plan} {planned : GovernanceMutation}
    {asked : ManagementPrincipal} {before audited : Tables}
    (h : (recordMutation host step asked plan planned before audited).committed
      = some (principal, mutation)) :
    asked = principal ∧ planned = mutation
      ∧ (recordMutation host step asked plan planned before audited).tables.governance.auditLog
        = audited.governance.auditLog ++ [(mutationCall step principal mutation).auditRow] := by
  rw [recordMutation] at h ⊢
  split at h
  · cases h
  · cases h
  · rename_i governance result hrecorded
    obtain ⟨rfl, rfl⟩ := Prod.mk.inj (Option.some.inj h)
    obtain ⟨keys, applied, happly, hlog, -⟩ :=
      GovernanceMutations.recordGovernanceMutation_applied hrecorded
    obtain ⟨-, hgrows, -⟩ := GovernanceMutations.applyMutation_eq_ok happly
    exact ⟨rfl, rfl, hlog.trans hgrows⟩

/-- **COMMITTED**: a request that commits a mutation had it in its plan, after the
    scope of its principal and the resource of the plan were checked. -/
theorem plan_of_committed (h : (serve host config tables step).committed
      = some (principal, mutation)) :
    ∃ request scope planOf plan audited, step.request = .governance request
      ∧ endpoint host config step.now request = .ok (scope, planOf)
      ∧ managementPrincipal host config tables step.now step.adminToken scope = .ok principal
      ∧ planOf tables = .ok plan
      ∧ authorizeResource config step principal scope plan.resource tables = .ok audited
      ∧ plan.outcome = .ok (.inr mutation) := by
  rw [serve] at h
  split at h
  · rename_i request hrequest
    rw [serveGovernance] at h
    split at h
    · cases h
    · rename_i scope planOf hendpoint
      split at h
      · cases h
      · rename_i asked hprincipal
        split at h
        · cases h
        · rename_i plan hplan
          rw [servePlan] at h
          split at h
          · cases h
          · rename_i audited haudited
            split at h
            · cases h
            · cases h
            · rename_i planned houtcome
              obtain ⟨rfl, rfl, -⟩ := committed_of_recordMutation h
              exact ⟨request, scope, planOf, plan, audited, hrequest, hendpoint, hprincipal,
                hplan, haudited, houtcome⟩
  · split at h
    · cases h
    · cases h

/-- The endpoints of destination policies require the scope `policy:write`. -/
theorem scope_of_policyIssuer {now : Int} {request : GovernanceRequest} {scope : String}
    {planOf : Tables → Except PyError Plan}
    (hendpoint : endpoint host config now request = .ok (scope, planOf))
    (hpolicy : request.policyIssuer = some issuer) : scope = "policy:write" := by
  cases request with
  | upsertDestinationPolicy named destinationPolicyId usagePolicy approvedDestinations
      redirectPolicy runtimeSafetyPolicy =>
      obtain ⟨destinations, -, hrest⟩ := Fallible.bind_eq_ok_iff.mp hendpoint
      obtain ⟨hostScopes, -, hrest⟩ := Fallible.bind_eq_ok_iff.mp hrest
      obtain ⟨redirectPolicy, -, hrest⟩ := Fallible.bind_eq_ok_iff.mp hrest
      obtain ⟨runtimeSafetyPolicy, -, hpair⟩ := Fallible.bind_eq_ok_iff.mp hrest
      exact (Prod.mk.inj (Except.ok.inj hpair)).1.symm
  | updateDestinationPolicyStatus named destinationPolicyId status =>
      exact (Prod.mk.inj (Except.ok.inj hendpoint)).1.symm
  | _ => cases hpolicy

/-! ## Runs -/

/-- **POLICIES COVERED**: a destination-policy request that a key with the scope makes
    is about an issuer that the key's assignments cover. -/
def PoliciesCovered (host : Host) (config : Config) (tables : Tables) (step : Step) : Prop :=
  ∀ request issuer principal, step.request = .governance request →
    request.policyIssuer = some issuer →
    managementPrincipal host config tables step.now step.adminToken "policy:write"
      = .ok principal →
    principal.keyId ≠ none → Covered principal issuer

/-- **ONE REQUEST**: in enforce mode, what a key commits for an issuer is covered,
    where its destination-policy requests are. -/
theorem covered_of_committed {keyId : String} (henforce : config.resourceAuthzMode = "enforce")
    (hpolicies : PoliciesCovered host config tables step)
    (hcommitted : (serve host config tables step).committed = some (principal, mutation))
    (hkey : principal.keyId = some keyId) (hnames : Names mutation issuer) :
    Covered principal issuer := by
  obtain ⟨request, scope, planOf, plan, audited, hrequest, hendpoint, hprincipal, hplan,
    haudited, houtcome⟩ := plan_of_committed hcommitted
  rcases resource_of_names hendpoint hplan houtcome hnames with ⟨targetId, hresource⟩ | hpolicy
  · rw [hresource, authorizeResource] at haudited
    obtain ⟨decision, hdecision, -⟩ := Fallible.bind_eq_ok_iff.mp haudited
    rw [henforce] at hdecision
    exact covered_of_required hdecision hkey
  · rw [scope_of_policyIssuer hendpoint hpolicy] at hprincipal
    refine hpolicies request issuer principal hrequest hpolicy hprincipal ?_
    rw [hkey]
    exact Option.some_ne_none keyId

/-- **CONFINEMENT**: in every run in enforce mode whose destination-policy requests
    keep to the assignments of their keys, every mutation that a key commits for an
    issuer is covered by one of its assignments. -/
theorem committed_covered (henforce : config.resourceAuthzMode = "enforce") {steps : List Step}
    (hpolicies : (machine host config).EachMeets (PoliciesCovered host config) tables steps)
    {before : List Step} (hnext : before ++ [step] <+: steps) {keyId : String}
    (hcommitted : (serve host config ((machine host config).applyAll tables before) step).committed
      = some (principal, mutation))
    (hkey : principal.keyId = some keyId) (hnames : Names mutation issuer) :
    Covered principal issuer :=
  covered_of_committed henforce (hpolicies.next hnext) hcommitted hkey hnames

/-! ## A key for one authority -/

/-- A host whose digests are the texts themselves. -/
def demoHost : Host where
  py := TrustProjection.sampleRuntime
  governance := ⟨id, fun _ => "0.0", fun _ => none⟩
  dates := ⟨fun _ => "", fun _ => ""⟩
  credentials := ManagementAuth.plainHost

/-- The settings in enforce mode. -/
def demoConfig : Config where
  resourceAuthzMode := "enforce"
  bootstrapAdminTokensEnabled := false
  adminTokens := []
  enrollment := ⟨200, false⟩

/-- One key, for the issuers of an authority. -/
def demoTables : Tables where
  credentials :=
    { keys := (VerifierApiKeys.ApiKeyTable.empty.insert "mkey_ops"
        { keyHash := "ops", label := "ops", scopes := ["issuer:write", "policy:write"]
          status := .active, notBefore := none, expiresAt := none, createdAt := 0 }).getD .empty
      keyOperators := .empty
      operators := .empty
      assignments := [] }
  keyResources := OrderedMap.ofList [("mkey_ops", ⟨some "root:demo", some "authority:web", none⟩)]
  governance := GovernanceMutations.noRows
  publicKeyRefs := .empty
  trustKeys := .empty

/-- The principal of the key. -/
def demoPrincipal : ManagementPrincipal where
  keyId := some "mkey_ops"
  operatorId := none
  scopes := {"issuer:write", "policy:write"}
  resourceAssignments := [⟨some "root:demo", some "authority:web", none⟩]

/-- A request with the key. -/
def demoStep (request : GovernanceRequest) : Step where
  request := .governance request
  adminToken := "ops"
  requestId := "req-1"
  idempotencyKey := none
  now := 0
  server := ⟨.utc 0, "epoch", 1⟩
  utcNowIso := "1970-01-01T00:00:00Z"
  executes := true
  record := ("", .none)

/-- An issuer under an authority. -/
def demoIssuer (authority : String) : IssuerKey := ⟨"root:demo", authority, "issuer:acme"⟩

theorem enrolment_covered : Covered demoPrincipal (demoIssuer "authority:web") := by
  have hcommits : (serve demoHost demoConfig demoTables
      (demoStep (.enrollIssuer (demoIssuer "authority:web") "Acme" "business" "basic"))).committed.map
        (fun pair => (pair.1, pair.2.rootProgramId, pair.2.delegatedAuthorityId, pair.2.issuerId))
      = some (demoPrincipal, some "root:demo", some "authority:web", some "issuer:acme") := by
    decide +kernel
  obtain ⟨⟨principal, mutation⟩, hcommitted, heq⟩ := Option.map_eq_some_iff.mp hcommits
  obtain ⟨rfl, hids⟩ := Prod.mk.inj heq
  obtain ⟨hroot, hids⟩ := Prod.mk.inj hids
  obtain ⟨hauthority, hissuer⟩ := Prod.mk.inj hids
  refine @committed_covered demoHost demoConfig demoTables _ _ (demoIssuer "authority:web") _ rfl
    [demoStep (.enrollIssuer (demoIssuer "authority:web") "Acme" "business" "basic")]
    ⟨?_, trivial⟩ [] (List.prefix_refl _) "mkey_ops" hcommitted rfl ⟨hroot, hauthority, hissuer⟩
  intro request issuer asked hrequest hpolicy
  obtain rfl := Request.governance.inj hrequest
  cases hpolicy

/-- **UNCOVERED POLICY**: in enforce mode a key for one authority commits a change of
    the status of a policy of another. -/
theorem uncovered_policy_committed :
    ∃ mutation, (serve demoHost demoConfig demoTables (demoStep (.updateDestinationPolicyStatus
          (demoIssuer "authority:other") "policy:menu" "suspended"))).committed
        = some (demoPrincipal, mutation)
      ∧ Names mutation (demoIssuer "authority:other")
      ∧ ¬ Covered demoPrincipal (demoIssuer "authority:other") := by
  have hcommits : (serve demoHost demoConfig demoTables
      (demoStep (.updateDestinationPolicyStatus (demoIssuer "authority:other") "policy:menu"
        "suspended"))).committed.map
        (fun pair => (pair.1, pair.2.rootProgramId, pair.2.delegatedAuthorityId, pair.2.issuerId))
      = some (demoPrincipal, some "root:demo", some "authority:other", some "issuer:acme") := by
    decide +kernel
  obtain ⟨⟨principal, mutation⟩, hcommitted, heq⟩ := Option.map_eq_some_iff.mp hcommits
  obtain ⟨rfl, hids⟩ := Prod.mk.inj heq
  obtain ⟨hroot, hids⟩ := Prod.mk.inj hids
  obtain ⟨hauthority, hissuer⟩ := Prod.mk.inj hids
  refine ⟨mutation, hcommitted, ⟨hroot, hauthority, hissuer⟩, ?_⟩
  rintro ⟨assignment, hmem, hcovers⟩
  obtain rfl := List.mem_singleton.mp hmem
  exact absurd hcovers (by decide)

end ManagementEndpoints
