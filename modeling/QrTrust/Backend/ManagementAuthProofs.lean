import QrTrust.Backend.ManagementAuth
import QrTrust.Backend.VerifierApiKeysProofs
import QrTrust.Lib.Fallible

/-! # Who may grant what

    The effective scopes of a key are the meet of its own scopes and those of
    its operator's roles, so they change with the key, the operator and the
    assignments.  No request compares what it grants with what its principal
    has: a key that may issue keys issues itself any scope
    (`admin_from_key_writer`).  Where every request stays within its principal
    (`Delegated`), no scope is gained that the principal lacks
    (`gained_step`), and no run makes an admin (`no_escalation`). -/

namespace ManagementAuth

open Runs OrderedMap VerifierApiKeys Authority Fallible

variable {host : Host} {tables changed : Tables} {keyId scope : String} {row : ApiKeyRow}
  {now : Int} {step : Step} {principal : ManagementPrincipal}

/-- The scopes grant the scope. -/
abbrev Has (scopes : Finset String) (scope : String) : Prop := Grants adminScope scopes scope

/-- The scopes that a key loads with at a time, by its id. -/
def loadedScopes (tables : Tables) (now : Int) (keyId : String) : Finset String :=
  match tables.keys.find? keyId with
  | none => ∅
  | some row => if loadable row now then effectiveScopes tables keyId row else ∅

/-- What a principal loads with. -/
theorem loadManagementPrincipal_scopes {sha256Hex : String → String} {plaintextKey : String}
    (h : loadManagementPrincipal sha256Hex tables now plaintextKey = some principal) :
    principal.scopes = loadedScopes tables now principal.keyId := by
  obtain ⟨⟨keyId, row⟩, hfound, rfl⟩ := Option.map_eq_some_iff.mp h
  have hmatch := List.find?_some hfound
  rw [Bool.and_eq_true] at hmatch
  have hrow : tables.keys.find? keyId = some row :=
    (get?_eq_some_iff ..).mpr (List.mem_of_find?_eq_some hfound)
  rw [loadedScopes, hrow]
  exact (if_pos hmatch.2).symm

/-- A key loads with its own scopes at most. -/
theorem loadedScopes_within (hrow : tables.keys.find? keyId = some row) :
    Within adminScope (loadedScopes tables now keyId) row.scopes.toFinset := by
  rw [loadedScopes, hrow]
  dsimp only
  split
  · rw [effectiveScopes]
    split
    · exact Within.refl _
    · exact meet_within
  · exact fun a h => absurd h not_grants_empty

/-! ## What a request does -/

/-- What a request that is served makes of the tables. -/
inductive Changes (host : Host) (tables : Tables) : Request → Tables → Prop where
  | issue {label newLabel plaintextKey : String} {scopes normalized : List String}
      {operatorId newOperatorId : Option String} {expiresAt : Option Int} {now : Int}
      {changed : Tables} (hscopes : normalizeManagementKeyScopes scopes = .ok normalized)
      (hinsert : insertManagementKey tables (managementKeyId (host.sha256Hex plaintextKey))
        (host.sha256Hex plaintextKey) newLabel newOperatorId normalized now expiresAt
        = .ok changed) :
      Changes host tables (.issueManagementKey label scopes operatorId expiresAt plaintextKey)
        changed
  | issueVerifier {label newLabel plaintextKey : String} {expiresAt : Option Int} {now : Int}
      {changed : Tables}
      (hinsert : insertManagementKey tables
        (buildVerifierClientKeyId (host.sha256Hex plaintextKey)) (host.sha256Hex plaintextKey)
        newLabel none [postgresVerifierScope] now expiresAt = .ok changed) :
      Changes host tables (.issueVerifierClientKey label expiresAt plaintextKey) changed
  | revoke {request : Request} (keyId : String) :
      Changes host tables request { tables with keys := tables.keys.setStatus keyId .revoked }
  | operator {email displayName freshId : String} {status : OperatorStatus} (row : OperatorRow)
      (hstatus : row.status = status) :
      Changes host tables (.upsertOperator email displayName status freshId)
        { tables with
          operators := tables.operators.set
            (operatorIdOf tables (host.lower (PyString.strip email)) freshId) row }
  | assignment {operatorId newOperatorId : String} {role : OperatorRole}
      {rootProgramId delegatedAuthorityId issuerId root authority issuer : Option String}
      {status : OperatorRoleStatus} {changed : Tables}
      (hupsert : upsertOperatorRoleAssignment tables newOperatorId role root authority issuer status
        = some changed) :
      Changes host tables
        (.upsertOperatorRoleAssignment operatorId role rootProgramId delegatedAuthorityId issuerId
          status) changed

theorem normalizeRequiredText_eq_ok {value emptyDetail cleaned : String}
    (h : normalizeRequiredText value emptyDetail = .ok cleaned) :
    cleaned = PyString.strip value := by
  rw [normalizeRequiredText] at h
  split at h
  · exact (Except.ok.inj h).symm
  · cases h

theorem revokeKey_changes {request : Request} {ofKind : ApiKeyRow → Bool} {notFound : PyError}
    (h : revokeKey tables keyId ofKind notFound = .ok changed) :
    Changes host tables request changed := by
  rw [revokeKey] at h
  split at h
  · obtain rfl := Except.ok.inj h
    exact .revoke keyId
  · cases h

/-- **ONE REQUEST**: the statement of a prepared request. -/
theorem prepare_changes {request : Request} {statement : Tables → Except PyError Tables}
    (hprepare : prepare host now request = .ok statement) (h : statement tables = .ok changed) :
    Changes host tables request changed := by
  cases request with
  | issueManagementKey label scopes operatorId expiresAt plaintextKey =>
      obtain ⟨-, -, hprepare⟩ := bind_eq_ok_iff.mp hprepare
      obtain ⟨newLabel, -, hprepare⟩ := bind_eq_ok_iff.mp hprepare
      obtain ⟨normalized, hscopes, hprepare⟩ := bind_eq_ok_iff.mp hprepare
      obtain ⟨newOperatorId, -, hprepare⟩ := bind_eq_ok_iff.mp hprepare
      obtain rfl := Except.ok.inj hprepare
      exact .issue hscopes h
  | issueVerifierClientKey label expiresAt plaintextKey =>
      obtain ⟨-, -, hprepare⟩ := bind_eq_ok_iff.mp hprepare
      obtain ⟨newLabel, -, hprepare⟩ := bind_eq_ok_iff.mp hprepare
      obtain rfl := Except.ok.inj hprepare
      exact .issueVerifier h
  | revokeManagementKey keyId =>
      obtain rfl := Except.ok.inj hprepare
      exact revokeKey_changes h
  | revokeVerifierClientKey keyId =>
      obtain rfl := Except.ok.inj hprepare
      exact revokeKey_changes h
  | upsertOperator email displayName status freshId =>
      obtain ⟨cleanEmail, hemail, hprepare⟩ := bind_eq_ok_iff.mp hprepare
      obtain ⟨cleanName, -, hprepare⟩ := bind_eq_ok_iff.mp hprepare
      obtain rfl := Except.ok.inj hprepare
      obtain rfl := normalizeRequiredText_eq_ok hemail
      dsimp only [upsertOperator] at h
      split at h
      · cases h
      · obtain rfl := Except.ok.inj h
        exact .operator _ rfl
  | upsertOperatorRoleAssignment operatorId role rootProgramId delegatedAuthorityId issuerId
      status =>
      obtain ⟨-, -, hprepare⟩ := bind_eq_ok_iff.mp hprepare
      obtain ⟨uuid, -, hprepare⟩ := bind_eq_ok_iff.mp hprepare
      cases uuid with
      | none => cases hprepare
      | some newOperatorId =>
          obtain rfl := Except.ok.inj hprepare
          dsimp only at h
          split at h
          · cases h
          · rename_i hupsert
            obtain rfl := Except.ok.inj h
            exact .assignment hupsert

theorem handle_changes (h : handle host tables step = .ok (principal, changed)) :
    managementPrincipal host.sha256Hex tables step.now step.adminToken step.request.requiredScope
        = .ok principal
      ∧ Changes host tables step.request changed := by
  obtain ⟨statement, hprepare, h⟩ := bind_eq_ok_iff.mp h
  obtain ⟨principal', hprincipal, h⟩ := bind_eq_ok_iff.mp h
  obtain ⟨changed', hstatement, h⟩ := bind_eq_ok_iff.mp h
  obtain ⟨rfl, rfl⟩ := Prod.mk.inj (Except.ok.inj h)
  exact ⟨hprincipal, prepare_changes hprepare hstatement⟩

/-- A principal that is let in was loaded. -/
theorem managementPrincipal_scopes {sha256Hex : String → String} {adminToken required : String}
    (h : managementPrincipal sha256Hex tables now adminToken required = .ok principal) :
    principal.scopes = loadedScopes tables now principal.keyId := by
  rw [managementPrincipal] at h
  split at h
  · cases h
  · rename_i loaded hloaded
    rw [requireScope] at h
    split at h
    · obtain rfl := Except.ok.inj h
      exact loadManagementPrincipal_scopes hloaded
    · cases h

/-! ## Keys -/

/-- What an insert leaves and what it adds. -/
structure Inserted (tables changed : Tables) (keyId : String) (scopes : List String) : Prop where
  fresh : tables.keys.find? keyId = none
  row : ∃ row, changed.keys.find? keyId = some row ∧ row.scopes = scopes
  others : ∀ other, other ≠ keyId → changed.keys.find? other = tables.keys.find? other
  keyOperators : ∀ other, other ≠ keyId →
    changed.keyOperators.get? other = tables.keyOperators.get? other
  operators : changed.operators = tables.operators
  assignments : changed.assignments = tables.assignments

theorem insertManagementKey_inserted {keyHash label : String} {operatorId : Option String}
    {scopes : List String} {expiresAt : Option Int}
    (h : insertManagementKey tables keyId keyHash label operatorId scopes now expiresAt
      = .ok changed) : Inserted tables changed keyId scopes := by
  rw [insertManagementKey] at h
  split at h
  · cases h
  · rename_i keys hinsert
    obtain ⟨hfresh, hfind⟩ := insert_eq_some hinsert
    have hothers : ∀ other, other ≠ keyId → keys.find? other = tables.keys.find? other :=
      fun other hne => (hfind other).trans (if_neg hne)
    split at h
    · obtain rfl := Except.ok.inj h
      exact ⟨hfresh, ⟨_, (hfind keyId).trans (if_pos rfl), rfl⟩, hothers, fun _ _ => rfl, rfl, rfl⟩
    · split at h
      · obtain rfl := Except.ok.inj h
        exact ⟨hfresh, ⟨_, (hfind keyId).trans (if_pos rfl), rfl⟩, hothers,
          fun other hne => get?_set_ne _ _ hne, rfl, rfl⟩
      · cases h

/-- The effective scopes of a key are of its own scopes and its operator's roles. -/
theorem effectiveScopes_congr
    (hkey : changed.keyOperators.get? keyId = tables.keyOperators.get? keyId)
    (hoperators : changed.operators = tables.operators)
    (hassignments : changed.assignments = tables.assignments) (row : ApiKeyRow) :
    effectiveScopes changed keyId row = effectiveScopes tables keyId row := by
  rw [effectiveScopes, effectiveScopes, hkey]
  simp only [loadOperatorRoleScopes, hoperators, hassignments]

theorem Inserted.loadedScopes_ne {scopes : List String} {other : String}
    (h : Inserted tables changed keyId scopes) (hne : other ≠ keyId) :
    loadedScopes changed now other = loadedScopes tables now other := by
  rw [loadedScopes, loadedScopes, h.others other hne]
  simp only [effectiveScopes_congr (h.keyOperators other hne) h.operators h.assignments]

/-- Only the inserted key gains by an insert. -/
theorem Inserted.gained {inserted : String} {scopes : List String}
    (h : Inserted tables changed inserted scopes)
    (hgained : Has (loadedScopes changed now keyId) scope)
    (hnot : ¬ Has (loadedScopes tables now keyId) scope) : keyId = inserted := by
  by_contra hne
  rw [h.loadedScopes_ne hne] at hgained
  exact hnot hgained

/-- Only the inserted key is new after an insert. -/
theorem Inserted.scopes_of_new {inserted : String} {scopes : List String}
    (h : Inserted tables changed inserted scopes) (hnew : tables.keys.find? keyId = none)
    (hrow : changed.keys.find? keyId = some row) : row.scopes = scopes := by
  by_cases hkey : keyId = inserted
  · subst hkey
    obtain ⟨row', hrow', hscopes⟩ := h.row
    obtain rfl := Option.some.inj (hrow'.symm.trans hrow)
    exact hscopes
  · rw [h.others keyId hkey, hnew] at hrow
    cases hrow

/-- A row that does not load at any time gives its key nothing. -/
theorem loadedScopes_not_loadable (hrow : tables.keys.find? keyId = some row)
    (hload : loadable row now = false) : loadedScopes tables now keyId = ∅ := by
  rw [loadedScopes, hrow]
  exact if_neg (by rw [hload]; exact Bool.false_ne_true)

/-- A key with the scope of verifier keys does not load. -/
theorem loadedScopes_verifier (hrow : tables.keys.find? keyId = some row)
    (hscopes : row.scopes.contains postgresVerifierScope = true) :
    loadedScopes tables now keyId = ∅ := by
  refine loadedScopes_not_loadable hrow ?_
  rw [loadable, hscopes, Bool.not_true, Bool.and_false, Bool.false_and, Bool.false_and]

/-- A revoked key does not load. -/
theorem loadedScopes_revoked :
    loadedScopes { tables with keys := tables.keys.setStatus keyId .revoked } now keyId = ∅ := by
  cases hrow : tables.keys.find? keyId with
  | none =>
      rw [loadedScopes, find?_setStatus, hrow]
      rfl
  | some row =>
      have hrevoked : (tables.keys.setStatus keyId .revoked).find? keyId
          = some { row with status := .revoked } := by
        rw [find?_setStatus, hrow]
        exact congrArg some (if_pos rfl)
      refine loadedScopes_not_loadable hrevoked ?_
      simp [loadable]

/-! ## Roles -/

/-- What the assigned roles grant. -/
theorem grants_assignedScopes {assignments : List AssignmentRow} {operatorId : String} :
    Has (assignedScopes assignments operatorId) scope ↔
      ∃ row ∈ assignments, row.operatorId = operatorId ∧ row.status = .active
        ∧ Has (roleScopeGrants row.role) scope := by
  induction assignments with
  | nil => simp [assignedScopes]
  | cons row rest ih =>
      have hcons : assignedScopes (row :: rest) operatorId
          = if row.operatorId = operatorId ∧ row.status = .active then
              roleScopeGrants row.role ∪ assignedScopes rest operatorId
            else assignedScopes rest operatorId := by
        by_cases hrow : row.operatorId = operatorId ∧ row.status = .active
        · simp [assignedScopes, hrow]
        · rw [if_neg hrow, assignedScopes, List.filter_cons_of_neg (by simpa using hrow)]
          rfl
      rw [hcons]
      split
      · rename_i hrow
        refine (grants_union.trans (or_congr_right ih)).trans ?_
        constructor
        · rintro (h | ⟨other, hmem, h⟩)
          · exact ⟨row, List.mem_cons_self .., hrow.1, hrow.2, h⟩
          · exact ⟨other, List.mem_cons_of_mem _ hmem, h⟩
        · rintro ⟨other, hmem, hother, hactive, h⟩
          rcases List.mem_cons.mp hmem with rfl | hmem
          · exact .inl h
          · exact .inr ⟨other, hmem, hother, hactive, h⟩
      · rename_i hrow
        rw [ih]
        constructor
        · rintro ⟨other, hmem, h⟩
          exact ⟨other, List.mem_cons_of_mem _ hmem, h⟩
        · rintro ⟨other, hmem, hother, hactive, h⟩
          rcases List.mem_cons.mp hmem with rfl | hmem
          · exact absurd ⟨hother, hactive⟩ hrow
          · exact ⟨other, hmem, hother, hactive, h⟩

theorem grants_roleScopes {operatorId : String} :
    Has (loadOperatorRoleScopes tables operatorId) scope ↔
      (tables.operators.get? operatorId).any (fun row => row.status = .active) = true
        ∧ Has (assignedScopes tables.assignments operatorId) scope := by
  rw [loadOperatorRoleScopes]
  split
  · rename_i hactive
    exact ⟨fun h => ⟨hactive, h⟩, fun h => h.2⟩
  · rename_i hinactive
    exact ⟨fun h => absurd h not_grants_empty, fun h => absurd h.1 hinactive⟩

/-- What a key gains while the keys stay as they are, the roles of its operator
    gain. -/
theorem gained_roles (hkeys : changed.keys = tables.keys)
    (hkeyOperators : changed.keyOperators = tables.keyOperators)
    (hgained : Has (loadedScopes changed now keyId) scope)
    (hnot : ¬ Has (loadedScopes tables now keyId) scope) :
    ∃ operatorId, Has (loadOperatorRoleScopes changed operatorId) scope
      ∧ ¬ Has (loadOperatorRoleScopes tables operatorId) scope := by
  rw [loadedScopes, hkeys] at hgained
  rw [loadedScopes] at hnot
  cases hrow : tables.keys.find? keyId with
  | none =>
      rw [hrow] at hgained
      exact absurd hgained not_grants_empty
  | some row =>
      rw [hrow] at hgained hnot
      dsimp only at hgained hnot
      by_cases hload : loadable row now = true
      · rw [if_pos hload, effectiveScopes, hkeyOperators] at hgained
        rw [if_pos hload, effectiveScopes] at hnot
        cases hoperator : tables.keyOperators.get? keyId with
        | none =>
            rw [hoperator] at hgained hnot
            exact absurd hgained hnot
        | some operatorId =>
            rw [hoperator] at hgained hnot
            exact ⟨operatorId, grants_of_gained hgained hnot⟩
      · rw [if_neg hload] at hgained
        exact absurd hgained not_grants_empty

/-- An assignment that the tables have after an upsert, they had before, or it
    is of the role and with the status that were given. -/
theorem upserted_assignment {operatorId : String} {role : OperatorRole}
    {root authority issuer : Option String} {status : OperatorRoleStatus}
    (h : upsertOperatorRoleAssignment tables operatorId role root authority issuer status
      = some changed) :
    changed.keys = tables.keys ∧ changed.keyOperators = tables.keyOperators
      ∧ changed.operators = tables.operators
      ∧ ∀ row ∈ changed.assignments, row ∈ tables.assignments
        ∨ row.role = role ∧ row.status = status := by
  rw [upsertOperatorRoleAssignment] at h
  split at h
  · obtain rfl := Option.some.inj h
    refine ⟨rfl, rfl, rfl, fun row hmem => ?_⟩
    obtain ⟨old, hold, rfl⟩ := List.mem_map.mp hmem
    split
    · rename_i hfor
      simp only [AssignmentRow.isFor, Bool.and_eq_true, decide_eq_true_eq] at hfor
      exact .inr ⟨hfor.1.1.1.2, rfl⟩
    · exact .inl hold
  · split at h
    · obtain rfl := Option.some.inj h
      refine ⟨rfl, rfl, rfl, fun row hmem => ?_⟩
      rcases List.mem_append.mp hmem with hmem | hmem
      · exact .inl hmem
      · obtain rfl := List.mem_singleton.mp hmem
        exact .inr ⟨rfl, rfl⟩
    · cases h

/-! ## Requests that stay within their principal -/

/-- **DELEGATED**: whoever the request comes from has the scopes of the key that
    it issues, of the role that it puts in force, and of the roles of the
    operator that it puts in force. -/
def Delegated (host : Host) (tables : Tables) (step : Step) : Prop :=
  ∀ principal, managementPrincipal host.sha256Hex tables step.now step.adminToken
      step.request.requiredScope = .ok principal →
    match step.request with
    | .issueManagementKey _ scopes _ _ _ => ∀ normalized,
        normalizeManagementKeyScopes scopes = .ok normalized →
        ∀ scope ∈ normalized, Has principal.scopes scope
    | .upsertOperator email _ status freshId => status = .active →
        (tables.operators.get?
          (operatorIdOf tables (host.lower (PyString.strip email)) freshId)).any
            (fun row => row.status = .active) = true
        ∨ ∀ scope ∈ assignedScopes tables.assignments
            (operatorIdOf tables (host.lower (PyString.strip email)) freshId),
          Has principal.scopes scope
    | .upsertOperatorRoleAssignment _ role _ _ _ status => status = .active →
        ∀ scope ∈ roleScopeGrants role, Has principal.scopes scope
    | _ => True

/-- **STEP**: what a key gains through a delegated request, the principal has. -/
theorem gained_step (hmeets : Delegated host tables step)
    (h : handle host tables step = .ok (principal, changed))
    (hgained : Has (loadedScopes changed now keyId) scope)
    (hnot : ¬ Has (loadedScopes tables now keyId) scope) : Has principal.scopes scope := by
  obtain ⟨hprincipal, hchanges⟩ := handle_changes h
  have hwithin := hmeets principal hprincipal
  revert hwithin
  generalize step.request = request at hchanges ⊢
  intro hwithin
  cases hchanges with
  | issue hscopes hinsert =>
      have hinserted := insertManagementKey_inserted hinsert
      obtain rfl := hinserted.gained hgained hnot
      obtain ⟨row, hrow, rfl⟩ := hinserted.row
      refine within_iff.mpr ?_ scope (loadedScopes_within hrow scope hgained)
      intro granted hmem
      exact hwithin _ hscopes granted (List.mem_toFinset.mp hmem)
  | issueVerifier hinsert =>
      have hinserted := insertManagementKey_inserted hinsert
      obtain rfl := hinserted.gained hgained hnot
      obtain ⟨row, hrow, hscopes⟩ := hinserted.row
      rw [loadedScopes_verifier hrow (by rw [hscopes]; decide)] at hgained
      exact absurd hgained not_grants_empty
  | revoke revoked =>
      by_cases hkey : keyId = revoked
      · subst hkey
        rw [loadedScopes_revoked] at hgained
        exact absurd hgained not_grants_empty
      · rw [loadedScopes, find?_setStatus_ne _ hkey] at hgained
        exact absurd hgained hnot
  | @operator email _ freshId _ row hstatus =>
      obtain ⟨operatorId, hafter, hbefore⟩ := gained_roles (by rfl) (by rfl) hgained hnot
      obtain ⟨hactive, hroles⟩ := grants_roleScopes.mp hafter
      by_cases hoperator : operatorId
          = operatorIdOf tables (host.lower (PyString.strip email)) freshId
      · subst hoperator
        rw [get?_set_self] at hactive
        rcases hwithin (hstatus.symm.trans (of_decide_eq_true hactive)) with hwas | hassigned
        · exact absurd (grants_roleScopes.mpr ⟨hwas, hroles⟩) hbefore
        · exact within_iff.mpr hassigned scope hroles
      · rw [get?_set_ne _ _ hoperator] at hactive
        exact absurd (grants_roleScopes.mpr ⟨hactive, hroles⟩) hbefore
  | assignment hupsert =>
      obtain ⟨hkeys, hkeyOperators, hoperators, hrows⟩ := upserted_assignment hupsert
      obtain ⟨operatorId, hafter, hbefore⟩ := gained_roles hkeys hkeyOperators hgained hnot
      obtain ⟨hactive, hroles⟩ := grants_roleScopes.mp hafter
      rw [hoperators] at hactive
      obtain ⟨row, hmem, hrow, hrowActive, hgrants⟩ := grants_assignedScopes.mp hroles
      rcases hrows row hmem with hold | ⟨rfl, rfl⟩
      · have hassigned := grants_assignedScopes.mpr ⟨row, hold, hrow, hrowActive, hgrants⟩
        exact absurd (grants_roleScopes.mpr ⟨hactive, hassigned⟩) hbefore
      · exact within_iff.mpr (hwithin hrowActive) scope hgrants

/-! ## Runs -/

theorem apply_of_ok (h : handle host tables step = .ok (principal, changed)) :
    apply host tables step = changed := by
  rw [apply, h]

theorem apply_of_error {error : PyError} (h : handle host tables step = .error error) :
    apply host tables step = tables := by
  rw [apply, h]

/-- A key keeps its own scopes through a request. -/
theorem scopes_step (hrow : tables.keys.find? keyId = some row) :
    ∃ row', (apply host tables step).keys.find? keyId = some row' ∧ row'.scopes = row.scopes := by
  cases h : handle host tables step with
  | error error => exact ⟨row, by rwa [apply_of_error h], rfl⟩
  | ok served =>
      obtain ⟨principal, changed⟩ := served
      rw [apply_of_ok h]
      have hinsert : ∀ {inserted scopes}, Inserted tables changed inserted scopes →
          ∃ row', changed.keys.find? keyId = some row' ∧ row'.scopes = row.scopes := by
        intro inserted scopes hinserted
        have hne : keyId ≠ inserted := by
          rintro rfl
          rw [hinserted.fresh] at hrow
          cases hrow
        exact ⟨row, (hinserted.others keyId hne).trans hrow, rfl⟩
      obtain ⟨-, hchanges⟩ := handle_changes h
      generalize step.request = request at hchanges
      cases hchanges with
      | issue _ hinserted => exact hinsert (insertManagementKey_inserted hinserted)
      | issueVerifier hinserted => exact hinsert (insertManagementKey_inserted hinserted)
      | revoke revoked =>
          by_cases hkey : keyId = revoked
          · refine ⟨{ row with status := .revoked }, ?_, rfl⟩
            rw [find?_setStatus, hrow]
            exact congrArg some (if_pos hkey)
          · exact ⟨row, (find?_setStatus_ne _ hkey).trans hrow, rfl⟩
      | operator _ _ => exact ⟨row, hrow, rfl⟩
      | assignment hupsert =>
          obtain ⟨hkeys, -⟩ := upserted_assignment hupsert
          exact ⟨row, by rwa [hkeys], rfl⟩

/-- **RUN**: a key keeps its own scopes through a run. -/
theorem scopes_run (steps : List Step) (hrow : tables.keys.find? keyId = some row) :
    ∃ row', ((machine host).applyAll tables steps).keys.find? keyId = some row'
      ∧ row'.scopes = row.scopes := by
  refine (machine host).applyAll_invariant
    (I := fun s => ∃ row', s.keys.find? keyId = some row' ∧ row'.scopes = row.scopes) ?_
    ⟨row, hrow, rfl⟩
  rintro s step - ⟨row', hrow', hscopes⟩
  obtain ⟨row'', hrow'', hscopes'⟩ := @scopes_step host s keyId row' step hrow'
  exact ⟨row'', hrow'', hscopes'.trans hscopes⟩

/-- A new key has scopes of the principal that issues it only. -/
theorem issued_within (hmeets : Delegated host tables step)
    (h : handle host tables step = .ok (principal, changed))
    (hnew : tables.keys.find? keyId = none) (hrow : changed.keys.find? keyId = some row)
    (hkind : row.scopes.contains postgresVerifierScope = false) :
    Within adminScope row.scopes.toFinset principal.scopes := by
  obtain ⟨hprincipal, hchanges⟩ := handle_changes h
  have hwithin := hmeets principal hprincipal
  revert hwithin
  generalize step.request = request at hchanges ⊢
  intro hwithin
  have hold : changed.keys.find? keyId = tables.keys.find? keyId →
      Within adminScope row.scopes.toFinset principal.scopes := by
    intro heq
    rw [heq, hnew] at hrow
    cases hrow
  cases hchanges with
  | issue hscopes hinsert =>
      obtain rfl := (insertManagementKey_inserted hinsert).scopes_of_new hnew hrow
      refine within_iff.mpr fun granted hmem => ?_
      exact hwithin _ hscopes granted (List.mem_toFinset.mp hmem)
  | issueVerifier hinsert =>
      rw [(insertManagementKey_inserted hinsert).scopes_of_new hnew hrow] at hkind
      exact absurd hkind (by decide)
  | revoke revoked =>
      rw [find?_setStatus, hnew] at hrow
      cases hrow
  | operator _ _ => exact hold rfl
  | assignment hupsert =>
      obtain ⟨hkeys, -⟩ := upserted_assignment hupsert
      exact hold (by rw [hkeys])

/-- **NO ADMIN**: no key loads with the scope that stands for all. -/
def NoAdmin (tables : Tables) : Prop :=
  ∀ now keyId, ¬ Has (loadedScopes tables now keyId) adminScope

/-- **STEP**: a delegated request makes no admin where there is none. -/
theorem noAdmin_step (hmeets : Delegated host tables step) (h : NoAdmin tables) :
    NoAdmin (apply host tables step) := by
  intro now keyId hgained
  cases hserved : handle host tables step with
  | error error =>
      rw [apply_of_error hserved] at hgained
      exact h now keyId hgained
  | ok served =>
      obtain ⟨principal, changed⟩ := served
      rw [apply_of_ok hserved] at hgained
      have hadmin := gained_step hmeets hserved hgained (h now keyId)
      obtain ⟨hprincipal, -⟩ := handle_changes hserved
      rw [managementPrincipal_scopes hprincipal] at hadmin
      exact h step.now principal.keyId hadmin

/-- **NO ESCALATION**: in a run of delegated requests, whatever a key that was
    issued loads with later its issuer had, whatever a key gains the one who
    changed it has, and an admin comes from an admin only. -/
theorem no_escalation {steps : List Step}
    (hmeets : (machine host).EachMeets (Delegated host) tables steps) :
    (∀ before step rest, steps = before ++ step :: rest → ∀ principal changed keyId,
        handle host ((machine host).applyAll tables before) step = .ok (principal, changed) →
        ((machine host).applyAll tables before).keys.find? keyId = none →
        (changed.keys.find? keyId).isSome = true → ∀ now plaintextKey loaded,
        loadManagementPrincipal host.sha256Hex ((machine host).applyAll tables steps) now
          plaintextKey = some loaded →
        loaded.keyId = keyId → Within adminScope loaded.scopes principal.scopes)
      ∧ (∀ before step rest, steps = before ++ step :: rest → ∀ principal changed,
        handle host ((machine host).applyAll tables before) step = .ok (principal, changed) →
        ∀ now keyId scope, Has (loadedScopes changed now keyId) scope →
        ¬ Has (loadedScopes ((machine host).applyAll tables before) now keyId) scope →
        Has principal.scopes scope)
      ∧ (NoAdmin tables → ∀ now plaintextKey loaded,
        loadManagementPrincipal host.sha256Hex ((machine host).applyAll tables steps) now
          plaintextKey = some loaded → adminScope ∉ loaded.scopes) := by
  refine ⟨?_, ?_, ?_⟩
  · rintro before step rest rfl principal changed keyId hserved hnew hissued now plaintextKey
      loaded hloaded rfl
    obtain ⟨row, hrow⟩ := Option.isSome_iff_exists.mp hissued
    have hmeets_step := hmeets.rest.1
    have hlater : (machine host).applyAll tables (before ++ step :: rest)
        = (machine host).applyAll changed rest := by
      rw [Machine.applyAll_append, Machine.applyAll_cons]
      exact congrArg (fun s => (machine host).applyAll s rest) (apply_of_ok hserved)
    obtain ⟨row', hrow', hscopes⟩ := @scopes_run host changed _ _ rest hrow
    rw [loadManagementPrincipal_scopes hloaded, hlater]
    by_cases hkind : row.scopes.contains postgresVerifierScope = false
    · rw [← hscopes] at hkind
      have hissuedWithin := issued_within hmeets_step hserved hnew hrow (by rwa [hscopes] at hkind)
      rw [← hscopes] at hissuedWithin
      exact (loadedScopes_within hrow').trans hissuedWithin
    · rw [Bool.not_eq_false, ← hscopes] at hkind
      rw [loadedScopes_verifier hrow' hkind]
      exact fun a ha => absurd ha not_grants_empty
  · rintro before step rest rfl principal changed hserved now keyId scope hgained hnot
    exact gained_step hmeets.rest.1 hserved hgained hnot
  · intro hnone now plaintextKey loaded hloaded hadmin
    have hend := (machine host).prefix_invariant (I := NoAdmin)
      (fun s step h hmeets => noAdmin_step hmeets h) hnone hmeets steps (List.prefix_refl _)
    rw [loadManagementPrincipal_scopes hloaded] at hadmin
    exact hend now loaded.keyId (.inl hadmin)

/-! ## A key that may issue keys -/

/-- A host whose digests are the texts themselves. -/
def plainHost : Host where
  sha256Hex := id
  lower := id
  uuid := some

/-- Issue a key with one scope. -/
def issueKey (scope plaintextKey adminToken : String) : Step :=
  ⟨.issueManagementKey "ops" [scope] none none plaintextKey, adminToken, 0⟩

/-- The tables with one key, which may issue keys and read the audit log. -/
def keyWriter : Tables where
  keys := ((ApiKeyTable.empty.insert "mkey_writer"
    { keyHash := "writer", label := "ops", scopes := ["audit:read", "management_keys:write"]
      status := .active, notBefore := none, expiresAt := none, createdAt := 0 }).getD .empty)
  keyOperators := .empty
  operators := .empty
  assignments := []

/-- Where no key has the scope that stands for all, none loads with it. -/
theorem noAdmin_of_scopes
    (h : ∀ entry ∈ tables.keys.rows.entries, adminScope ∉ entry.2.scopes) : NoAdmin tables := by
  intro now keyId hadmin
  cases hrow : tables.keys.find? keyId with
  | none =>
      rw [loadedScopes, hrow] at hadmin
      exact not_grants_empty hadmin
  | some row =>
      have hown := loadedScopes_within hrow adminScope hadmin
      exact h (keyId, row) ((get?_eq_some_iff ..).mp hrow)
        (List.mem_toFinset.mp (hown.elim id id))

/-- The principal of the key of `keyWriter`. -/
def writer : ManagementPrincipal where
  keyId := "mkey_writer"
  operatorId := none
  scopes := {"audit:read", "management_keys:write"}

/-- The principal of the key that it issues. -/
def reader : ManagementPrincipal where
  keyId := "mkey_reader"
  operatorId := none
  scopes := {"audit:read"}

theorem no_escalation_reader : Within adminScope reader.scopes writer.scopes := by
  have hprincipal : managementPrincipal plainHost.sha256Hex keyWriter 0 "writer"
      "management_keys:write" = .ok writer := by decide +kernel
  have hscopes : normalizeManagementKeyScopes ["audit:read"] = .ok ["audit:read"] := by
    decide +kernel
  have hdelegated : Delegated plainHost keyWriter (issueKey "audit:read" "reader" "writer") := by
    intro principal hloaded normalized hnormalized scope hmem
    obtain rfl := Except.ok.inj (hprincipal.symm.trans hloaded)
    obtain rfl := Except.ok.inj (hscopes.symm.trans hnormalized)
    obtain rfl := List.mem_singleton.mp hmem
    exact .inl (by decide)
  have hfirst : (handle plainHost keyWriter (issueKey "audit:read" "reader" "writer")).map
      Prod.fst = .ok writer := by decide +kernel
  cases hserved : handle plainHost keyWriter (issueKey "audit:read" "reader" "writer") with
  | error error =>
      rw [hserved] at hfirst
      cases hfirst
  | ok served =>
      obtain ⟨principal, changed⟩ := served
      rw [hserved] at hfirst
      obtain rfl := Except.ok.inj hfirst
      have hissued : (changed.keys.find? "mkey_reader").isSome = true := by
        rw [← apply_of_ok hserved]
        decide +kernel
      have hrun : (machine plainHost).EachMeets (Delegated plainHost) keyWriter
          [issueKey "audit:read" "reader" "writer"] := ⟨hdelegated, trivial⟩
      exact (no_escalation hrun).1 [] _ [] rfl _ changed "mkey_reader" hserved (by decide +kernel)
        hissued 0 "reader" reader (by decide +kernel) rfl

/-- **ADMIN FROM A KEY WRITER**: a key that may issue keys, where there is no
    admin, issues one. -/
theorem admin_from_key_writer :
    NoAdmin keyWriter
      ∧ (loadManagementPrincipal plainHost.sha256Hex
          ((machine plainHost).applyAll keyWriter [issueKey "admin:*" "root" "writer"]) 0 "root").map
            ManagementPrincipal.scopes = some {adminScope} :=
  ⟨noAdmin_of_scopes (by decide +kernel), by decide +kernel⟩

end ManagementAuth
