import QrTrust.Backend.PyRuntime
import QrTrust.Network.PostgresTrustKeys

/-! # Enrolling trust keys

    The two management endpoints that write `qr_trust.trust_keys`: one enrols a
    key with its validity window, the other moves its status along the allowed
    transitions.  A run of them is a list of served requests. -/

namespace TrustKeyEnrolment

open TrustKeys PostgresTrustKeys

/-! ## Requests and responses -/

/-- `TrustKeyUpsertRequest`. -/
structure TrustKeyUpsertRequest where
  keyId : String
  rootProgramId : String
  delegatedAuthorityId : Option String
  signerId : String
  algorithmId : String
  publicKeyMaterialRef : String
  publicKeyMaterialPem : Option String
  scope : TrustKeyScope
  notBefore : Option Datetime
  notAfter : Option Datetime

/-- `TrustKeyStatusUpdateRequest`. -/
structure TrustKeyStatusUpdateRequest where
  rootProgramId : String
  keyId : String
  keyStatus : TrustKeyStatus

/-- `TrustKeyMutationResponse`. -/
structure TrustKeyMutationResponse where
  keyId : String
  keyStatus : TrustKeyStatus
  eventType : String
  deriving DecidableEq, Repr

/-- What the idempotency key of a request does in `record_governance_mutation`. -/
inductive Idempotency where
  | fresh
  | replayed
  | refused (detail : String)
  deriving DecidableEq, Repr

/-- A request as it is served: the clock, the idempotency key, and the roots and
    authorities it meets. -/
structure Served (ρ : Type) where
  request : ρ
  now : Int
  idempotency : Idempotency
  references : ReferencedRows

/-- `_normalize_required_text`. -/
def normalizeRequiredText (value emptyDetail : String) : Except PyError String :=
  let cleaned := PyString.strip value
  if cleaned ≠ "" then .ok cleaned else .error (.httpException 422 emptyDetail)

/-- `_optional_clean_text`. -/
def optionalCleanText (value : Option String) : Option String :=
  (value.map PyString.strip).filter (· ≠ "")

/-- `_timezone_aware_datetime`. -/
def timezoneAwareDatetime (value : Option Datetime) (fieldName : String) : Except PyError Unit :=
  if value.any fun value => value.utcoffset.isNone then
    .error (.valueError (fieldName ++ " must include a timezone"))
  else .ok ()

/-- `_validity_window_must_be_usable`. -/
def validityWindowMustBeUsable (now : Int) (request : TrustKeyUpsertRequest) :
    Except PyError Unit := do
  timezoneAwareDatetime request.notBefore "not_before"
  timezoneAwareDatetime request.notAfter "not_after"
  match request.notAfter with
  | none => .ok ()
  | some notAfter =>
      if notAfter.instant ≤ now then .error (.valueError "not_after must be in the future")
      else if request.notBefore.any fun notBefore => notAfter.instant ≤ notBefore.instant then
        .error (.valueError "not_after must be later than not_before")
      else .ok ()

/-! ## Enrolment -/

/-- The row a request asks for, once its texts are clean and its scope fits. -/
def requestedRow (call : Served TrustKeyUpsertRequest) : Except PyError TrustKeyRow := do
  let request := call.request
  validityWindowMustBeUsable call.now request
  let keyId ← normalizeRequiredText request.keyId "trust key id is required"
  let rootProgramId ← normalizeRequiredText request.rootProgramId "root program id is required"
  let delegatedAuthorityId := optionalCleanText request.delegatedAuthorityId
  if request.scope = .delegatedAuthority ∧ delegatedAuthorityId = none then
    .error (.httpException 422 "delegated authority trust keys require delegated_authority_id")
  else if request.scope = .rootProgram ∧ delegatedAuthorityId ≠ none then
    .error (.httpException 422
      "root program trust keys cannot include delegated_authority_id")
  else
    let signerId ← normalizeRequiredText request.signerId "signer id is required"
    let algorithmId ← normalizeRequiredText request.algorithmId "algorithm id is required"
    let publicKeyMaterialRef ←
      normalizeRequiredText request.publicKeyMaterialRef "public key material ref is required"
    return { keyId, rootProgramId, delegatedAuthorityId, signerId, algorithmId
             publicKeyMaterialRef
             publicKeyMaterialPem := optionalCleanText request.publicKeyMaterialPem
             scope := request.scope
             keyStatus := .active
             notBefore := request.notBefore.map Datetime.instant
             notAfter := request.notAfter.map Datetime.instant
             createdAt := call.now }

/-- `existing_identity == requested_identity`: everything but status and time of
    creation. -/
def sameIdentity (existing requested : TrustKeyRow) : Bool :=
  existing.rootProgramId = requested.rootProgramId
    && existing.delegatedAuthorityId = requested.delegatedAuthorityId
    && existing.signerId = requested.signerId
    && existing.algorithmId = requested.algorithmId
    && existing.publicKeyMaterialRef = requested.publicKeyMaterialRef
    && existing.publicKeyMaterialPem = requested.publicKeyMaterialPem
    && existing.scope = requested.scope
    && existing.notBefore = requested.notBefore
    && existing.notAfter = requested.notAfter

/-- The statement of `build_trust_key_upsert_mutation`; it takes no conflict
    clause. -/
def trustKeyInsert (references : ReferencedRows) (table : TrustKeyTable) (row : TrustKeyRow) :
    Except SqlError TrustKeyTable :=
  if (table.find? row.keyId).isSome then .error .uniqueViolation
  else if !references.allow row then .error .foreignKeyViolation
  else .ok (table.put row)

/-- The exception handlers around a mutation. -/
def persistenceFailure (keyId : String) : SqlError → PyError
  | .uniqueViolation =>
      .httpException 409 ("trust key '" ++ keyId ++ "' was enrolled concurrently; retry the"
        ++ " request to compare its immutable identity")
  | _ => .httpException 503 "management persistence unavailable"

/-- `upsert_trust_key`: the table afterwards, and the response. -/
def upsertTrustKey (table : TrustKeyTable) (call : Served TrustKeyUpsertRequest) :
    TrustKeyTable × Except PyError TrustKeyMutationResponse :=
  match requestedRow call with
  | .error exc => (table, .error exc)
  | .ok requested =>
      match table.find? requested.keyId with
      | some existing =>
          if sameIdentity existing requested then
            (table, .ok ⟨requested.keyId, existing.keyStatus, "trust_key.replayed"⟩)
          else
            (table, .error (.httpException 409 ("trust key '" ++ requested.keyId
              ++ "' already enrolled with a different identity")))
      | none =>
          match call.idempotency with
          | .refused detail => (table, .error (.httpException 409 detail))
          | .replayed => (table, .ok ⟨requested.keyId, .active, "trust_key.upserted"⟩)
          | .fresh =>
              match trustKeyInsert call.references table requested with
              | .error exc => (table, .error (persistenceFailure requested.keyId exc))
              | .ok inserted =>
                  (inserted, .ok ⟨requested.keyId, .active, "trust_key.upserted"⟩)

/-! ## Status changes -/

/-- The text of a status. -/
def statusText : TrustKeyStatus → String
  | .active => "active"
  | .suspended => "suspended"
  | .revoked => "revoked"
  | .expired => "expired"

/-- `TRUST_KEY_TRANSITIONS`. -/
def trustKeyTransitions : TrustKeyStatus → List TrustKeyStatus
  | .active => [.suspended, .revoked, .expired]
  | .suspended => [.active, .revoked, .expired]
  | .revoked => []
  | .expired => [.revoked]

/-- `TransitionCheck`, by its kind. -/
inductive TransitionCheck where
  | noop
  | terminal
  | disallowed (detail : String)
  | allowed
  deriving DecidableEq, Repr

/-- `check_transition` over the trust-key transitions. -/
def checkTransition (current requested : TrustKeyStatus) : TransitionCheck :=
  if requested = current then .noop
  else if trustKeyTransitions current = [] then .terminal
  else if requested ∉ trustKeyTransitions current then
    .disallowed ("transition '" ++ statusText current ++ "' -> '" ++ statusText requested
      ++ "' is not allowed")
  else .allowed

/-- The statement of `build_trust_key_status_update_mutation`. -/
def trustKeyStatusUpdate (table : TrustKeyTable) (rootProgramId keyId : String)
    (keyStatus : TrustKeyStatus) : Except SqlError (TrustKeyTable × Nat) :=
  (trustKeyStatusUpdateCommand table
      { rootProgramId, keyId, status := keyStatus, delegatedAuthorityId := none }).map
    fun (changed, rows) => (changed, rows.length)

/-- `update_trust_key_status`: the table afterwards, and the response. -/
def updateTrustKeyStatus (table : TrustKeyTable) (call : Served TrustKeyStatusUpdateRequest) :
    TrustKeyTable × Except PyError TrustKeyMutationResponse :=
  match (do
    let rootProgramId ←
      normalizeRequiredText call.request.rootProgramId "root program id is required"
    let keyId ← normalizeRequiredText call.request.keyId "trust key id is required"
    return (rootProgramId, keyId)) with
  | .error exc => (table, .error exc)
  | .ok (rootProgramId, keyId) =>
      match (table.find? keyId).filter fun row => row.rootProgramId = rootProgramId with
      | none =>
          (table, .error (.httpException 404 ("trust key '" ++ keyId
            ++ "' not found for root program '" ++ rootProgramId ++ "'")))
      | some row =>
          match checkTransition row.keyStatus call.request.keyStatus with
          | .noop => (table, .ok ⟨keyId, row.keyStatus, "trust_key.status.unchanged"⟩)
          | .terminal => (table, .error (.httpException 409 "revocation is terminal"))
          | .disallowed detail => (table, .error (.httpException 409 detail))
          | .allowed =>
              match call.idempotency with
              | .refused detail => (table, .error (.httpException 409 detail))
              | .replayed =>
                  (table, .ok ⟨keyId, call.request.keyStatus, "trust_key.status.changed"⟩)
              | .fresh =>
                  match trustKeyStatusUpdate table rootProgramId keyId call.request.keyStatus with
                  | .error exc => (table, .error (persistenceFailure keyId exc))
                  | .ok (_, 0) =>
                      (table, .error (.httpException 409
                        "trust key status update requires an existing trust key"))
                  | .ok (updated, _) =>
                      (updated,
                        .ok ⟨keyId, call.request.keyStatus, "trust_key.status.changed"⟩)

/-! ## Runs -/

/-- A served request of either endpoint. -/
inductive Call where
  | enrol (call : Served TrustKeyUpsertRequest)
  | changeStatus (call : Served TrustKeyStatusUpdateRequest)

/-- The table after a call. -/
def step (table : TrustKeyTable) : Call → TrustKeyTable
  | .enrol call => (upsertTrustKey table call).1
  | .changeStatus call => (updateTrustKeyStatus table call).1

/-- The table after a list of calls, from an empty one. -/
def run (calls : List Call) : TrustKeyTable := calls.foldl step .empty

/-! ## What a call writes -/

variable {table : TrustKeyTable} {call : Call} {row row' : TrustKeyRow} {keyId : String}
  {calls : List Call}

/-- The row a call inserts. -/
def inserts (table : TrustKeyTable) : Call → Option TrustKeyRow
  | .enrol call =>
      if call.idempotency = .fresh then
        (requestedRow call).toOption.filter fun row =>
          (table.find? row.keyId).isNone && call.references.allow row
      else none
  | .changeStatus _ => none

/-- **ONE ENROLMENT**: its row is written, where it inserts one. -/
theorem step_enrol (served : Served TrustKeyUpsertRequest) :
    step table (.enrol served)
      = ((inserts table (.enrol served)).map table.put).getD table := by
  rw [step, upsertTrustKey, inserts]
  cases requestedRow served with
  | error exc => cases served.idempotency <;> rfl
  | ok requested =>
      have hrequested : (Except.ok requested : Except PyError TrustKeyRow).toOption
          = some requested := rfl
      rw [hrequested, Option.filter_some]
      dsimp only
      cases hfind : table.find? requested.keyId with
      | some existing =>
          -- enrolled before: the answer depends on the identity, the table does not
          have hinserts : (if served.idempotency = .fresh then
              (if ((some existing).isNone && served.references.allow requested) = true then
                some requested else none) else none) = none := by
            split <;> rfl
          rw [hinserts]
          dsimp only
          split <;> rfl
      | none =>
          cases served.idempotency with
          | refused detail => rfl
          | replayed => rfl
          | fresh =>
              rw [trustKeyInsert, hfind]
              cases served.references.allow requested <;> rfl

/-- **ONE STATUS CHANGE**: the table stays, or one row gets another status. -/
theorem step_changeStatus (served : Served TrustKeyStatusUpdateRequest) :
    step table (.changeStatus served) = table
      ∨ ∃ row status, table.find? row.keyId = some row
        ∧ step table (.changeStatus served)
          = table.put { row with keyStatus := status } := by
  rw [step, updateTrustKeyStatus]
  split
  · exact .inl rfl
  · rename_i rootProgramId keyId _
    split
    · exact .inl rfl
    · split
      · exact .inl rfl
      · exact .inl rfl
      · exact .inl rfl
      · split
        · exact .inl rfl
        · exact .inl rfl
        · rw [trustKeyStatusUpdate, trustKeyStatusUpdateCommand]
          cases hfind : (table.find? keyId).filter (statusUpdateApplies
              { rootProgramId, keyId, status := served.request.keyStatus,
                delegatedAuthorityId := none }) with
          | none => exact .inl rfl
          | some row =>
              have hrow : table.find? keyId = some row := (Option.filter_eq_some_iff.mp hfind).1
              have hkey := (TrustKeyTable.mem_of_find? hrow).2
              dsimp only
              cases enforceTerminalKeyStatus row.keyStatus served.request.keyStatus with
              | true => exact .inl rfl
              | false => exact .inr ⟨row, served.request.keyStatus, hkey ▸ hrow, rfl⟩

/-! ## What an enrolment fixes -/

/-- A row with the identity, the window and the time of creation of another. -/
def SameEnrolment (enrolled row : TrustKeyRow) : Prop :=
  row = { enrolled with keyStatus := row.keyStatus }

theorem SameEnrolment.refl (row : TrustKeyRow) : SameEnrolment row row := rfl

theorem SameEnrolment.withStatus (row : TrustKeyRow) (status : TrustKeyStatus) :
    SameEnrolment row { row with keyStatus := status } := rfl

theorem SameEnrolment.trans {a b c : TrustKeyRow} (h : SameEnrolment a b)
    (h' : SameEnrolment b c) : SameEnrolment a c :=
  calc
    c = { b with keyStatus := c.keyStatus } := h'
    _ = { a with keyStatus := c.keyStatus } := by rw [h]

/-- What a call leaves was there before, or was enrolled by it. -/
theorem step_origin (h : (step table call).find? keyId = some row') :
    (∃ row, table.find? keyId = some row ∧ SameEnrolment row row')
      ∨ inserts table call = some row' := by
  cases call with
  | enrol served =>
      rw [step_enrol] at h
      cases hinserts : inserts table (.enrol served) with
      | none =>
          rw [hinserts] at h
          exact .inl ⟨row', h, .refl row'⟩
      | some inserted =>
          rw [hinserts] at h
          have hput : (table.put inserted).find? keyId = some row' := h
          rw [TrustKeyTable.find?_put] at hput
          split at hput
          · exact .inr hput
          · exact .inl ⟨row', hput, .refl row'⟩
  | changeStatus served =>
      rcases @step_changeStatus table served with heq | ⟨changed, status, hchanged, heq⟩
      · rw [heq] at h
        exact .inl ⟨row', h, .refl row'⟩
      · rw [heq, TrustKeyTable.find?_put] at h
        split at h
        · rename_i hkey
          obtain rfl := Option.some.inj h
          exact .inl ⟨changed, hkey ▸ hchanged, .withStatus changed status⟩
        · exact .inl ⟨row', h, .refl row'⟩

/-! ## Runs -/

/-- **ENROLLED**: some call of the run inserted the row. -/
def Enrolled (calls : List Call) (row : TrustKeyRow) : Prop :=
  ∃ earlier call later, calls = earlier ++ call :: later
    ∧ inserts (run earlier) call = some row

theorem run_concat : run (calls ++ [call])
    = step (run calls) call :=
  List.foldl_append

theorem enrolled_concat : Enrolled (calls ++ [call]) row ↔
    Enrolled calls row ∨ inserts (run calls) call = some row := by
  constructor
  · rintro ⟨earlier, enrolling, later, hsplit, hinserts⟩
    rcases List.eq_nil_or_concat later with rfl | ⟨later, last, rfl⟩
    · obtain ⟨rfl, hlast⟩ := List.append_inj' hsplit rfl
      obtain rfl := (List.cons.inj hlast).1
      exact .inr hinserts
    · rw [List.concat_eq_append, ← List.cons_append, ← List.append_assoc] at hsplit
      obtain ⟨rfl, -⟩ := List.append_inj' hsplit rfl
      exact .inl ⟨earlier, enrolling, later, rfl, hinserts⟩
  · rintro (⟨earlier, enrolling, later, rfl, hinserts⟩ | hinserts)
    · exact ⟨earlier, enrolling, later ++ [call], by simp, hinserts⟩
    · exact ⟨calls, call, [], rfl, hinserts⟩

/-- Every row of the table was enrolled. -/
theorem enrolled_of_find? (h : (run calls).find? keyId = some row') :
    ∃ row, Enrolled calls row ∧ SameEnrolment row row' := by
  induction calls using List.reverseRecOn generalizing row' with
  | nil => cases h
  | append_singleton calls call ih =>
      rw [run_concat] at h
      rcases step_origin h with ⟨row, hfind, hsame⟩ | hinserts
      · obtain ⟨enrolled, henrolled, hsame'⟩ := ih hfind
        exact ⟨enrolled, enrolled_concat.mpr (.inl henrolled), hsame'.trans hsame⟩
      · exact ⟨row', enrolled_concat.mpr (.inr hinserts), .refl row'⟩

end TrustKeyEnrolment
