import QrTrust.Backend.VerifierApiKeysProofs
import Mathlib.Data.Finset.Basic
import Mathlib.Data.Finset.Card
import Mathlib.Data.List.Induction
import Mathlib.Algebra.Order.Group.Int
import Mathlib.Algebra.Ring.Int.Defs

/-! # Verifier key rotation

    A rotation is three statements on three connections: it lists, it revokes
    and it issues.  `Phase` says what they have done by the time the rotation
    has come to a point; from it, a rotation is one for one as long as nothing
    disturbs it (`rotation_one_for_one`).  The answer of the revocation is not
    looked at and nothing holds the three statements together, so two rotations
    of one key may both return (`rotated_twice`). -/

namespace VerifierApiKeys

open Runs OrderedMap

variable {sha256Hex : String → String} {table table' : ApiKeyTable} {keyId : String}
  {row : ApiKeyRow} {s : State} {step : Step}

/-! ## What a request does -/

/-- What one statement of a request did to the table. -/
structure OwnStep where
  before : ApiKeyTable
  after : ApiKeyTable
  now : Int

/-- The statements of one request in a run. -/
def ownSteps (sha256Hex : String → String) (id : String) : State → List Step → List OwnStep
  | _, [] => []
  | s, step :: rest =>
      (if step.action.request = id then [⟨s.table, (s.apply sha256Hex step).table, step.now⟩]
        else [])
        ++ ownSteps sha256Hex id (s.apply sha256Hex step) rest

/-- The valid keys of a table at a time. -/
def validKeys (table : ApiKeyTable) (now : Int) : Finset String :=
  ((table.rows.entries.filter fun entry => entry.2.validAt now).map Prod.fst).toFinset

theorem mem_validKeys {now : Int} :
    keyId ∈ validKeys table now ↔
      ∃ row, table.find? keyId = some row ∧ row.validAt now = true := by
  rw [validKeys, List.mem_toFinset, List.mem_map]
  constructor
  · rintro ⟨⟨id, row⟩, hmem, rfl⟩
    obtain ⟨hentry, hvalid⟩ := List.mem_filter.mp hmem
    exact ⟨row, (get?_eq_some_iff ..).mpr hentry, hvalid⟩
  · rintro ⟨row, hrow, hvalid⟩
    exact ⟨(keyId, row), List.mem_filter.mpr ⟨(get?_eq_some_iff ..).mp hrow, hvalid⟩, rfl⟩

/-- The step leaves the validity of every key as it was. -/
def OwnStep.KeepsValidity (e : OwnStep) : Prop :=
  ∀ now, validKeys e.after now = validKeys e.before now

/-- The step turns the key, valid until then, into a revoked one, and no other
    key with it. -/
def OwnStep.Revokes (e : OwnStep) (keyId : String) : Prop :=
  keyId ∈ validKeys e.before e.now
    ∧ (∃ row, e.after.find? keyId = some row ∧ row.status = .revoked)
    ∧ ∀ now, validKeys e.after now = (validKeys e.before now).erase keyId

/-- The step adds a valid key. -/
def OwnStep.Adds (e : OwnStep) (keyId : String) : Prop :=
  keyId ∉ validKeys e.before e.now
    ∧ ∀ now, validKeys e.after now = insert keyId (validKeys e.before now)

/-- By how many valid keys the statements of a request changed the table. -/
def netChange (own : List OwnStep) : Int :=
  (own.map fun e => ((validKeys e.after e.now).card : Int) - (validKeys e.before e.now).card).sum

/-- **ONE FOR ONE**: one statement revokes the key and a later one adds the new
    key; the others leave every key as it was. -/
def OneForOne (keyId newId : String) (own : List OwnStep) : Prop :=
  ∃ first revoke second add third, own = first ++ revoke :: second ++ add :: third
    ∧ revoke.Revokes keyId ∧ add.Adds newId
    ∧ ∀ e ∈ first ++ second ++ third, e.KeepsValidity

/-- **UNDISTURBED**: a rotation whose revocation executes finds its key valid
    still, and its issue executes, under a hash and an id that are new. -/
def Undisturbed (sha256Hex : String → String) (s : State) (step : Step) : Prop :=
  match step.action with
  | .rotateRevoke id => ∀ keyId label, s.requests.get? id = some (.rotating keyId label) →
      step.executes = true → keyId ∈ validKeys s.table step.now
  | .rotateIssue id plaintextKey => ∀ keyId label,
      s.requests.get? id = some (.reissuing keyId label) →
      step.executes = true
        ∧ s.table.find? (buildVerifierClientKeyId (sha256Hex plaintextKey)) = none
        ∧ ∀ other row, s.table.find? other = some row → row.keyHash ≠ sha256Hex plaintextKey
  | _ => True

/-! ## The numbers -/

theorem OwnStep.KeepsValidity.card {e : OwnStep} (h : e.KeepsValidity) :
    ((validKeys e.after e.now).card : Int) - (validKeys e.before e.now).card = 0 := by
  rw [h e.now, sub_self]

theorem netChange_keeps {own : List OwnStep} (h : ∀ e ∈ own, e.KeepsValidity) :
    netChange own = 0 := by
  induction own with
  | nil => rfl
  | cons e rest ih =>
      obtain ⟨he, hrest⟩ := List.forall_mem_cons.mp h
      have hsum := ih hrest
      rw [netChange] at hsum ⊢
      rw [List.map_cons, List.sum_cons, he.card, hsum]
      rfl

theorem netChange_append (own own' : List OwnStep) :
    netChange (own ++ own') = netChange own + netChange own' := by
  rw [netChange, List.map_append, List.sum_append]
  rfl

/-- A rotation that is one for one leaves the number of valid keys. -/
theorem OneForOne.netChange_eq_zero {keyId newId : String} {own : List OwnStep}
    (h : OneForOne keyId newId own) : netChange own = 0 := by
  obtain ⟨first, revoke, second, add, third, rfl, ⟨hvalid, -, hrevoke⟩, ⟨hnew, hadd⟩, hkeeps⟩ := h
  have hfirst : netChange first = 0 := netChange_keeps fun e he => hkeeps e (by simp [he])
  have hsecond : netChange second = 0 := netChange_keeps fun e he => hkeeps e (by simp [he])
  have hthird : netChange third = 0 := netChange_keeps fun e he => hkeeps e (by simp [he])
  have hone : netChange [revoke] = -1 := by
    have hpos := Finset.card_pos.mpr ⟨keyId, hvalid⟩
    simp only [netChange, List.map_cons, List.map_nil, List.sum_cons, List.sum_nil,
      hrevoke revoke.now, Finset.card_erase_of_mem hvalid]
    omega
  have hother : netChange [add] = 1 := by
    simp only [netChange, List.map_cons, List.map_nil, List.sum_cons, List.sum_nil,
      hadd add.now, Finset.card_insert_of_notMem hnew]
    omega
  have hsplit : first ++ revoke :: second ++ add :: third
      = first ++ [revoke] ++ second ++ [add] ++ third := by simp
  rw [hsplit, netChange_append, netChange_append, netChange_append, netChange_append, hfirst,
    hone, hsecond, hother, hthird]
  rfl

/-! ## The table -/

/-- A revocation that finds its key valid takes it out of the valid keys. -/
theorem validKeys_revoke {now : Int} (hvalid : keyId ∈ validKeys table now) :
    (∃ row, (postgresRevokeKey table keyId).1.find? keyId = some row ∧ row.status = .revoked)
      ∧ ∀ now', validKeys (postgresRevokeKey table keyId).1 now'
        = (validKeys table now').erase keyId := by
  obtain ⟨row, hrow, hin⟩ := mem_validKeys.mp hvalid
  have hrevocable : revocable table keyId = true := by
    simp only [ApiKeyRow.validAt, Bool.and_eq_true] at hin
    rw [revocable, hrow]
    exact (Bool.and_eq_true ..).mpr ⟨hin.1.1.2, hin.1.1.1⟩
  rw [postgresRevokeKey, if_pos hrevocable]
  constructor
  · refine ⟨{ row with status := .revoked }, ?_, rfl⟩
    rw [find?_setStatus, hrow]
    exact congrArg some (if_pos rfl)
  · intro now'
    ext other
    rw [Finset.mem_erase, mem_validKeys, mem_validKeys]
    by_cases hother : other = keyId
    · subst hother
      refine iff_of_false ?_ (fun h => h.1 rfl)
      rintro ⟨row', hrow', hvalid'⟩
      rw [find?_setStatus, hrow] at hrow'
      obtain rfl := Option.some.inj hrow'
      simp [ApiKeyRow.validAt] at hvalid'
    · rw [find?_setStatus_ne _ hother]
      exact ⟨fun h => ⟨hother, h⟩, fun h => h.2⟩

/-- An issued row without an expiry is valid at any time. -/
theorem validKeys_issue {now : Int} {keyHash label : String}
    (h : table.insert keyId (issuedRow now keyHash label none) = some table') :
    (∀ now', keyId ∉ validKeys table now')
      ∧ ∀ now', validKeys table' now' = insert keyId (validKeys table now') := by
  obtain ⟨hnone, hfind⟩ := insert_eq_some h
  constructor
  · intro now' hmem
    obtain ⟨row, hrow, -⟩ := mem_validKeys.mp hmem
    rw [hnone] at hrow
    cases hrow
  · intro now'
    ext other
    rw [Finset.mem_insert, mem_validKeys, mem_validKeys, hfind]
    by_cases hother : other = keyId
    · refine iff_of_true ⟨_, if_pos hother, ?_⟩ (.inl hother)
      simp [ApiKeyRow.validAt, issuedRow]
    · rw [if_neg hother]
      exact ⟨.inr, fun h => h.resolve_left hother⟩

/-- A plaintext key whose hash and id are new is stored. -/
theorem postgresStoreRecord_isSome {plaintextKey : String}
    (hid : table.find? (buildVerifierClientKeyId (sha256Hex plaintextKey)) = none)
    (hhash : ∀ other row, table.find? other = some row → row.keyHash ≠ sha256Hex plaintextKey)
    (now : Int) (label : String) (expiresAt : Option Int) :
    ∃ stored, postgresStoreRecord sha256Hex now table plaintextKey label expiresAt
      = some stored := by
  obtain ⟨inserted, hinserted⟩ := Option.isSome_iff_exists.mp
    (@insert_isSome table _ (issuedRow now (sha256Hex plaintextKey) label expiresAt) hid hhash)
  rw [postgresStoreRecord, hinserted]
  exact ⟨_, rfl⟩

/-! ## A rotation, statement by statement -/

/-- **PHASE**: what the statements of a request have done by the time the
    request has come to a point. -/
def Phase (own : List OwnStep) : Option Request → Prop
  | none => ∀ e ∈ own, e.KeepsValidity
  | some (.rotating _ _) => ∀ e ∈ own, e.KeepsValidity
  | some (.rotationRaised _ _) => ∀ e ∈ own, e.KeepsValidity
  | some (.reissuing keyId _) => ∃ first revoke second, own = first ++ revoke :: second
      ∧ revoke.Revokes keyId ∧ ∀ e ∈ first ++ second, e.KeepsValidity
  | some (.rotated keyId key) => OneForOne keyId key.record.keyId own
  | _ => True

theorem forall_mem_concat {own : List OwnStep} {e : OwnStep}
    (hown : ∀ e ∈ own, e.KeepsValidity) (he : e.KeepsValidity) :
    ∀ e' ∈ own ++ [e], e'.KeepsValidity := by
  intro e' hmem
  rcases List.mem_append.mp hmem with hmem | hmem
  · exact hown e' hmem
  · obtain rfl := List.mem_singleton.mp hmem
    exact he

/-- A statement that its request has not come to is no step of it. -/
theorem Phase.idle {own : List OwnStep} {request : Option Request} {e : OwnStep}
    (h : Phase own request) (he : e.KeepsValidity) : Phase (own ++ [e]) request := by
  rcases request with _ | request
  · exact forall_mem_concat h he
  · cases request with
    | rotating keyId label => exact forall_mem_concat h he
    | rotationRaised keyId error => exact forall_mem_concat h he
    | reissuing keyId label =>
        obtain ⟨first, revoke, second, rfl, hrevoke, hkeeps⟩ := h
        refine ⟨first, revoke, second ++ [e], by simp, hrevoke, ?_⟩
        rw [← List.append_assoc]
        exact forall_mem_concat hkeeps he
    | rotated keyId key =>
        obtain ⟨first, revoke, second, add, third, rfl, hrevoke, hadd, hkeeps⟩ := h
        refine ⟨first, revoke, second, add, third ++ [e], by simp, hrevoke, hadd, ?_⟩
        rw [← List.append_assoc]
        exact forall_mem_concat hkeeps he
    | _ => trivial

/-- **STEP**: an undisturbed statement of a request moves it on in its phases. -/
theorem phase_step {own : List OwnStep} (hmeets : Undisturbed sha256Hex s step)
    (h : Phase own (s.requests.get? step.action.request)) :
    Phase (own ++ [⟨s.table, (s.apply sha256Hex step).table, step.now⟩])
      ((s.apply sha256Hex step).requests.get? step.action.request) := by
  have hmoved : ∀ id table request,
      (s.move table id request).requests.get? id = some request :=
    fun id table request => get?_set_self ..
  rw [Undisturbed] at hmeets
  rw [State.apply]
  split
  · rename_i haction _
    rw [haction, Action.request]
    split <;> rw [hmoved] <;> trivial
  · rename_i haction _
    rw [haction, Action.request]
    split <;> rw [hmoved] <;> trivial
  · rename_i haction hrequest
    rw [haction] at hrequest h
    rw [haction, Action.request]
    rw [hrequest] at h
    split
    · split
      · rw [hmoved]
        exact forall_mem_concat h fun _ => rfl
      · rw [hmoved]
        exact forall_mem_concat h fun _ => rfl
    · rw [hmoved]
      exact forall_mem_concat h fun _ => rfl
  · rename_i id keyId label haction hrequest
    rw [haction] at hrequest h hmeets
    rw [haction, Action.request]
    rw [hrequest] at h
    split
    · rename_i hexecutes
      have hvalid := hmeets keyId label hrequest hexecutes
      obtain ⟨hrow, hkeys⟩ := validKeys_revoke hvalid
      rw [hmoved]
      exact ⟨own, _, [], rfl, ⟨hvalid, hrow, hkeys⟩, by rwa [List.append_nil]⟩
    · rw [hmoved]
      exact forall_mem_concat h fun _ => rfl
  · rename_i id plaintextKey keyId label haction hrequest
    rw [haction] at hrequest h hmeets
    rw [haction, Action.request]
    rw [hrequest] at h
    obtain ⟨hexecutes, hid, hhash⟩ := hmeets keyId label hrequest
    split
    · rename_i hstored
      obtain ⟨-, -, hinsert⟩ := postgresStoreRecord_row hstored
      obtain ⟨hnew, hkeys⟩ := validKeys_issue hinsert
      obtain ⟨first, revoke, second, rfl, hrevoke, hkeeps⟩ := h
      rw [hmoved]
      refine ⟨first, revoke, second, ⟨s.table, _, step.now⟩, [], ?_, hrevoke, ⟨hnew _, hkeys⟩,
        by rwa [List.append_nil]⟩
      rfl
    · rename_i hfails
      obtain ⟨⟨inserted, key⟩, hstored⟩ := postgresStoreRecord_isSome hid hhash
        step.now (normalizedLabel label) none
      exact absurd hstored (hfails inserted key hexecutes)
  · exact h.idle fun _ => rfl

theorem ownSteps_concat {id : String} (steps : List Step) :
    ownSteps sha256Hex id s (steps ++ [step]) = ownSteps sha256Hex id s steps
      ++ (if step.action.request = id then
        [⟨((machine sha256Hex).applyAll s steps).table,
          (((machine sha256Hex).applyAll s steps).apply sha256Hex step).table, step.now⟩]
        else []) := by
  induction steps generalizing s with
  | nil => simp [ownSteps, Machine.applyAll]
  | cons first rest ih =>
      show _ ++ ownSteps sha256Hex id _ (rest ++ [step]) = _
      rw [ih, ← List.append_assoc]
      rfl

/-- **RUN**: in an undisturbed run every request is in its phase. -/
theorem phase_run {steps : List Step} {id : String}
    (hmeets : (machine sha256Hex).EachMeets (Undisturbed sha256Hex) ⟨table, .empty⟩ steps) :
    Phase (ownSteps sha256Hex id ⟨table, .empty⟩ steps)
      ((after sha256Hex table steps).requests.get? id) := by
  induction steps using List.reverseRecOn with
  | nil =>
      intro e hmem
      cases hmem
  | append_singleton steps step ih =>
      have hphase := ih hmeets.left
      have hstep : Undisturbed sha256Hex (after sha256Hex table steps) step :=
        hmeets.next (List.prefix_refl _)
      have hafter : after sha256Hex table (steps ++ [step])
          = (after sha256Hex table steps).apply sha256Hex step :=
        (machine sha256Hex).applyAll_append ..
      rw [ownSteps_concat, hafter]
      by_cases hid : step.action.request = id
      · subst hid
        rw [if_pos rfl]
        exact phase_step hstep hphase
      · rw [if_neg hid, List.append_nil, apply_requests_ne (Ne.symm hid)]
        exact hphase

/-! ## No key twice -/

/-- The key whose place a rotation has taken, or is about to take. -/
def Request.taken : Request → Option String
  | .reissuing keyId _ => some keyId
  | .rotated keyId _ => some keyId
  | _ => none

/-- A key is taken by one request only, and is revoked. -/
def TakenOnce (s : State) : Prop :=
  ∀ id request keyId, s.requests.get? id = some request → request.taken = some keyId →
    (∃ row, s.table.find? keyId = some row ∧ row.status = .revoked)
      ∧ ∀ id' request', s.requests.get? id' = some request' → request'.taken = some keyId →
        id' = id

/-- What the request of a statement takes afterwards it took before, unless the
    statement is its revocation. -/
theorem taken_step {keyId : String} {request : Request}
    (h : (s.apply sha256Hex step).requests.get? step.action.request = some request)
    (htaken : request.taken = some keyId) :
    (∃ old, s.requests.get? step.action.request = some old ∧ old.taken = some keyId)
      ∨ ∃ id label, step.action = .rotateRevoke id ∧ step.executes = true
        ∧ s.requests.get? id = some (.rotating keyId label)
        ∧ (s.apply sha256Hex step).table = (postgresRevokeKey s.table keyId).1 := by
  have hmoved : ∀ {table request'},
      (s.move table step.action.request request').requests.get? step.action.request
        = some request → request' = request := by
    intro table request' hget
    rw [State.move, get?_set_self] at hget
    exact Option.some.inj hget
  rw [State.apply] at h ⊢
  split at h
  · rename_i haction _
    rw [haction] at hmoved h
    split at h <;> obtain rfl := hmoved h <;> cases htaken
  · rename_i haction _
    rw [haction] at hmoved h
    split at h <;> obtain rfl := hmoved h <;> cases htaken
  · rename_i haction _
    rw [haction] at hmoved h
    split at h
    · split at h <;> obtain rfl := hmoved h <;> cases htaken
    · obtain rfl := hmoved h
      cases htaken
  · rename_i id old label haction hrequest
    rw [haction] at hmoved h hrequest
    split at h
    · rename_i hexecutes
      obtain rfl := hmoved h
      obtain rfl := Option.some.inj htaken
      exact .inr ⟨id, label, haction, hexecutes, hrequest, by rw [if_pos hexecutes]; rfl⟩
    · obtain rfl := hmoved h
      cases htaken
  · rename_i id plaintextKey old label haction hrequest
    rw [haction] at hmoved h hrequest
    rw [haction]
    split at h
    · obtain rfl := hmoved h
      exact .inl ⟨_, hrequest, htaken⟩
    · obtain rfl := hmoved h
      cases htaken
  · exact .inl ⟨request, h, htaken⟩

/-- **STEP**: an undisturbed statement keeps every key taken once. -/
theorem takenOnce_step (hmeets : Undisturbed sha256Hex s step) (h : TakenOnce s) :
    TakenOnce (s.apply sha256Hex step) := by
  -- who takes a key after the statement took it before, or revokes it now
  have hback : ∀ {id request keyId}, (s.apply sha256Hex step).requests.get? id = some request →
      request.taken = some keyId →
      (∃ old, s.requests.get? id = some old ∧ old.taken = some keyId)
        ∨ id = step.action.request ∧ keyId ∈ validKeys s.table step.now
          ∧ (s.apply sha256Hex step).table = (postgresRevokeKey s.table keyId).1 := by
    intro id request keyId hget htaken
    by_cases hid : id = step.action.request
    · subst hid
      rcases taken_step hget htaken with hold | ⟨id', label, haction, hexecutes, hrotating, htable⟩
      · exact .inl hold
      · rw [Undisturbed, haction] at hmeets
        exact .inr ⟨rfl, hmeets keyId label hrotating hexecutes, htable⟩
    · rw [apply_requests_ne hid] at hget
      exact .inl ⟨request, hget, htaken⟩
  -- a key that is taken already is not valid
  have hnot : ∀ {id old keyId}, s.requests.get? id = some old → old.taken = some keyId →
      keyId ∉ validKeys s.table step.now := by
    intro id old keyId hget htaken hvalid
    obtain ⟨⟨row, hrow, hstatus⟩, -⟩ := h id old keyId hget htaken
    obtain ⟨row', hrow', hvalid'⟩ := mem_validKeys.mp hvalid
    obtain rfl := Option.some.inj (hrow.symm.trans hrow')
    simp [ApiKeyRow.validAt, hstatus] at hvalid'
  intro id request keyId hget htaken
  rcases hback hget htaken with ⟨old, hold, htold⟩ | ⟨rfl, hvalid, htable⟩
  · obtain ⟨⟨row, hrow, hstatus⟩, hunique⟩ := h id old keyId hold htold
    constructor
    · obtain ⟨row', hrow', hlater⟩ := @later_step sha256Hex _ _ s step hrow
      refine ⟨row', hrow', ?_⟩
      rcases hlater with rfl | rfl
      · exact hstatus
      · rfl
    · intro id' request' hget' htaken'
      rcases hback hget' htaken' with ⟨old', hold', htold'⟩ | ⟨-, hvalid, -⟩
      · exact hunique id' old' hold' htold'
      · exact absurd hvalid (hnot hold htold)
  · constructor
    · rw [htable]
      exact (validKeys_revoke hvalid).1
    · intro id' request' hget' htaken'
      rcases hback hget' htaken' with ⟨old', hold', htold'⟩ | ⟨hid', -, -⟩
      · exact absurd hvalid (hnot hold' htold')
      · exact hid'

/-- **ONE FOR ONE**: in a run whose rotations are undisturbed, a rotation that
    returns has put one new key in the place of the one it revoked, no key is
    rotated twice, and a rotation that raises has left every key as it was. -/
theorem rotation_one_for_one {steps : List Step}
    (hmeets : (machine sha256Hex).EachMeets (Undisturbed sha256Hex) ⟨table, .empty⟩ steps) :
    (∀ id keyId key,
        (after sha256Hex table steps).requests.get? id = some (.rotated keyId key) →
        OneForOne keyId key.record.keyId (ownSteps sha256Hex id ⟨table, .empty⟩ steps)
          ∧ netChange (ownSteps sha256Hex id ⟨table, .empty⟩ steps) = 0)
      ∧ (∀ id id' keyId key key',
        (after sha256Hex table steps).requests.get? id = some (.rotated keyId key) →
        (after sha256Hex table steps).requests.get? id' = some (.rotated keyId key') → id' = id)
      ∧ ∀ id keyId error,
        (after sha256Hex table steps).requests.get? id = some (.rotationRaised keyId error) →
        ∀ e ∈ ownSteps sha256Hex id ⟨table, .empty⟩ steps, e.KeepsValidity := by
  have htaken : TakenOnce (after sha256Hex table steps) := by
    refine (machine sha256Hex).prefix_invariant (I := TakenOnce)
      (fun s step h hmeets => takenOnce_step hmeets h) ?_ hmeets steps (List.prefix_refl _)
    intro id request keyId hget
    cases hget
  refine ⟨fun id keyId key hrotated => ?_, fun id id' keyId key key' hrotated hrotated' => ?_,
    fun id keyId error hraised => ?_⟩
  · have hphase := @phase_run sha256Hex table steps id hmeets
    rw [hrotated] at hphase
    exact ⟨hphase, hphase.netChange_eq_zero⟩
  · exact (htaken id _ keyId hrotated rfl).2 id' _ hrotated' rfl
  · have hphase := @phase_run sha256Hex table steps id hmeets
    rw [hraised] at hphase
    exact hphase

/-- Issue the first key, and begin to rotate it. -/
def issueAndList : List Step :=
  [⟨.issueKey "r1" "gate" "vkey_first" none, 0, true⟩,
   ⟨.rotateList "r2" firstKey.record.keyId none, 1, true⟩]

/-- The rotation, to its end. -/
def rotateToTheEnd : List Step :=
  issueAndList
    ++ [⟨.rotateRevoke "r2", 2, true⟩, ⟨.rotateIssue "r2" "vkey_second", 3, true⟩]

/-- The key in the place of the first one. -/
def secondKey : IssuedVerifierAPIKey where
  record := ⟨"vkey_98ffc7085e9193207208ddb6", "gate", 3, true⟩
  plaintextKey := "vkey_second"

theorem rotation_one_for_one_second_key :
    OneForOne firstKey.record.keyId secondKey.record.keyId
        (ownSteps digests "r2" ⟨.empty, .empty⟩ rotateToTheEnd)
      ∧ netChange (ownSteps digests "r2" ⟨.empty, .empty⟩ rotateToTheEnd) = 0 := by
  have hrevoke : Undisturbed digests (after digests .empty issueAndList)
      ⟨.rotateRevoke "r2", 2, true⟩ := by
    intro keyId label hrequest _
    have hlisted : (after digests .empty issueAndList).requests.get? "r2"
        = some (.rotating firstKey.record.keyId "gate") := by decide +kernel
    obtain ⟨rfl, -⟩ := Request.rotating.inj (Option.some.inj (hrequest.symm.trans hlisted))
    decide +kernel
  have hissue : Undisturbed digests
      (after digests .empty (issueAndList ++ [⟨.rotateRevoke "r2", 2, true⟩]))
      ⟨.rotateIssue "r2" "vkey_second", 3, true⟩ := by
    intro keyId label _
    refine ⟨rfl, by decide +kernel, fun other row hrow => ?_⟩
    have hhashes : ∀ entry ∈ (after digests .empty
        (issueAndList ++ [⟨.rotateRevoke "r2", 2, true⟩])).table.rows.entries,
        entry.2.keyHash ≠ digests "vkey_second" := by decide +kernel
    exact hhashes (other, row) ((get?_eq_some_iff ..).mp hrow)
  have hrun : (machine digests).EachMeets (Undisturbed digests) ⟨.empty, .empty⟩
      rotateToTheEnd := ⟨trivial, trivial, hrevoke, hissue, trivial⟩
  exact (rotation_one_for_one hrun).1 "r2" firstKey.record.keyId secondKey (by decide +kernel)

/-- A second rotation of the first key, between the statements of the first. -/
def rotateTwice : List Step :=
  issueAndList
    ++ [⟨.rotateList "r3" firstKey.record.keyId none, 1, true⟩,
        ⟨.rotateRevoke "r2", 2, true⟩, ⟨.rotateRevoke "r3", 2, true⟩,
        ⟨.rotateIssue "r2" "vkey_second", 3, true⟩, ⟨.rotateIssue "r3" "vkey_third", 3, true⟩]

/-- The rotation, whose issue fails. -/
def rotateAndFail : List Step :=
  issueAndList
    ++ [⟨.rotateRevoke "r2", 2, true⟩, ⟨.rotateIssue "r2" "vkey_second", 3, false⟩]

/-- **TWO FOR ONE**: two rotations of one key both return a new one, and a
    rotation whose issue fails raises with its key revoked. -/
theorem rotated_twice :
    (∃ key key',
        (after digests .empty rotateTwice).requests.get? "r2"
          = some (.rotated firstKey.record.keyId key)
        ∧ (after digests .empty rotateTwice).requests.get? "r3"
          = some (.rotated firstKey.record.keyId key')
        ∧ key.plaintextKey ≠ key'.plaintextKey)
      ∧ netChange (ownSteps digests "r3" ⟨.empty, .empty⟩ rotateTwice) = 1
      ∧ (after digests .empty rotateAndFail).requests.get? "r2"
        = some (.rotationRaised firstKey.record.keyId postgresStoreUnavailable)
      ∧ validKeys (after digests .empty issueAndList).table 3 = {firstKey.record.keyId}
      ∧ validKeys (after digests .empty rotateAndFail).table 3 = ∅ :=
  ⟨⟨secondKey, ⟨⟨"vkey_eaaa5d950e4342b35bd71639", "gate", 3, true⟩, "vkey_third"⟩,
      by decide +kernel, by decide +kernel, by decide⟩,
    by decide +kernel, by decide +kernel, by decide +kernel, by decide +kernel⟩

end VerifierApiKeys
