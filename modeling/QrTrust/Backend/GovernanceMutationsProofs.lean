import QrTrust.Backend.GovernanceBuilders
import QrTrust.Lib.Fallible
import Mathlib.Data.List.Dedup
import Mathlib.Data.List.Induction

/-! # Mutations applied once, events recorded once

    Under an idempotency key that is in force a call repeats what was stored, or
    conflicts (`idempotent`); the key is what makes it so, and an empty one is
    none (`empty_key_applies_again`).  Every applied mutation writes an audit
    row.  Its event goes in unless the event id is taken, so events are as many
    as mutations exactly when the texts that the ids digest are different
    (`events_iff_texts_differ`). -/

namespace GovernanceMutations

open Runs OrderedMap Fallible

variable {host : Host} {tables changed : Tables} {call : Call} {key hash : String}
  {result : GovernanceMutationResult} {outcome : Outcome}

/-- The request hash of a call. -/
def Call.requestHash (host : Host) (call : Call) : String :=
  GovernanceMutations.requestHash host call.principal call.mutation

/-- The tables after calls. -/
def after (host : Host) (tables : Tables) (calls : List Call) : Tables :=
  (machine host).applyAll tables calls

/-! ## What a call does -/

/-- A stored result is read back. -/
theorem resultFromJson_resultToJson (result : GovernanceMutationResult) :
    resultFromJson host (resultToJson result) = .ok result := rfl

/-- **APPLIED**: a mutation that is applied leaves the idempotency keys that it
    found, adds an audit row, and adds its event unless the id is taken. -/
theorem applyMutation_eq_ok (h : applyMutation host tables call = .ok (changed, result)) :
    changed.idempotencyKeys = tables.idempotencyKeys
      ∧ changed.auditLog = tables.auditLog ++ [call.auditRow]
      ∧ changed.outbox = if tables.outbox.contains (call.eventId host) then tables.outbox
        else tables.outbox.set (call.eventId host) (call.outboxRow host) := by
  rw [applyMutation] at h
  split at h
  · cases h
  · split at h
    · cases h
    · obtain ⟨rfl, -⟩ := Prod.mk.inj (Except.ok.inj h)
      exact ⟨rfl, rfl, rfl⟩

/-- **CALL**: a call that applies its mutation does so on the tables with its key
    begun. -/
theorem recordGovernanceMutation_applied
    (h : recordGovernanceMutation host tables call = .ok (changed, .applied result)) :
    ∃ keys applied, applyMutation host { tables with idempotencyKeys := keys } call
        = .ok (applied, result)
      ∧ changed.auditLog = applied.auditLog ∧ changed.outbox = applied.outbox := by
  rw [recordGovernanceMutation] at h
  dsimp only at h
  split at h
  · obtain ⟨⟨applied, result'⟩, happly, h⟩ := bind_eq_ok_iff.mp h
    obtain ⟨rfl, heq⟩ := Prod.mk.inj (Except.ok.inj h)
    obtain rfl := Outcome.applied.inj heq
    exact ⟨tables.idempotencyKeys, applied, happly, rfl, rfl⟩
  · obtain ⟨begun, -, h⟩ := bind_eq_ok_iff.mp h
    cases begun with
    | inr existing => cases (Prod.mk.inj (Except.ok.inj h)).2
    | inl keys =>
        obtain ⟨⟨applied, result'⟩, happly, h⟩ := bind_eq_ok_iff.mp h
        obtain ⟨rfl, heq⟩ := Prod.mk.inj (Except.ok.inj h)
        obtain rfl := Outcome.applied.inj heq
        exact ⟨keys, applied, happly, rfl, rfl⟩

/-- A call that replays leaves the tables. -/
theorem recordGovernanceMutation_replayed
    (h : recordGovernanceMutation host tables call = .ok (changed, .replayed result)) :
    changed = tables := by
  rw [recordGovernanceMutation] at h
  dsimp only at h
  split at h
  · obtain ⟨⟨applied, result'⟩, -, h⟩ := bind_eq_ok_iff.mp h
    cases (Prod.mk.inj (Except.ok.inj h)).2
  · obtain ⟨begun, -, h⟩ := bind_eq_ok_iff.mp h
    cases begun with
    | inr existing => exact (Prod.mk.inj (Except.ok.inj h)).1.symm
    | inl keys =>
        obtain ⟨⟨applied, result'⟩, -, h⟩ := bind_eq_ok_iff.mp h
        cases (Prod.mk.inj (Except.ok.inj h)).2

/-! ## Idempotency keys -/

/-- **STORED**: the key has the result of a request, until a time. -/
structure Stored (keys : OrderedMap String IdempotencyRow) (key hash : String)
    (result : GovernanceMutationResult) (expiresAt : Int) : Prop where
  row : ∃ createdAt, keys.get? key
    = some ⟨hash, some (resultToJson result), .completed, createdAt, expiresAt⟩

/-- What is stored under another key stays. -/
theorem Stored.set_ne {keys : OrderedMap String IdempotencyRow} {other : String} {expiresAt : Int}
    (h : Stored keys key hash result expiresAt) (hne : key ≠ other) (row : IdempotencyRow) :
    Stored (keys.set other row) key hash result expiresAt := by
  obtain ⟨createdAt, hrow⟩ := h.row
  exact ⟨createdAt, (get?_set_ne _ _ hne).trans hrow⟩

theorem Stored.complete_ne {keys : OrderedMap String IdempotencyRow} {other : String}
    {result' : GovernanceMutationResult} {expiresAt : Int}
    (h : Stored keys key hash result expiresAt) (hne : key ≠ other) :
    Stored (completeIdempotentMutation keys other result') key hash result expiresAt := by
  obtain ⟨createdAt, hrow⟩ := h.row
  refine ⟨createdAt, ?_⟩
  rw [completeIdempotentMutation, get?_update, hrow]
  exact congrArg some (if_neg hne)

/-- What a begun key is begun with. -/
theorem beginIdempotentMutation_begun {keys begun : OrderedMap String IdempotencyRow} {now : Int}
    (h : beginIdempotentMutation host keys now key hash = .ok (.inl begun)) :
    begun = keys.set key ⟨hash, none, .processing, now, now + day⟩ := by
  rw [beginIdempotentMutation] at h
  split at h
  · exact (Sum.inl.inj (Except.ok.inj h)).symm
  · split at h
    · exact (Sum.inl.inj (Except.ok.inj h)).symm
    · split at h
      · cases h
      · split at h
        · rename_i response _ _
          cases hread : resultFromJson host response with
          | error error =>
              rw [hread] at h
              cases h
          | ok stored =>
              rw [hread] at h
              cases h
        · cases h

/-- **IN FORCE**: a stored key answers for its request and conflicts with others. -/
theorem Stored.begin {keys : OrderedMap String IdempotencyRow} {hash' : String}
    {now expiresAt : Int} (h : Stored keys key hash result expiresAt) (hlife : now < expiresAt) :
    beginIdempotentMutation host keys now key hash'
      = if hash' = hash then .ok (.inr result)
        else .error (.idempotencyConflict
          "idempotency key was already used for a different request") := by
  obtain ⟨createdAt, hrow⟩ := h.row
  rw [beginIdempotentMutation, hrow]
  dsimp only
  rw [if_neg (not_le.mpr hlife)]
  by_cases heq : hash' = hash
  · rw [if_pos heq, if_neg (not_not.mpr heq.symm), resultFromJson_resultToJson]
    rfl
  · rw [if_neg heq, if_pos (Ne.symm heq)]

/-- A call under a stored key that is in force applies nothing. -/
theorem Stored.record {expiresAt : Int} (hkey : key ≠ "")
    (h : Stored tables.idempotencyKeys key hash result expiresAt)
    (hcall : call.idempotencyKey = some key) (hlife : call.now < expiresAt) :
    recordGovernanceMutation host tables call
      = if call.requestHash host = hash then .ok (tables, .replayed result)
        else .error (.idempotencyConflict
          "idempotency key was already used for a different request") := by
  have hpresent : call.idempotencyKey.filter (· ≠ "") = some key := by
    rw [hcall]
    exact Option.filter_some_pos (decide_eq_true hkey)
  rw [recordGovernanceMutation, hpresent, Call.requestHash]
  dsimp only
  rw [h.begin hlife]
  by_cases heq : requestHash host call.principal call.mutation = hash
  · rw [if_pos heq, if_pos heq]
    rfl
  · rw [if_neg heq, if_neg heq]
    rfl

/-- A call that applies its mutation under a key stores its result there. -/
theorem stored_of_applied (hkey : key ≠ "") (hcall : call.idempotencyKey = some key)
    (h : recordGovernanceMutation host tables call = .ok (changed, .applied result)) :
    Stored changed.idempotencyKeys key (call.requestHash host) result (call.now + day) := by
  have hpresent : call.idempotencyKey.filter (· ≠ "") = some key := by
    rw [hcall]
    exact Option.filter_some_pos (decide_eq_true hkey)
  rw [recordGovernanceMutation, hpresent] at h
  obtain ⟨begun, hbegin, h⟩ := bind_eq_ok_iff.mp h
  cases begun with
  | inr existing => cases (Prod.mk.inj (Except.ok.inj h)).2
  | inl keys =>
      obtain rfl := beginIdempotentMutation_begun hbegin
      obtain ⟨⟨applied, result'⟩, happly, h⟩ := bind_eq_ok_iff.mp h
      obtain ⟨rfl, heq⟩ := Prod.mk.inj (Except.ok.inj h)
      obtain rfl := Outcome.applied.inj heq
      refine ⟨call.now, ?_⟩
      show (completeIdempotentMutation applied.idempotencyKeys key result').get? key = _
      rw [(applyMutation_eq_ok happly).1, completeIdempotentMutation, get?_update, get?_set_self]
      exact congrArg some (if_pos rfl)

/-- **STEP**: a call within the life of a stored key leaves it stored. -/
theorem Stored.step {expiresAt : Int} (hkey : key ≠ "")
    (h : Stored tables.idempotencyKeys key hash result expiresAt) (hlife : call.now < expiresAt) :
    Stored (apply host tables call).idempotencyKeys key hash result expiresAt := by
  by_cases hcall : call.idempotencyKey = some key
  · rw [apply, h.record hkey hcall hlife]
    by_cases heq : call.requestHash host = hash
    · rw [if_pos heq]
      exact h
    · rw [if_neg heq]
      exact h
  · rw [apply]
    cases hrecord : recordGovernanceMutation host tables call with
    | error error => exact h
    | ok served =>
        obtain ⟨changed, outcome⟩ := served
        rw [recordGovernanceMutation] at hrecord
        dsimp only at hrecord
        split at hrecord
        · obtain ⟨⟨applied, result'⟩, happly, hrecord⟩ := bind_eq_ok_iff.mp hrecord
          obtain ⟨rfl, -⟩ := Prod.mk.inj (Except.ok.inj hrecord)
          exact (applyMutation_eq_ok happly).1 ▸ h
        · rename_i other hother
          have hne : key ≠ other := by
            rintro rfl
            exact hcall (Option.filter_eq_some_iff.mp hother).1
          obtain ⟨begun, hbegin, hrecord⟩ := bind_eq_ok_iff.mp hrecord
          cases begun with
          | inr existing =>
              obtain ⟨rfl, -⟩ := Prod.mk.inj (Except.ok.inj hrecord)
              exact h
          | inl keys =>
              obtain rfl := beginIdempotentMutation_begun hbegin
              obtain ⟨⟨applied, result'⟩, happly, hrecord⟩ := bind_eq_ok_iff.mp hrecord
              obtain ⟨rfl, -⟩ := Prod.mk.inj (Except.ok.inj hrecord)
              refine Stored.complete_ne ?_ hne
              rw [(applyMutation_eq_ok happly).1]
              exact h.set_ne hne _

/-- **RUN**: a stored key stays stored while it lives. -/
theorem Stored.run {expiresAt : Int} {calls : List Call} (hkey : key ≠ "")
    (hlife : ∀ call ∈ calls, call.now < expiresAt)
    (h : Stored tables.idempotencyKeys key hash result expiresAt) :
    Stored (after host tables calls).idempotencyKeys key hash result expiresAt :=
  (machine host).applyAll_invariant
    (I := fun s => Stored s.idempotencyKeys key hash result expiresAt)
    (fun _ call hmem hold => hold.step hkey (hlife call hmem)) h

/-- **IDEMPOTENT**: for 24 hours after a call has applied its mutation under a
    key, a call under that key changes nothing: with the same request hash it
    returns the first result, with another one it raises. -/
theorem idempotent {before between : List Call} {first again : Call} (hkey : key ≠ "")
    (hclock : (first :: between ++ [again]).Pairwise fun a b => a.now ≤ b.now)
    (hfirst : first.idempotencyKey = some key) (hagain : again.idempotencyKey = some key)
    (happlied : recordGovernanceMutation host (after host tables before) first
      = .ok (changed, .applied result))
    (hlife : again.now < first.now + day) :
    recordGovernanceMutation host (after host tables (before ++ first :: between)) again
      = if again.requestHash host = first.requestHash host then
          .ok (after host tables (before ++ first :: between), .replayed result)
        else .error (.idempotencyConflict
          "idempotency key was already used for a different request") := by
  have hlater : after host tables (before ++ first :: between) = after host changed between := by
    rw [after, Machine.applyAll_append, Machine.applyAll_cons]
    show (machine host).applyAll (apply host (after host tables before) first) between = _
    rw [apply, happlied]
    rfl
  have hbetween : ∀ call ∈ between, call.now < first.now + day := by
    intro call hmem
    have hle : call.now ≤ again.now :=
      (List.pairwise_append.mp hclock).2.2 call (List.mem_cons_of_mem _ hmem) again
        (List.mem_singleton_self again)
    omega
  have hstored : Stored (after host changed between).idempotencyKeys key
      (first.requestHash host) result (first.now + day) :=
    (stored_of_applied hkey hfirst happlied).run hkey hbetween
  rw [hlater]
  exact Stored.record hkey hstored hagain hlife

/-! ## Events -/

/-- The text whose digest is in the event id of a call. -/
def Call.eventText (host : Host) (call : Call) : String :=
  GovernanceMutations.eventText
    (eventDeduplicationKey call.requestId call.idempotencyKey (call.requestHash host))
    call.mutation

/-- The calls of a run that apply their mutation. -/
def appliedCalls (host : Host) : Tables → List Call → List Call
  | _, [] => []
  | tables, call :: rest =>
      (match recordGovernanceMutation host tables call with
        | .ok (_, .applied _) => [call]
        | _ => [])
        ++ appliedCalls host (apply host tables call) rest

theorem appliedCalls_append (before rest : List Call) :
    appliedCalls host tables (before ++ rest)
      = appliedCalls host tables before ++ appliedCalls host (after host tables before) rest := by
  induction before generalizing tables with
  | nil => rfl
  | cons call before ih =>
      show _ ++ appliedCalls host (apply host tables call) (before ++ rest) = _
      rw [ih, ← List.append_assoc]
      rfl

/-- **STEP**: an applied call adds an audit row, and its event id if that is new;
    any other call leaves both tables. -/
theorem applied_step (tables : Tables) (call : Call) :
    (appliedCalls host tables [call] = [call]
        ∧ (apply host tables call).auditLog = tables.auditLog ++ [call.auditRow]
        ∧ (apply host tables call).outbox
          = if tables.outbox.contains (call.eventId host) then tables.outbox
            else tables.outbox.set (call.eventId host) (call.outboxRow host))
      ∨ (appliedCalls host tables [call] = []
        ∧ (apply host tables call).auditLog = tables.auditLog
        ∧ (apply host tables call).outbox = tables.outbox) := by
  rw [apply]
  cases hrecord : recordGovernanceMutation host tables call with
  | error error => exact .inr ⟨by rw [appliedCalls, hrecord]; rfl, rfl, rfl⟩
  | ok served =>
      obtain ⟨changed, outcome⟩ := served
      cases outcome with
      | applied result =>
          obtain ⟨keys, applied, happly, haudit, houtbox⟩ :=
            recordGovernanceMutation_applied hrecord
          obtain ⟨-, haudit', houtbox'⟩ := applyMutation_eq_ok happly
          exact .inl ⟨by rw [appliedCalls, hrecord]; rfl, haudit.trans haudit',
            houtbox.trans houtbox'⟩
      | replayed result =>
          obtain rfl := recordGovernanceMutation_replayed hrecord
          exact .inr ⟨by rw [appliedCalls, hrecord]; rfl, rfl, rfl⟩

/-- **AUDIT**: every applied mutation has its audit row. -/
theorem auditLog_length (calls : List Call) :
    (after host tables calls).auditLog.length
      = tables.auditLog.length + (appliedCalls host tables calls).length := by
  induction calls generalizing tables with
  | nil => rfl
  | cons call rest ih =>
      show (after host (apply host tables call) rest).auditLog.length = _
      have hsplit : appliedCalls host tables (call :: rest)
          = appliedCalls host tables [call] ++ appliedCalls host (apply host tables call) rest :=
        @appliedCalls_append host tables [call] rest
      rw [ih, hsplit, List.length_append]
      rcases @applied_step host tables call with ⟨happlied, haudit, -⟩ | ⟨happlied, haudit, -⟩
      · rw [happlied, haudit, List.length_append]
        simp only [List.length_singleton]
        omega
      · rw [happlied, haudit]
        simp

/-- **OUTBOX**: the event ids in the outbox are those of the applied mutations. -/
theorem mem_outbox_iff (calls : List Call) (id : String) :
    id ∈ (after host tables calls).outbox.keys ↔
      id ∈ tables.outbox.keys ∨ id ∈ (appliedCalls host tables calls).map (Call.eventId host) := by
  induction calls generalizing tables with
  | nil => exact (or_iff_left List.not_mem_nil).symm
  | cons call rest ih =>
      show id ∈ (after host (apply host tables call) rest).outbox.keys ↔ _
      have hsplit : appliedCalls host tables (call :: rest)
          = appliedCalls host tables [call] ++ appliedCalls host (apply host tables call) rest :=
        @appliedCalls_append host tables [call] rest
      rw [ih, hsplit, List.map_append, List.mem_append, ← or_assoc]
      refine or_congr_left ?_
      rcases @applied_step host tables call with ⟨happlied, -, houtbox⟩ | ⟨happlied, -, houtbox⟩
      · rw [happlied, houtbox, List.map_singleton, List.mem_singleton]
        split
        · rename_i hknown
          constructor
          · exact .inl
          · rintro (h | rfl)
            · exact h
            · exact contains_iff.mp hknown
        · rw [mem_keys_set]
          exact or_comm
      · rw [happlied, houtbox]
        exact (or_iff_left List.not_mem_nil).symm

/-- **EVENTS**: an outbox that was empty has as many events as there are event
    ids among the applied mutations. -/
theorem outbox_length (hempty : tables.outbox = .empty) (calls : List Call) :
    (after host tables calls).outbox.entries.length
      = ((appliedCalls host tables calls).map (Call.eventId host)).dedup.length := by
  have hkeys : (after host tables calls).outbox.keys.toFinset
      = ((appliedCalls host tables calls).map (Call.eventId host)).toFinset := by
    ext id
    rw [List.mem_toFinset, List.mem_toFinset, mem_outbox_iff, hempty]
    exact or_iff_right List.not_mem_nil
  have hnodup : (after host tables calls).outbox.keys.Nodup :=
    (after host tables calls).outbox.nodup
  rw [← List.card_toFinset, ← hkeys, List.toFinset_card_of_nodup hnodup]
  exact (List.length_map ..).symm

/-- **COLLISION FREE**: texts with the same short digest are the same. -/
def DigestsDiffer (host : Host) (texts : List String) : Prop :=
  ∀ a ∈ texts, ∀ b ∈ texts, shortDigest host a = shortDigest host b → a = b

/-- The event ids differ exactly when their texts do. -/
theorem nodup_eventId_iff {calls : List Call}
    (hdigest : DigestsDiffer host (calls.map (Call.eventText host))) :
    (calls.map (Call.eventId host)).Nodup ↔ (calls.map (Call.eventText host)).Nodup := by
  have hids : calls.map (Call.eventId host)
      = (calls.map (Call.eventText host)).map fun text => "evt_mgmt_" ++ shortDigest host text := by
    rw [List.map_map]
    rfl
  rw [hids]
  constructor
  · exact List.Nodup.of_map _
  · refine fun h => h.map_on fun a ha b hb heq => ?_
    exact hdigest a ha b hb ((String.append_right_inj _).mp heq)

/-- **ONE EVENT EACH**: every applied mutation has its audit row; and every one
    has its event exactly when the texts of the event ids differ. -/
theorem events_iff_texts_differ (hempty : tables.outbox = .empty) {calls : List Call}
    (hdigest : DigestsDiffer host ((appliedCalls host tables calls).map (Call.eventText host))) :
    (∀ before, before <+: calls → (after host tables before).auditLog.length
        = tables.auditLog.length + (appliedCalls host tables before).length)
      ∧ ((∀ before, before <+: calls → (after host tables before).outbox.entries.length
          = (appliedCalls host tables before).length)
        ↔ ((appliedCalls host tables calls).map (Call.eventText host)).Nodup) := by
  refine ⟨fun before _ => auditLog_length before, ?_⟩
  rw [← nodup_eventId_iff hdigest]
  constructor
  · intro h
    have hall := h calls (List.prefix_refl _)
    rw [outbox_length hempty, ← List.length_map (Call.eventId host)] at hall
    rw [← List.dedup_eq_self]
    exact (List.dedup_sublist _).eq_of_length hall
  · rintro hnodup before ⟨rest, rfl⟩
    rw [appliedCalls_append, List.map_append] at hnodup
    rw [outbox_length hempty, List.dedup_eq_self.mpr (List.nodup_append.mp hnodup).1,
      List.length_map]

/-! ## Calls with one request id -/

/-- A host whose digests are the first 24 characters of SHA-256 for two event
    texts, and the texts themselves otherwise. -/
def sampleHost : Host where
  sha256 text :=
    if text = "req-1:destination_policy.status.update:destination_policy:policy:menu" then
      "c342cb758bbf10ba6eb5e18e"
    else if text = "req-2:destination_policy.status.update:destination_policy:policy:menu" then
      "07297855c77b3bcf1b692da5"
    else text
  reprFloat _ := "0.0"
  intOfNumeric _ := none

/-- Tables without rows. -/
def noRows : Tables where
  governed :=
    { issuers := []
      certificates := []
      domainProofs := []
      trustState := none
      issuers_key := List.nodup_nil
      certificates_key := List.nodup_nil
      certificates_issuer := by simp
      domainProofs_issuer := by simp
      domainProofs_current := List.nodup_nil }
  auditLog := []
  outbox := .empty
  idempotencyKeys := .empty

/-- A change of the status of a policy. -/
def changeStatus (requestId : String) (idempotencyKey : Option String) (status : String)
    (now : Int) : Call where
  principal := ⟨some "mkey_ops", none, {"policy:write"}⟩
  mutation :=
    buildDestinationPolicyStatusUpdateMutation
      ⟨"root:demo", "authority:merchant", "issuer:acme"⟩ "policy:menu" status
  requestId := requestId
  idempotencyKey := idempotencyKey
  server := ⟨.utc now, "epoch", 1⟩
  utcNowIso := "2026-05-25T10:08:00Z"
  executes := true

theorem idempotent_retry :
    (recordGovernanceMutation sampleHost
        (after sampleHost noRows [changeStatus "req-1" (some "key") "suspended" 0])
        (changeStatus "req-2" (some "key") "suspended" 5)).map Prod.snd
      = .ok (.replayed ⟨1, 1, 1⟩) := by
  have hfirst : (recordGovernanceMutation sampleHost (after sampleHost noRows [])
      (changeStatus "req-1" (some "key") "suspended" 0)).map Prod.snd
        = .ok (.applied ⟨1, 1, 1⟩) := by decide +kernel
  cases hrecord : recordGovernanceMutation sampleHost (after sampleHost noRows [])
      (changeStatus "req-1" (some "key") "suspended" 0) with
  | error error =>
      rw [hrecord] at hfirst
      cases hfirst
  | ok served =>
      obtain ⟨changed, outcome⟩ := served
      rw [hrecord] at hfirst
      obtain rfl := Except.ok.inj hfirst
      have hretry := @idempotent sampleHost noRows changed "key" ⟨1, 1, 1⟩ [] []
        (changeStatus "req-1" (some "key") "suspended" 0)
        (changeStatus "req-2" (some "key") "suspended" 5) (by decide) (by decide) rfl rfl hrecord
        (by decide)
      exact congrArg (Except.map Prod.snd) (hretry.trans (if_pos rfl))

/-- **NO KEY**: under an empty idempotency key a retry applies the mutation once
    more. -/
theorem empty_key_applies_again :
    (recordGovernanceMutation sampleHost noRows
        (changeStatus "req-1" (some "") "suspended" 0)).map Prod.snd = .ok (.applied ⟨1, 1, 1⟩)
      ∧ (recordGovernanceMutation sampleHost
        (after sampleHost noRows [changeStatus "req-1" (some "") "suspended" 0])
        (changeStatus "req-1" (some "") "suspended" 5)).map Prod.snd
          = .ok (.applied ⟨1, 1, 0⟩) := by
  decide +kernel

theorem events_iff_texts_differ_two_requests :
    (∀ before, before <+: [changeStatus "req-1" none "suspended" 0,
        changeStatus "req-2" none "active" 5] →
        (after sampleHost noRows before).outbox.entries.length
          = (appliedCalls sampleHost noRows before).length)
      ↔ ((appliedCalls sampleHost noRows [changeStatus "req-1" none "suspended" 0,
        changeStatus "req-2" none "active" 5]).map (Call.eventText sampleHost)).Nodup := by
  refine (events_iff_texts_differ rfl ?_).2
  have htexts : (appliedCalls sampleHost noRows [changeStatus "req-1" none "suspended" 0,
      changeStatus "req-2" none "active" 5]).map (Call.eventText sampleHost)
        = ["req-1:destination_policy.status.update:destination_policy:policy:menu",
          "req-2:destination_policy.status.update:destination_policy:policy:menu"] := by
    decide +kernel
  rw [htexts]
  unfold DigestsDiffer
  decide +kernel

/-- **LOST EVENT**: two changes of a status that come with one request id are
    both applied and audited, and have one event. -/
theorem one_event_for_two_mutations :
    (appliedCalls sampleHost noRows [changeStatus "req-1" none "suspended" 0,
        changeStatus "req-1" none "active" 5]).length = 2
      ∧ (after sampleHost noRows [changeStatus "req-1" none "suspended" 0,
        changeStatus "req-1" none "active" 5]).auditLog.length = 2
      ∧ (after sampleHost noRows [changeStatus "req-1" none "suspended" 0,
        changeStatus "req-1" none "active" 5]).outbox.entries.length = 1 := by
  decide +kernel

end GovernanceMutations
