import QrTrust.Lib.Fallible
import QrTrust.Network.JsStringProofs
import QrTrust.Network.NatsPropagationProofs
import QrTrust.Network.PublicationWorkers
import QrTrust.Network.WorkQueueProofs

/-! # What one row does to its batch

    A worker isolates the rows of its batch when it ends and has marked every
    claimed row with the outcome that the row has alone.

    * `isolated_iff`: it does exactly when every row decodes and no record dies;
    * `workers_isolate_iff`: for the two workers, which contents of a row that is. -/

namespace PublicationWorkers

open NatsPropagation WorkQueue

section Worker

variable {α R ρ : Type} {worker : Worker α R ρ} {rows : Table α ρ}
  {batch : ClaimedBatch worker.protocol rows} {completedAt : Rat}

/-! ## One row alone -/

/-- The outcome of a row, for itself. -/
def Worker.outcome (worker : Worker α R ρ) (key : String) (item : α) :
    Option (Except NetworkError ρ) :=
  (worker.decode key item).toOption.bind fun record => (worker.process record).caught

/-- A row that decodes, and whose record does not die. -/
def Worker.Ends (worker : Worker α R ρ) (key : String) (item : α) : Prop :=
  ∃ record, worker.decode key item = .ok record ∧ worker.process record ≠ .die

/-- A claimed row, marked with an outcome. -/
def markedRow (completedAt : Rat) (outcome : Except NetworkError ρ) (row : Row α ρ) : Row α ρ :=
  match outcome with
  | .ok result => doneRow completedAt result row
  | .error error => failedRow error.message row

/-- The batch ends, and every claimed row is marked with its own outcome. -/
def Isolated (worker : Worker α R ρ) {rows : Table α ρ}
    (batch : ClaimedBatch worker.protocol rows) (completedAt : Rat) : Prop :=
  (∃ report, (worker.processOnce batch completedAt).2 = .succeed report)
    ∧ ∀ key ∈ batch.returned, ∀ row, rows.get? key = some row →
      ∃ outcome, worker.outcome key row.item = some outcome
        ∧ (worker.processOnce batch completedAt).1.get? key
          = some (markedRow completedAt outcome (claimRow batch.input row))

theorem outcome_isSome_iff {key : String} {item : α} :
    (∃ outcome, worker.outcome key item = some outcome) ↔ worker.Ends key item := by
  rw [Worker.outcome, Worker.Ends]
  cases hdecode : worker.decode key item with
  | error message =>
      refine iff_of_false ?_ ?_
      · rintro ⟨outcome, h⟩; cases h
      · rintro ⟨record, h, -⟩; cases h
  | ok record =>
      constructor
      · rintro ⟨outcome, h⟩
        exact ⟨record, rfl, Exit.caught_isSome_iff.mp (Option.isSome_iff_exists.mpr ⟨outcome, h⟩)⟩
      · rintro ⟨_, h, hends⟩
        obtain rfl := Except.ok.inj h
        exact Option.isSome_iff_exists.mp (Exit.caught_isSome_iff.mpr hends)

/-! ## Reports -/

section Reports

variable {processed : List (String × Except NetworkError ρ)} {key : String}

/-- Where no key stands twice, what is made of an entry is found under its key. -/
theorem find?_keyed {γ β : Type} {entries : List (String × γ)} {f : γ → Option β} {value : γ}
    (hnodup : (entries.map Prod.fst).Nodup) (hmem : (key, value) ∈ entries) :
    (entries.filterMap (keyed f)).find? (fun made => made.1 = key) = keyed f (key, value) := by
  have hkey {entry : String × γ} {made : String × β} (h : keyed f entry = some made) :
      made.1 = entry.1 := by
    obtain ⟨b, -, rfl⟩ := Option.map_eq_some_iff.mp h
    rfl
  induction entries with
  | nil => cases hmem
  | cons entry rest ih =>
      obtain ⟨hfirst, hrest⟩ := List.nodup_cons.mp hnodup
      obtain rfl | h := List.mem_cons.mp hmem
      · cases hmade : keyed f (key, value) with
        | some made =>
            rw [List.filterMap_cons_some hmade]
            exact List.find?_cons_of_pos (decide_eq_true (hkey hmade))
        | none =>
            rw [List.filterMap_cons_none hmade]
            refine List.find?_eq_none.mpr fun made hmem heq => hfirst ?_
            obtain ⟨entry, hentry, hsome⟩ := List.mem_filterMap.mp hmem
            exact List.mem_map.mpr ⟨entry, hentry, (hkey hsome).symm.trans (of_decide_eq_true heq)⟩
      · have hne : entry.1 ≠ key := fun heq => hfirst (List.mem_map.mpr ⟨_, h, heq.symm⟩)
        cases hmade : keyed f entry with
        | none =>
            rw [List.filterMap_cons_none hmade]
            exact ih hrest h
        | some made =>
            rw [List.filterMap_cons_some hmade,
              List.find?_cons_of_neg (by simpa [hkey hmade] using hne)]
            exact ih hrest h

theorem get?_markDone {marked : Table α ρ} {reported : List (String × ρ)} {result : Option ρ}
    (hfind : reported.find? (fun entry => entry.1 = key) = result.map (key, ·)) :
    (markDone reported completedAt marked).get? key
      = (marked.get? key).map fun row => (result.map fun r => doneRow completedAt r row).getD row := by
  rw [markDone, OrderedMap.get?_update]
  congr 1
  funext row
  rw [hfind]
  cases result with
  | none => rfl
  | some r => rfl

theorem get?_markFailed {marked : Table α ρ} {reported : List (String × String)}
    {reason : Option String}
    (hfind : reported.find? (fun entry => entry.1 = key) = reason.map (key, ·)) :
    (markFailed reported marked).get? key
      = (marked.get? key).map fun row => (reason.map fun r => failedRow r row).getD row := by
  rw [markFailed, OrderedMap.get?_update]
  congr 1
  funext row
  rw [hfind]
  cases reason with
  | none => rfl
  | some r => rfl

/-- A report of nothing changes nothing, so that it need not be sent. -/
theorem mark_eq (marked : Table α ρ) :
    mark processed completedAt marked
      = markFailed (failures processed) (markDone (successes processed) completedAt marked) := by
  have hdone : (if (successes processed).isEmpty then marked
      else markDone (successes processed) completedAt marked)
        = markDone (successes processed) completedAt marked := by
    cases hlist : successes processed with
    | nil => exact (OrderedMap.update_eq_self fun entry _ => rfl).symm
    | cons first rest => rfl
  rw [mark, hdone]
  cases hlist : failures processed with
  | nil => exact (OrderedMap.update_eq_self fun entry _ => rfl).symm
  | cons first rest => rfl

/-- **MARKED**: the report statements leave a row of the batch with its outcome. -/
theorem get?_mark {marked : Table α ρ} {outcome : Except NetworkError ρ}
    (hnodup : (processed.map Prod.fst).Nodup) (hmem : (key, outcome) ∈ processed) :
    (mark processed completedAt marked).get? key
      = (marked.get? key).map (markedRow completedAt outcome) := by
  have hdone : (successes processed).find? (fun made => made.1 = key)
      = outcome.toOption.map fun result => (key, result) := find?_keyed hnodup hmem
  have hfailed : (failures processed).find? (fun made => made.1 = key)
      = (failureReason outcome).map fun reason => (key, reason) := find?_keyed hnodup hmem
  rw [mark_eq, get?_markFailed hfailed, get?_markDone hdone, Option.map_map]
  congr 1
  funext row
  cases outcome with
  | ok result => rfl
  | error error => rfl

end Reports

/-! ## The claimed rows -/

theorem get?_claimed {key : String} (h : key ∈ batch.returned) :
    batch.claimed.get? key = (rows.get? key).map (claimRow batch.input) := by
  rw [ClaimedBatch.claimed, get?_claimRows, if_pos (batch.perm.mem_iff.mp h)]

theorem mem_items {key : String} {item : α} :
    (key, item) ∈ batch.items
      ↔ key ∈ batch.returned ∧ ∃ row, rows.get? key = some row ∧ row.item = item := by
  rw [ClaimedBatch.items, List.mem_filterMap]
  constructor
  · rintro ⟨k, hk, h⟩
    rw [get?_claimed hk] at h
    obtain ⟨row, hrow, heq⟩ := Option.map_eq_some_iff.mp h
    obtain ⟨stored, hstored, rfl⟩ := Option.map_eq_some_iff.mp hrow
    obtain ⟨rfl, rfl⟩ := Prod.mk.inj heq
    exact ⟨hk, stored, hstored, rfl⟩
  · rintro ⟨hk, row, hrow, rfl⟩
    refine ⟨key, hk, ?_⟩
    rw [get?_claimed hk, hrow]
    rfl

theorem nodup_items : (batch.items.map Prod.fst).Nodup := by
  have hkeys : batch.items.map Prod.fst
      = batch.returned.filter fun key => (batch.claimed.get? key).isSome := by
    rw [ClaimedBatch.items, List.map_filterMap, ← List.filterMap_eq_filter]
    congr 1
    funext key
    cases hrow : batch.claimed.get? key with
    | none => simp [Option.guard, hrow]
    | some row => simp [Option.guard, hrow]
  rw [hkeys]
  exact (batch.perm.nodup_iff.mpr nodup_nextRows).filter _

/-! ## The batch -/

/-- **RUN**: a worker that decodes and processes its batch marks it; one that does
    not leaves the claim. -/
theorem processOnce_eq :
    worker.processOnce batch completedAt
      = match (worker.decodeRows batch.items).bind worker.processRecords with
        | .fail error => (batch.claimed, .fail error)
        | .die => (batch.claimed, .die)
        | .succeed processed =>
            (mark processed completedAt batch.claimed,
              .succeed (workerReport batch.input.workerId processed)) := by
  rw [Worker.processOnce]
  cases worker.decodeRows batch.items with
  | fail error => rfl
  | die => rfl
  | succeed records =>
      cases records with
      | nil => rfl
      | cons record rest => rfl

theorem decodeRows_eq_succeed_iff {items : List (String × α)} {records : List (String × R)} :
    worker.decodeRows items = .succeed records
      ↔ List.Forall₂ (fun item record => record.1 = item.1
          ∧ worker.decode item.1 item.2 = .ok record.2) items records := by
  have hstep (item : String × α) (record : String × R) :
      (worker.decode item.1 item.2).map (fun decoded => (item.1, decoded)) = .ok record
        ↔ record.1 = item.1 ∧ worker.decode item.1 item.2 = .ok record.2 := by
    cases worker.decode item.1 item.2 with
    | error message =>
        refine iff_of_false (fun h => by cases h) ?_
        rintro ⟨-, h⟩
        cases h
    | ok decoded =>
        constructor
        · intro h
          obtain rfl := Except.ok.inj h
          exact ⟨rfl, rfl⟩
        · rintro ⟨hkey, h⟩
          obtain rfl := Except.ok.inj h
          exact congrArg Except.ok (Prod.ext hkey.symm rfl)
  simp only [← hstep, ← Fallible.mapM_eq_ok_iff]
  rw [Worker.decodeRows]
  cases items.mapM fun item =>
      (worker.decode item.1 item.2).map fun record => (item.1, record) with
  | error message => exact iff_of_false (fun h => by cases h) (fun h => by cases h)
  | ok decoded =>
      constructor
      · intro h
        exact congrArg Except.ok (Exit.succeed.inj h)
      · intro h
        exact congrArg Exit.succeed (Except.ok.inj h)

theorem processRecords_eq_succeed_iff {records : List (String × R)}
    {processed : List (String × Except NetworkError ρ)} :
    worker.processRecords records = .succeed processed
      ↔ List.Forall₂ (fun record entry => entry.1 = record.1
          ∧ (worker.process record.2).caught = some entry.2) records processed := by
  rw [Worker.processRecords, Exit.bind_eq_succeed_iff]
  simp only [Exit.forEach_caught_iff]
  constructor
  · rintro ⟨outcomes, hall, h⟩
    obtain rfl := Exit.succeed.inj h
    induction hall with
    | nil => exact .nil
    | cons houtcome hrest ih => exact .cons ⟨rfl, houtcome⟩ (ih rfl)
  · intro hall
    refine ⟨processed.map Prod.snd, ?_, congrArg Exit.succeed ?_⟩
    · exact List.forall₂_map_right_iff.mpr (hall.imp fun _ _ h => h.2)
    · have hkeys : records.map Prod.fst = processed.map Prod.fst := by
        rw [← List.forall₂_eq_eq_eq, List.forall₂_map_left_iff, List.forall₂_map_right_iff]
        exact hall.imp fun _ _ h => h.1.symm
      rw [hkeys]
      exact (List.zip_of_prod rfl rfl).symm

/-- **PROCESSED**: a batch that ends has the own outcome of each of its rows. -/
theorem processed_iff {items : List (String × α)}
    {processed : List (String × Except NetworkError ρ)} :
    (worker.decodeRows items).bind worker.processRecords = .succeed processed
      ↔ List.Forall₂ (fun item entry => entry.1 = item.1
          ∧ worker.outcome item.1 item.2 = some entry.2) items processed := by
  rw [Exit.bind_eq_succeed_iff]
  simp only [decodeRows_eq_succeed_iff, processRecords_eq_succeed_iff, Exit.exists_forall₂_iff]
  have hrow (item : String × α) (entry : String × Except NetworkError ρ) :
      (∃ record : String × R,
          (record.1 = item.1 ∧ worker.decode item.1 item.2 = .ok record.2)
            ∧ entry.1 = record.1 ∧ (worker.process record.2).caught = some entry.2)
        ↔ entry.1 = item.1 ∧ worker.outcome item.1 item.2 = some entry.2 := by
    rw [Worker.outcome, Option.bind_eq_some_iff]
    constructor
    · rintro ⟨record, ⟨hkey, hdecode⟩, hentry, hcaught⟩
      exact ⟨hentry.trans hkey, record.2, Fallible.toOption_eq_some_iff.mpr hdecode, hcaught⟩
    · rintro ⟨hentry, record, hdecode, hcaught⟩
      exact ⟨(item.1, record), ⟨rfl, Fallible.toOption_eq_some_iff.mp hdecode⟩, hentry, hcaught⟩
  simp only [hrow]

/-- A claimed row that ends, for all of the batch. -/
theorem forall_items_iff {P : String → α → Prop} :
    (∀ item ∈ batch.items, P item.1 item.2)
      ↔ ∀ key ∈ batch.returned, ∀ row, rows.get? key = some row → P key row.item := by
  constructor
  · intro h key hkey row hrow
    exact h (key, row.item) (mem_items.mpr ⟨hkey, row, hrow, rfl⟩)
  · rintro h ⟨key, item⟩ hitem
    obtain ⟨hkey, row, hrow, rfl⟩ := mem_items.mp hitem
    exact h key hkey row hrow

/-- **ISOLATION**: a batch is isolated exactly when every one of its rows ends. -/
theorem isolated_iff :
    Isolated worker batch completedAt
      ↔ ∀ key ∈ batch.returned, ∀ row, rows.get? key = some row → worker.Ends key row.item := by
  constructor
  · rintro ⟨-, hmarked⟩ key hkey row hrow
    obtain ⟨outcome, houtcome, -⟩ := hmarked key hkey row hrow
    exact outcome_isSome_iff.mp ⟨outcome, houtcome⟩
  · intro h
    have houtcomes : ∀ item ∈ batch.items, ∃ entry : String × Except NetworkError ρ,
        entry.1 = item.1 ∧ worker.outcome item.1 item.2 = some entry.2 := by
      intro item hitem
      obtain ⟨outcome, houtcome⟩ := outcome_isSome_iff.mpr (forall_items_iff.mpr h item hitem)
      exact ⟨(item.1, outcome), rfl, houtcome⟩
    obtain ⟨processed, hprocessed⟩ := Exit.exists_forall₂ houtcomes
    have hkeys : processed.map Prod.fst = batch.items.map Prod.fst := by
      rw [← List.forall₂_eq_eq_eq, List.forall₂_map_left_iff, List.forall₂_map_right_iff]
      exact (hprocessed.imp fun _ _ h => h.1).flip
    have hrun : worker.processOnce batch completedAt
        = (mark processed completedAt batch.claimed,
          .succeed (workerReport batch.input.workerId processed)) := by
      rw [processOnce_eq, processed_iff.mpr hprocessed]
    refine ⟨⟨_, by rw [hrun]⟩, fun key hkey row hrow => ?_⟩
    obtain ⟨⟨k, outcome⟩, hmem, rfl, houtcome⟩ :=
      Exit.exists_of_mem_left hprocessed (mem_items.mpr ⟨hkey, row, hrow, rfl⟩)
    refine ⟨outcome, houtcome, ?_⟩
    have hnodup : (processed.map Prod.fst).Nodup := by
      rw [hkeys]
      exact nodup_items
    rw [hrun, get?_mark hnodup hmem, get?_claimed hkey, hrow]
    rfl

end Worker

/-! ## The rows of the two workers -/

section Rows

variable {host : WorkerHost} {sink : JetStreamMessageSink}

/-- An event whose columns decode, and whose type, unless the network refuses the
    event before, is none of the inherited names. -/
def EventEnds (host : WorkerHost) (key : String) (event : EventOutbox.OutboxEvent) : Prop :=
  key ≠ "" ∧ event.eventId ≠ ""
    ∧ ∃ payload, jsonbValue host event.payload = .ok payload
      ∧ ∀ document envelope, payload.prop "envelope" = some document →
        decodeEventEnvelope host.js document = some envelope →
        ¬ (envelope.type ∈ inheritedNames
          ∧ normalizeSubjectToken host.js envelope.rootProgramId ≠ ""
          ∧ normalizeSubjectToken host.js envelope.rootProgramId ≠ controlPlaneSubjectRoot)

/-- A publication whose columns decode, at a date, with a body that names its root
    program. -/
def PublicationEnds (host : WorkerHost) (key : String)
    (item : WorkItems.ArtifactPublicationItem) : Prop :=
  key ≠ "" ∧ item.artifactType ≠ "" ∧ item.artifactId ≠ "" ∧ 0 ≤ item.version
    ∧ item.rootProgramId ≠ "" ∧ item.eventType ≠ "" ∧ (∀ n ∈ item.previousVersion, 0 ≤ n)
    ∧ isDate item.occurredAt = true
    ∧ ∃ body, jsonbValue host item.canonicalJson = .ok body
      ∧ (ArtifactPublication.artifactScopeFromBody body).rootProgramId ≠ none

theorem requireStringField_iff {row value field s : String} :
    requireStringField row value field = .ok s ↔ value ≠ "" ∧ value = s := by
  rw [requireStringField]
  by_cases h : value = ""
  · rw [if_neg (not_not_intro h)]
    exact iff_of_false (fun h => by cases h) fun hne => hne.1 h
  · rw [if_pos h]
    constructor
    · intro heq
      exact ⟨h, Except.ok.inj heq⟩
    · rintro ⟨-, rfl⟩
      rfl

theorem networkEventFromOutboxRecord_iff {record : EventOutboxRecord} {envelope : EventEnvelope} :
    networkEventFromOutboxRecord host record = .succeed envelope
      ↔ ∃ document, record.payload.prop "envelope" = some document
        ∧ decodeEventEnvelope host.js document = some envelope := by
  rw [networkEventFromOutboxRecord, payloadEnvelope]
  cases record.payload.prop "envelope" with
  | none =>
      refine iff_of_false (fun h => by cases h) ?_
      rintro ⟨document, h, -⟩
      cases h
  | some document =>
      simp only [Exit.bind]
      cases hdecode : decodeEventEnvelope host.js document with
      | none =>
          refine iff_of_false (fun h => by cases h) ?_
          rintro ⟨_, hsome, h⟩
          obtain rfl := Option.some.inj hsome
          rw [hdecode] at h
          cases h
      | some decoded =>
          constructor
          · intro h
            obtain rfl := Exit.succeed.inj h
            exact ⟨document, rfl, hdecode⟩
          · rintro ⟨_, hsome, h⟩
            obtain rfl := Option.some.inj hsome
            rw [hdecode] at h
            exact congrArg Exit.succeed (Option.some.inj h)

theorem networkEventFromOutboxRecord_ne_die {record : EventOutboxRecord} :
    networkEventFromOutboxRecord host record ≠ .die := by
  intro h
  rw [networkEventFromOutboxRecord, payloadEnvelope] at h
  cases hprop : record.payload.prop "envelope" with
  | none =>
      rw [hprop] at h
      cases h
  | some document =>
      rw [hprop] at h
      obtain h | ⟨_, hdocument, h⟩ := Exit.bind_eq_die_iff.mp h
      · cases h
      · split at h
        · cases h
        · cases h

/-- **DEATH OF AN EVENT**: only the making of its message dies. -/
theorem publishRecord_die_iff {record : EventOutboxRecord} :
    publishRecord host sink record = .die
      ↔ ∃ envelope, networkEventFromOutboxRecord host record = .succeed envelope
        ∧ jetStreamMessageFromEvent host.js envelope = .die := by
  rw [publishRecord, Exit.bind_eq_die_iff, or_iff_right networkEventFromOutboxRecord_ne_die]
  refine exists_congr fun envelope => and_congr_right fun _ => ?_
  rw [Exit.bind_eq_die_iff]
  refine or_iff_left ?_
  rintro ⟨message, -, h⟩
  split at h
  · cases h
  · cases h

theorem postgresEventOutboxRecordFromRow_iff {key : String} {event : EventOutbox.OutboxEvent}
    {record : EventOutboxRecord} :
    postgresEventOutboxRecordFromRow host key event = .ok record
      ↔ key ≠ "" ∧ event.eventId ≠ "" ∧ ∃ payload, jsonbValue host event.payload = .ok payload
        ∧ record = ⟨key, event.eventId, payload⟩ := by
  rw [postgresEventOutboxRecordFromRow]
  constructor
  · intro h
    obtain ⟨_, hid, h⟩ := Fallible.bind_eq_ok_iff.mp h
    obtain ⟨hkey, rfl⟩ := requireStringField_iff.mp hid
    obtain ⟨_, hid, h⟩ := Fallible.bind_eq_ok_iff.mp h
    obtain ⟨hevent, rfl⟩ := requireStringField_iff.mp hid
    obtain ⟨payload, hpayload, h⟩ := Fallible.bind_eq_ok_iff.mp h
    exact ⟨hkey, hevent, payload, hpayload, (Except.ok.inj h).symm⟩
  · rintro ⟨hkey, hevent, payload, hpayload, rfl⟩
    refine Fallible.bind_eq_ok_iff.mpr ⟨key, requireStringField_iff.mpr ⟨hkey, rfl⟩, ?_⟩
    refine Fallible.bind_eq_ok_iff.mpr ⟨_, requireStringField_iff.mpr ⟨hevent, rfl⟩, ?_⟩
    exact Fallible.bind_eq_ok_iff.mpr ⟨payload, hpayload, rfl⟩

theorem eventEnds_iff {key : String} {event : EventOutbox.OutboxEvent} :
    (eventOutboxWorker host sink).Ends key event ↔ EventEnds host key event := by
  show (∃ record, postgresEventOutboxRecordFromRow host key event = .ok record
    ∧ publishRecord host sink record ≠ .die) ↔ _
  simp only [postgresEventOutboxRecordFromRow_iff, ne_eq, publishRecord_die_iff,
    networkEventFromOutboxRecord_iff, die_iff]
  constructor
  · rintro ⟨_, ⟨hkey, hevent, payload, hpayload, rfl⟩, hends⟩
    refine ⟨hkey, hevent, payload, hpayload, fun document envelope hprop hdecode hdies => ?_⟩
    exact hends ⟨envelope, ⟨document, hprop, hdecode⟩, hdies⟩
  · rintro ⟨hkey, hevent, payload, hpayload, hends⟩
    refine ⟨_, ⟨hkey, hevent, payload, hpayload, rfl⟩, ?_⟩
    rintro ⟨envelope, ⟨document, hprop, hdecode⟩, hdies⟩
    exact hends document envelope hprop hdecode hdies

theorem requireNumberField_iff {row field : String} {value : Int} {n : Rat} :
    requireNumberField row value field = .ok n ↔ 0 ≤ value ∧ (value : Rat) = n := by
  rw [requireNumberField]
  by_cases h : 0 ≤ value
  · rw [if_pos h]
    constructor
    · intro heq
      exact ⟨h, Except.ok.inj heq⟩
    · rintro ⟨-, rfl⟩
      rfl
  · rw [if_neg h]
    exact iff_of_false (fun h => by cases h) fun hle => h hle.1

theorem optionalNumberField_iff {row field : String} {value : Option Int} {n : Option Rat} :
    optionalNumberField row value field = .ok n
      ↔ (∀ k ∈ value, 0 ≤ k) ∧ value.map Int.cast = n := by
  cases value with
  | none =>
      constructor
      · intro h
        exact ⟨fun k hk => absurd hk (Option.not_mem_none k), Except.ok.inj h⟩
      · rintro ⟨-, rfl⟩
        rfl
  | some k =>
      rw [optionalNumberField]
      by_cases h : 0 ≤ k
      · rw [if_pos h]
        constructor
        · intro heq
          refine ⟨fun m hm => ?_, Except.ok.inj heq⟩
          obtain rfl := Option.some.inj hm
          exact h
        · rintro ⟨-, rfl⟩
          rfl
      · rw [if_neg h]
        exact iff_of_false (fun h => by cases h) fun hall => h (hall.1 k rfl)

/-- **DEATH OF A PUBLICATION**: a body without a root program, or an invalid date. -/
theorem publishArtifact_ne_die_iff {input : ArtifactPublication.ArtifactPublicationInput} :
    publishArtifact host input ≠ .die
      ↔ isDate input.occurredAt = true
        ∧ (ArtifactPublication.artifactScopeFromBody input.body).rootProgramId ≠ none := by
  rw [publishArtifact]
  cases (ArtifactPublication.artifactScopeFromBody input.body).rootProgramId with
  | none => exact iff_of_false (fun h => h rfl) fun h => h.2 rfl
  | some rootProgramId =>
      dsimp only
      cases hdate : isDate input.occurredAt with
      | false => exact iff_of_false (fun h => h rfl) fun h => by cases h.1
      | true =>
          refine iff_of_true ?_ ⟨rfl, fun h => by cases h⟩
          intro h
          rw [if_neg (by decide)] at h
          split at h
          · cases h
          · cases h

/-- The record of a publication, with its body. -/
def queueRecord (key : String) (item : WorkItems.ArtifactPublicationItem) (body : JsonValue) :
    ArtifactPublicationQueueRecord where
  workItemId := key
  input :=
    { artifactType := item.artifactType
      artifactId := item.artifactId
      version := item.version
      rootProgramId := item.rootProgramId
      body := body
      occurredAt := item.occurredAt
      eventType := item.eventType
      delegatedAuthorityId := JsString.truthy item.delegatedAuthorityId
      issuerId := JsString.truthy item.issuerId
      destinationPolicyId := JsString.truthy item.destinationPolicyId
      artifactRef := JsString.truthy item.artifactRef
      previousVersion := item.previousVersion.map Int.cast
      reason := JsString.truthy item.reason }

theorem postgresArtifactPublicationWorkItemFromRow_iff {key : String}
    {item : WorkItems.ArtifactPublicationItem} {record : ArtifactPublicationQueueRecord} :
    postgresArtifactPublicationWorkItemFromRow host key item = .ok record
      ↔ (key ≠ "" ∧ item.artifactType ≠ "" ∧ item.artifactId ≠ "" ∧ 0 ≤ item.version
          ∧ item.rootProgramId ≠ "" ∧ item.eventType ≠ "" ∧ ∀ n ∈ item.previousVersion, 0 ≤ n)
        ∧ ∃ body, jsonbValue host item.canonicalJson = .ok body
          ∧ queueRecord key item body = record := by
  rw [postgresArtifactPublicationWorkItemFromRow]
  constructor
  · intro h
    obtain ⟨_, hfield, h⟩ := Fallible.bind_eq_ok_iff.mp h
    obtain ⟨hprevious, rfl⟩ := optionalNumberField_iff.mp hfield
    obtain ⟨_, hfield, h⟩ := Fallible.bind_eq_ok_iff.mp h
    obtain ⟨hkey, rfl⟩ := requireStringField_iff.mp hfield
    obtain ⟨_, hfield, h⟩ := Fallible.bind_eq_ok_iff.mp h
    obtain ⟨htype, rfl⟩ := requireStringField_iff.mp hfield
    obtain ⟨_, hfield, h⟩ := Fallible.bind_eq_ok_iff.mp h
    obtain ⟨hid, rfl⟩ := requireStringField_iff.mp hfield
    obtain ⟨_, hfield, h⟩ := Fallible.bind_eq_ok_iff.mp h
    obtain ⟨hversion, rfl⟩ := requireNumberField_iff.mp hfield
    obtain ⟨_, hfield, h⟩ := Fallible.bind_eq_ok_iff.mp h
    obtain ⟨hprogram, rfl⟩ := requireStringField_iff.mp hfield
    obtain ⟨body, hbody, h⟩ := Fallible.bind_eq_ok_iff.mp h
    obtain ⟨_, hfield, h⟩ := Fallible.bind_eq_ok_iff.mp h
    obtain ⟨hevent, rfl⟩ := requireStringField_iff.mp hfield
    exact ⟨⟨hkey, htype, hid, hversion, hprogram, hevent, hprevious⟩, body, hbody,
      Except.ok.inj h⟩
  · rintro ⟨⟨hkey, htype, hid, hversion, hprogram, hevent, hprevious⟩, body, hbody, rfl⟩
    refine Fallible.bind_eq_ok_iff.mpr ⟨_, optionalNumberField_iff.mpr ⟨hprevious, rfl⟩, ?_⟩
    refine Fallible.bind_eq_ok_iff.mpr ⟨_, requireStringField_iff.mpr ⟨hkey, rfl⟩, ?_⟩
    refine Fallible.bind_eq_ok_iff.mpr ⟨_, requireStringField_iff.mpr ⟨htype, rfl⟩, ?_⟩
    refine Fallible.bind_eq_ok_iff.mpr ⟨_, requireStringField_iff.mpr ⟨hid, rfl⟩, ?_⟩
    refine Fallible.bind_eq_ok_iff.mpr ⟨_, requireNumberField_iff.mpr ⟨hversion, rfl⟩, ?_⟩
    refine Fallible.bind_eq_ok_iff.mpr ⟨_, requireStringField_iff.mpr ⟨hprogram, rfl⟩, ?_⟩
    refine Fallible.bind_eq_ok_iff.mpr ⟨body, hbody, ?_⟩
    exact Fallible.bind_eq_ok_iff.mpr ⟨_, requireStringField_iff.mpr ⟨hevent, rfl⟩, rfl⟩

theorem publicationEnds_iff {key : String} {item : WorkItems.ArtifactPublicationItem} :
    (artifactPublicationQueueWorker host).Ends key item ↔ PublicationEnds host key item := by
  show (∃ record, postgresArtifactPublicationWorkItemFromRow host key item = .ok record
    ∧ publishArtifact host record.input ≠ .die) ↔ _
  simp only [publishArtifact_ne_die_iff, postgresArtifactPublicationWorkItemFromRow_iff]
  constructor
  · rintro ⟨_, ⟨⟨hkey, htype, hid, hversion, hprogram, hevent, hprevious⟩, body, hbody, rfl⟩,
      hdate, hroot⟩
    exact ⟨hkey, htype, hid, hversion, hprogram, hevent, hprevious, hdate, body, hbody, hroot⟩
  · rintro ⟨hkey, htype, hid, hversion, hprogram, hevent, hprevious, hdate, body, hbody, hroot⟩
    exact ⟨_, ⟨⟨hkey, htype, hid, hversion, hprogram, hevent, hprevious⟩, body, hbody, rfl⟩,
      hdate, hroot⟩

/-- **WORKERS**: a batch of either worker is isolated exactly when each of its rows
    has contents that the worker survives. -/
theorem workers_isolate_iff (host : WorkerHost) (sink : JetStreamMessageSink) :
    (∀ (rows : Table EventOutbox.OutboxEvent Unit)
        (batch : ClaimedBatch (eventOutboxWorker host sink).protocol rows) (completedAt : Rat),
        Isolated (eventOutboxWorker host sink) batch completedAt
          ↔ ∀ key ∈ batch.returned, ∀ row, rows.get? key = some row →
              EventEnds host key row.item)
      ∧ ∀ (rows : WorkItems.ArtifactPublicationRows)
        (batch : ClaimedBatch (artifactPublicationQueueWorker host).protocol rows)
        (completedAt : Rat),
        Isolated (artifactPublicationQueueWorker host) batch completedAt
          ↔ ∀ key ∈ batch.returned, ∀ row, rows.get? key = some row →
              PublicationEnds host key row.item := by
  refine ⟨fun rows batch completedAt => ?_, fun rows batch completedAt => ?_⟩
  · rw [isolated_iff]
    simp only [eventEnds_iff]
  · rw [isolated_iff]
    simp only [publicationEnds_iff]

end Rows

/-! ## Two batches -/

/-- A runtime with the ASCII case mapping, whose parser knows no text. -/
def workerHost : WorkerHost where
  js :=
    { parseUrl := fun _ => none
      toLowerCase := JsString.asciiLowerCase
      toISOString := some
      hashJson := fun _ => "00" }
  parseJson _ := .error "Unexpected end of JSON input"

/-- A broker that takes every message. -/
def openSink : JetStreamMessageSink := fun _ _ => .ok ()

/-- An event of some type about the issuer of the demonstration. -/
def sampleEvent (eventId type : String) : EventOutbox.OutboxEvent where
  eventId := eventId
  artifactId := "issuer:acme"
  artifactHash := "sha256:00"
  payload := .obj
    [("envelope", .obj
      [("event_id", .str eventId), ("type", .str type),
        ("occurred_at", .str "2026-05-25T10:08:00Z"), ("root_program_id", .str "root:demo"),
        ("artifact_id", .str "issuer:acme"), ("artifact_hash", .str "sha256:00"),
        ("version", .num 1)])]

/-- A status change, and an event whose type is `constructor`. -/
def eventRows : Table EventOutbox.OutboxEvent Unit :=
  (OrderedMap.empty.set "row-1" (newRow (sampleEvent "evt_1" "issuer.status.changed") 0)).set
    "row-2" (newRow (sampleEvent "evt_2" "constructor") 1)

/-- The claim of both events. -/
def eventBatch : ClaimedBatch (eventOutboxWorker workerHost openSink).protocol eventRows where
  input := ⟨"worker", 2, 100, 30002, 3⟩
  locked := []
  returned := ["row-1", "row-2"]
  perm := by decide +kernel

/-- A publication with some body. -/
def samplePublication (body : JsonValue) : WorkItems.ArtifactPublicationItem where
  artifactType := "issuer_record"
  artifactId := "issuer_record:acme"
  version := 1
  rootProgramId := "root:demo"
  delegatedAuthorityId := none
  issuerId := none
  destinationPolicyId := none
  canonicalJson := body
  occurredAt := 0
  eventType := "issuer.record.published"
  artifactRef := none
  previousVersion := none
  reason := none

/-- An issuer record that names its root program, and one that does not. -/
def publicationRows : WorkItems.ArtifactPublicationRows :=
  (OrderedMap.empty.set "item-1"
      (newRow (samplePublication (.obj [("root_program_id", .str "root:demo")])) 0)).set
    "item-2" (newRow (samplePublication (.obj [])) 1)

/-- The claim of both publications. -/
def publicationBatch :
    ClaimedBatch (artifactPublicationQueueWorker workerHost).protocol publicationRows where
  input := ⟨"worker", 2, 50, 60002, 0⟩
  locked := []
  returned := ["item-1", "item-2"]
  perm := by decide +kernel

/-- **POISON**: an event of type `constructor`, or a publication whose body names no
    root program, kills the worker; the other row, which alone would succeed, stays
    claimed with it. -/
theorem poisoned_batches :
    (((eventOutboxWorker workerHost openSink).processOnce eventBatch 5).2 = .die
        ∧ (((eventOutboxWorker workerHost openSink).processOnce eventBatch 5).1.entries.map
            fun entry => entry.2.status) = [.inProgress, .inProgress]
        ∧ ((eventOutboxWorker workerHost openSink).outcome "row-1"
            (sampleEvent "evt_1" "issuer.status.changed")).map Except.toOption = some (some ())
        ∧ ¬ Isolated (eventOutboxWorker workerHost openSink) eventBatch 5)
      ∧ ((artifactPublicationQueueWorker workerHost).processOnce publicationBatch 5).2 = .die
        ∧ (((artifactPublicationQueueWorker workerHost).processOnce publicationBatch 5).1.entries.map
            fun entry => entry.2.status) = [.inProgress, .inProgress]
        ∧ ¬ Isolated (artifactPublicationQueueWorker workerHost) publicationBatch 5 := by
  have hevent : ((eventOutboxWorker workerHost openSink).processOnce eventBatch 5).2 = .die := by
    decide +kernel
  have hpublication :
      ((artifactPublicationQueueWorker workerHost).processOnce publicationBatch 5).2 = .die := by
    decide +kernel
  refine ⟨⟨hevent, by decide +kernel, by decide +kernel, ?_⟩, hpublication, by decide +kernel, ?_⟩
  · rintro ⟨⟨report, h⟩, -⟩
    rw [hevent] at h
    cases h
  · rintro ⟨⟨report, h⟩, -⟩
    rw [hpublication] at h
    cases h

end PublicationWorkers
