import Mathlib.Data.List.Nodup
import QrTrust.Network.RuntimeSubscriber

/-! # How often an observation is recorded

    A message is acknowledged after the row of its observation is there.  But the
    row has no key of the observation, so a delivery that comes again after a
    crash or a lost answer inserts it again (`redelivery_inserts_twice`).  Where no row of the observation is there when
    it is inserted, and no failure of the store or the table has a text that the
    subscriber reads as a verdict on the message (`Meets`), every acknowledged
    observation has one row, and a sound message is never terminated
    (`recorded_once`). -/

namespace RuntimeSubscriber

open NatsPropagation PublicationWorkers PostgresArtifactStore Runs
open ArtifactPublication (SignedArtifact)

variable {host : SubscriberHost} {s : State} {delivery message : String}
  {observation : RuntimeSafetyObservation} {error : NetworkError}

/-! ## Rows and acknowledgements -/

/-- **INSERTED**: a delivery that is to be acknowledged, and every acknowledged
    message, has its observation in the table. -/
structure Inserted (s : State) : Prop where
  acking : ∀ delivery message observation,
    s.deliveries delivery = some (message, .acking observation) → observation ∈ s.inserted
  acknowledged : ∀ message observationId, (message, observationId) ∈ s.acknowledged →
    ∃ observation ∈ s.inserted, observation.observationId = observationId

theorem update_eq_some_iff {α : Type} {f : String → Option α} {key key' : String}
    {value : Option α} {a : α} (h : Function.update f key value key' = some a) :
    key' = key ∧ value = some a ∨ f key' = some a := by
  by_cases hkey : key' = key
  · rw [hkey, Function.update_self] at h
    exact .inl ⟨hkey, h⟩
  · rw [Function.update_of_ne hkey] at h
    exact .inr h

theorem Inserted.moved (h : Inserted s) {phase : Phase}
    (hphase : ∀ observation, phase = .acking observation → observation ∈ s.inserted) :
    Inserted (s.moved delivery message phase) where
  acking other message' observation hother := by
    rcases update_eq_some_iff hother with ⟨-, heq⟩ | hold
    · exact hphase observation (Prod.mk.inj (Option.some.inj heq)).2
    · exact h.acking other message' observation hold
  acknowledged := h.acknowledged

theorem Inserted.ended (h : Inserted s) : Inserted (s.ended delivery) where
  acking other message' observation hother := by
    rcases update_eq_some_iff hother with ⟨-, heq⟩ | hold
    · cases heq
    · exact h.acking other message' observation hold
  acknowledged := h.acknowledged

theorem Inserted.failed (h : Inserted s) : Inserted (s.failed delivery message error) := by
  rw [State.failed]
  split
  · exact ⟨h.ended.acking, h.acknowledged⟩
  · exact h.ended

theorem Inserted.insert (h : Inserted s) : Inserted (s.insert observation) where
  acking delivery message other hother :=
    List.mem_append_left _ (h.acking delivery message other hother)
  acknowledged message observationId hmem := by
    obtain ⟨other, hother, hid⟩ := h.acknowledged message observationId hmem
    exact ⟨other, List.mem_append_left _ hother, hid⟩

theorem Inserted.persisted (h : Inserted s) (fault : Option PersistenceFault) :
    Inserted (s.persisted host delivery message observation fault) := by
  rw [State.persisted.eq_def]
  split
  · split
    · refine h.insert.moved fun other heq => ?_
      obtain rfl := Phase.acking.inj heq
      exact List.mem_append_right _ List.mem_cons_self
    · exact h.failed
  · exact h.failed
  · split
    · exact h.insert.failed
    · exact h.failed

/-- **INSERTED FIRST**: no step acknowledges what is not in the table. -/
theorem Inserted.apply (h : Inserted s) (action : Action) :
    Inserted ((machine host).apply s action) := by
  show Inserted (s.apply host action)
  cases action with
  | publish artifact => exact ⟨h.acking, h.acknowledged⟩
  | deliver delivery message =>
      rw [State.apply]
      split
      · exact h
      · split
        · exact ⟨h.acking, h.acknowledged⟩
        · exact h.moved fun _ heq => by cases heq
  | fetch delivery fault =>
      rw [State.apply]
      split
      · split
        · exact h.moved fun _ heq => by cases heq
        · exact h.failed
        · exact h.ended
      · exact h
  | persist delivery fault =>
      rw [State.apply]
      split
      · exact h.persisted fault
      · exact h
  | acknowledge delivery =>
      rw [State.apply]
      split
      · rename_i message observation hdelivery
        refine ⟨h.ended.acking, fun message' observationId hmem => ?_⟩
        rcases List.mem_append.mp hmem with hmem | hmem
        · exact h.acknowledged message' observationId hmem
        · obtain ⟨-, rfl⟩ := Prod.mk.inj (List.mem_singleton.mp hmem)
          exact ⟨observation, h.acking delivery message observation hdelivery, rfl⟩
      · exact h
  | crash delivery => exact h.ended

/-- Nothing stored, delivered or done. -/
def State.initial : State where
  artifacts := .empty
  inserted := []
  deliveries _ := none
  acknowledged := []
  terminated := []

theorem inserted_initial : Inserted State.initial where
  acking _ _ _ h := by cases h
  acknowledged _ _ h := absurd h List.not_mem_nil

/-! ## One row for an observation -/

/-- The row is inserted, whatever the subscriber hears of it. -/
def inserts (fault : Option PersistenceFault) : Bool :=
  match fault with
  | some (.refused _) => false
  | _ => true

/-- **MEETS**: a failure of the store or of the table has no text that the
    subscriber takes for a verdict on the message, and no row of an observation is
    there when a delivery of it inserts one. -/
def Meets (s : State) : Action → Prop
  | .fetch _ (some error) => runtimeRejectionReason error = none
  | .persist delivery fault =>
      (∀ cause, fault = some cause → runtimeRejectionReason cause.error = none)
        ∧ (inserts fault = true → ∀ message observation,
            s.deliveries delivery = some (message, .persisting observation) →
            ∀ other ∈ s.inserted, other.observationId ≠ observation.observationId)
  | _ => True

/-- No observation has two rows. -/
def Once (s : State) : Prop := (s.inserted.map RuntimeSafetyObservation.observationId).Nodup

@[simp] theorem inserted_failed : (s.failed delivery message error).inserted = s.inserted := by
  rw [State.failed]
  split
  · rfl
  · rfl

theorem inserted_persisted (fault : Option PersistenceFault) :
    (s.persisted host delivery message observation fault).inserted = s.inserted
      ∨ inserts fault = true
        ∧ (s.persisted host delivery message observation fault).inserted
          = s.inserted ++ [observation] := by
  rw [State.persisted.eq_def]
  split
  · split
    · exact .inr ⟨rfl, rfl⟩
    · exact .inl inserted_failed
  · exact .inl inserted_failed
  · split
    · exact .inr ⟨rfl, inserted_failed⟩
    · exact .inl inserted_failed

/-- What a step inserts. -/
theorem inserted_apply (action : Action) :
    (s.apply host action).inserted = s.inserted
      ∨ ∃ delivery fault message observation, action = .persist delivery fault
        ∧ s.deliveries delivery = some (message, .persisting observation)
        ∧ inserts fault = true
        ∧ (s.apply host action).inserted = s.inserted ++ [observation] := by
  cases action with
  | publish artifact => exact .inl rfl
  | deliver delivery message =>
      refine .inl ?_
      rw [State.apply]
      split
      · rfl
      · split
        · rfl
        · rfl
  | fetch delivery fault =>
      refine .inl ?_
      rw [State.apply]
      split
      · split
        · rfl
        · exact inserted_failed
        · rfl
      · rfl
  | persist delivery fault =>
      rw [State.apply]
      split
      · rename_i message observation hdelivery
        rcases @inserted_persisted host s delivery message observation fault with
          hsame | ⟨hinserts, hgrown⟩
        · exact .inl hsame
        · exact .inr ⟨delivery, fault, message, observation, rfl, hdelivery, hinserts, hgrown⟩
      · exact .inl rfl
  | acknowledge delivery =>
      refine .inl ?_
      rw [State.apply]
      split
      · rfl
      · rfl
  | crash delivery => exact .inl rfl

/-- **ONCE**: an insert that finds no row of its observation leaves one row for each. -/
theorem Once.apply (h : Once s) {action : Action} (hmeets : Meets s action) :
    Once ((machine host).apply s action) := by
  show ((s.apply host action).inserted.map RuntimeSafetyObservation.observationId).Nodup
  rcases @inserted_apply host s action with hsame | ⟨delivery, fault, message, observation, rfl,
    hdelivery, hinserts, hgrown⟩
  · rw [hsame]
    exact h
  · rw [hgrown, List.map_append]
    refine List.nodup_append.mpr ⟨h, List.nodup_singleton _, fun observationId hmem other hother => ?_⟩
    obtain ⟨row, hrow, rfl⟩ := List.mem_map.mp hmem
    obtain rfl := List.mem_singleton.mp hother
    exact hmeets.2 hinserts message observation hdelivery row hrow

/-- An acknowledged observation has one row. -/
theorem count_acknowledged (honce : Once s) (hinserted : Inserted s) {observationId : String}
    (h : (message, observationId) ∈ s.acknowledged) :
    (s.inserted.map RuntimeSafetyObservation.observationId).count observationId = 1 := by
  obtain ⟨observation, hmem, hid⟩ := hinserted.acknowledged message observationId h
  exact List.count_eq_one_of_mem honce (List.mem_map.mpr ⟨observation, hmem, hid⟩)

/-! ## What is terminated -/

/-- **SOUND**: a message of a runtime verdict whose stored artifact is there, has the
    hash of the event, and is a valid observation. -/
def Sound (host : SubscriberHost) (s : State) (message : String) : Prop :=
  ∃ event artifact, decodeNatsRuntimePayload host message = .ok event
    ∧ event.type = "runtime.verdict.observed"
    ∧ s.artifacts.get? event.artifactId = some artifact
    ∧ artifact.artifactHash = event.artifactHash
    ∧ "sha256:" ++ host.js.hashJson artifact.body = event.artifactHash
    ∧ artifact.artifactType = "runtime_safety_observation"
    ∧ (decodeRuntimeSafetyObservation host.js artifact.body).isSome = true

/-- The event of a delivery is that of its message. -/
def Decoded (host : SubscriberHost) (s : State) : Prop :=
  ∀ delivery message event, s.deliveries delivery = some (message, .fetching event) →
    decodeNatsRuntimePayload host message = .ok event

theorem Decoded.moved (h : Decoded host s) {phase : Phase}
    (hphase : ∀ event, phase = .fetching event →
      decodeNatsRuntimePayload host message = .ok event) :
    Decoded host (s.moved delivery message phase) := by
  intro other message' event hother
  rcases update_eq_some_iff hother with ⟨-, heq⟩ | hold
  · obtain ⟨rfl, hfetching⟩ := Prod.mk.inj (Option.some.inj heq)
    exact hphase event hfetching
  · exact h other message' event hold

theorem Decoded.ended (h : Decoded host s) : Decoded host (s.ended delivery) := by
  intro other message' event hother
  rcases update_eq_some_iff hother with ⟨-, heq⟩ | hold
  · cases heq
  · exact h other message' event hold

theorem Decoded.failed (h : Decoded host s) : Decoded host (s.failed delivery message error) := by
  rw [State.failed]
  split
  · exact h.ended
  · exact h.ended

theorem Decoded.apply (h : Decoded host s) (action : Action) :
    Decoded host ((machine host).apply s action) := by
  show Decoded host (s.apply host action)
  cases action with
  | publish artifact => exact h
  | deliver delivery message =>
      rw [State.apply]
      split
      · exact h
      · split
        · exact h
        · rename_i event hevent
          refine h.moved fun other heq => ?_
          obtain rfl := Phase.fetching.inj heq
          exact hevent
  | fetch delivery fault =>
      rw [State.apply]
      split
      · split
        · exact h.moved fun _ heq => by cases heq
        · exact h.failed
        · exact h.ended
      · exact h
  | persist delivery fault =>
      rw [State.apply]
      split
      · rename_i message observation _
        have hinsert : Decoded host (s.insert observation) := h
        rw [State.persisted.eq_def]
        split
        · split
          · exact hinsert.moved fun _ heq => by cases heq
          · exact h.failed
        · exact h.failed
        · split
          · exact hinsert.failed
          · exact h.failed
      · exact h
  | acknowledge delivery =>
      rw [State.apply]
      split
      · exact h.ended
      · exact h
  | crash delivery => exact h.ended

/-- A failure without a verdict in its text terminates nothing. -/
theorem terminated_failed (h : runtimeRejectionReason error = none) :
    (s.failed delivery message error).terminated = s.terminated := by
  rw [State.failed, h]
  rfl

theorem terminated_failed_message {message' : String} {termination : Termination}
    (h : (s.failed delivery message error).terminated = s.terminated ++ [(message', termination)]) :
    message' = message := by
  rw [State.failed] at h
  split at h
  · exact (Prod.mk.inj (List.singleton_inj.mp (List.append_cancel_left h))).1.symm
  · exact absurd h (by simp [State.ended])

/-- A refused statement is no verdict. -/
theorem insert_failure_transient : runtimeRejectionReason
    (persistenceError "Postgres command runtime_observations.insert failed.") = none := by
  rfl

/-- The insert terminates nothing where its failures have no verdict in their text. -/
theorem terminated_persisted {fault : Option PersistenceFault}
    (hfault : ∀ cause, fault = some cause → runtimeRejectionReason cause.error = none) :
    (s.persisted host delivery message observation fault).terminated = s.terminated := by
  rw [State.persisted.eq_def]
  split
  · split
    · rfl
    · exact terminated_failed insert_failure_transient
  · exact terminated_failed (hfault _ rfl)
  · split
    · exact terminated_failed (hfault _ rfl)
    · exact terminated_failed (hfault _ rfl)

/-- The observation of a sound message is read, if the store answers. -/
theorem runtimeObservation_of_sound {event : EventEnvelope} (hsound : Sound host s message)
    (hdecoded : decodeNatsRuntimePayload host message = .ok event)
    (fault : Option NetworkError) :
    (∃ observation, runtimeObservation host (s.answer fault) event = .succeed observation)
      ∨ ∃ error, fault = some error
        ∧ runtimeObservation host (s.answer fault) event = .fail error := by
  obtain ⟨event', artifact, hevent, htype, hstored, hhash, hbody, hartifactType, hvalid⟩ := hsound
  rw [hdecoded] at hevent
  obtain rfl := Except.ok.inj hevent
  obtain ⟨observation, hobservation⟩ := Option.isSome_iff_exists.mp hvalid
  have hmatches : ¬(artifact.artifactHash ≠ event.artifactHash
      ∨ "sha256:" ++ host.js.hashJson artifact.body ≠ event.artifactHash) := by
    rintro (hne | hne)
    · exact hne hhash
    · exact hne hbody
  cases fault with
  | none =>
      refine .inl ⟨observation, ?_⟩
      rw [runtimeObservation, if_neg (not_not.mpr htype), State.answer, hstored]
      show (if _ then _ else _) = _
      rw [if_neg hmatches, if_neg (not_not.mpr hartifactType), hobservation]
  | some error =>
      refine .inr ⟨error, rfl, ?_⟩
      rw [runtimeObservation, if_neg (not_not.mpr htype)]
      rfl

/-- **NEVER TERMINATED**: no step terminates a sound message, unless a failure has
    the text of a verdict. -/
theorem not_sound_of_terminated (hdecoded : Decoded host s) {action : Action}
    (hmeets : Meets s action) {termination : Termination}
    (h : (s.apply host action).terminated = s.terminated ++ [(message, termination)]) :
    ¬ Sound host s message := by
  have hnothing : s.terminated ≠ s.terminated ++ [(message, termination)] := by simp
  intro hsound
  cases action with
  | publish artifact => exact hnothing h
  | deliver delivery message' =>
      rw [State.apply] at h
      split at h
      · exact hnothing h
      · split at h
        · rename_i cause hmalformed
          obtain ⟨rfl, -⟩ := Prod.mk.inj (List.singleton_inj.mp (List.append_cancel_left h))
          obtain ⟨event, _, hevent, -⟩ := hsound
          rw [hmalformed] at hevent
          cases hevent
        · exact hnothing h
  | fetch delivery fault =>
      rw [State.apply] at h
      split at h
      · rename_i message' event hdelivery
        split at h
        · exact hnothing h
        · rename_i error herror
          obtain rfl := terminated_failed_message h
          rcases runtimeObservation_of_sound hsound (hdecoded _ _ _ hdelivery) fault with
            ⟨observation, hobservation⟩ | ⟨cause, rfl, hcause⟩
          · rw [hobservation] at herror
            cases herror
          · rw [hcause] at herror
            obtain rfl := Exit.fail.inj herror
            rw [terminated_failed hmeets] at h
            exact hnothing h
        · exact hnothing h
      · exact hnothing h
  | persist delivery fault =>
      rw [State.apply] at h
      split at h
      · rw [terminated_persisted hmeets.1] at h
        exact hnothing h
      · exact hnothing h
  | acknowledge delivery =>
      rw [State.apply] at h
      split at h
      · exact hnothing h
      · exact hnothing h
  | crash delivery => exact hnothing h

/-! ## Every run -/

/-- **RECORDED ONCE**: in a run whose steps meet the condition, every acknowledged
    observation has exactly one row at every point, and no step terminates a sound
    message. -/
theorem recorded_once {actions : List Action}
    (hactions : (machine host).EachMeets Meets State.initial actions) :
    (∀ before, before <+: actions → ∀ message observationId,
        (message, observationId) ∈ ((machine host).applyAll State.initial before).acknowledged →
        (((machine host).applyAll State.initial before).inserted.map
          RuntimeSafetyObservation.observationId).count observationId = 1)
      ∧ ∀ before action, before ++ [action] <+: actions → ∀ message termination,
          (((machine host).applyAll State.initial before).apply host action).terminated
            = ((machine host).applyAll State.initial before).terminated
              ++ [(message, termination)] →
          ¬ Sound host ((machine host).applyAll State.initial before) message := by
  have hstep : ∀ s action, (Once s ∧ Inserted s ∧ Decoded host s) → Meets s action →
      Once ((machine host).apply s action) ∧ Inserted ((machine host).apply s action)
        ∧ Decoded host ((machine host).apply s action) := by
    rintro s action ⟨honce, hinserted, hdecoded⟩ hmeets
    exact ⟨honce.apply hmeets, hinserted.apply action, hdecoded.apply action⟩
  have hinitial : Once State.initial ∧ Inserted State.initial ∧ Decoded host State.initial :=
    ⟨List.nodup_nil, inserted_initial, fun _ _ _ h => by cases h⟩
  constructor
  · intro before hbefore message observationId hmem
    obtain ⟨honce, hinserted, -⟩ :=
      (machine host).prefix_invariant hstep hinitial hactions before hbefore
    exact count_acknowledged honce hinserted hmem
  · intro before action hnext message termination h
    obtain ⟨-, -, hdecoded⟩ := (machine host).prefix_invariant hstep hinitial hactions before
      ((List.prefix_append before [action]).trans hnext)
    exact not_sound_of_terminated hdecoded (hactions.next hnext) h

/-! ## A delivery, and a delivery that comes again -/

/-- The event of a runtime verdict. -/
def demoEvent : JsonValue := .obj
  [("envelope", .obj
    [("event_id", .str "evt-1"), ("type", .str "runtime.verdict.observed"),
      ("occurred_at", .str "2026-05-25T00:00:00Z"), ("root_program_id", .str "root:acme"),
      ("artifact_id", .str "art-1"), ("artifact_hash", .str "sha256:1"), ("version", .num 1)])]

/-- Its observation. -/
def demoBody : JsonValue := .obj
  [("artifact_type", .str "runtime_safety_observation"), ("schema_version", .str "1.0"),
    ("observation_id", .str "obs-1"), ("observed_at", .str "2026-05-25T00:00:00Z"),
    ("provider", .obj
      [("provider_id", .str "provider-1"), ("provider_kind", .str "redirect_inspector"),
        ("response_status", .str "usable")]),
    ("destination", .obj
      [("destination_host", .str "shop.example"),
        ("destination_url", .str "https://shop.example/"), ("fingerprint", .str "sho...ple")]),
    ("verdict", .str "clear"), ("risk_score", .num 5), ("reason_codes", .arr []),
    ("privacy", .obj
      [("payload_disclosure", .str "host_only"), ("user_data_disclosure", .str "none"),
        ("raw_provider_payload_retained", .bool false)]),
    ("decision_role", .obj
      [("source_of_truth", .bool false), ("scanner_visible_impact", .str "no_decision_impact")])]

/-- A host that parses one text. -/
def demoHost : SubscriberHost where
  js :=
    { parseUrl := fun _ => none
      toLowerCase := id
      toISOString := some
      hashJson := fun _ => "1" }
  parseJson text := if text = "event" then some demoEvent else none
  parsesTimestamptz _ := true

/-- The artifact is stored and the message delivered, up to its row. -/
def demoDelivery (delivery : String) : List Action :=
  [.publish ⟨"art-1", "sha256:1", "runtime_safety_observation", 1, demoBody⟩,
    .deliver delivery "event", .fetch delivery none, .persist delivery none]

theorem demo_meets :
    (machine demoHost).EachMeets Meets State.initial
      (demoDelivery "first" ++ [.acknowledge "first"]) := by
  have hnone : ((machine demoHost).applyAll State.initial
      ((demoDelivery "first").take 3)).inserted = [] := rfl
  refine ⟨trivial, trivial, trivial, ⟨fun _ h => (by cases h), fun _ _ _ _ other hother => ?_⟩,
    trivial, trivial⟩
  exact absurd (hnone ▸ hother) List.not_mem_nil

/-- The acknowledged observation has one row. -/
theorem demo_recorded_once :
    (((machine demoHost).applyAll State.initial
      (demoDelivery "first" ++ [.acknowledge "first"])).inserted.map
        RuntimeSafetyObservation.observationId).count "obs-1" = 1 :=
  (recorded_once demo_meets).1 _ (List.prefix_refl _) "event" "obs-1" (by decide +kernel)

/-- **INSERTED TWICE**: the subscriber crashes between the insert and the
    acknowledgement, the message comes again, and the acknowledged observation has
    two rows, which are the same. -/
theorem redelivery_inserts_twice :
    ("event", "obs-1") ∈ ((machine demoHost).applyAll State.initial
        (demoDelivery "first" ++ .crash "first" :: demoDelivery "second"
          ++ [.acknowledge "second"])).acknowledged
      ∧ (((machine demoHost).applyAll State.initial
        (demoDelivery "first" ++ .crash "first" :: demoDelivery "second"
          ++ [.acknowledge "second"])).inserted.map
          RuntimeSafetyObservation.observationId).count "obs-1" = 2
      ∧ ∃ row, ((machine demoHost).applyAll State.initial
        (demoDelivery "first" ++ .crash "first" :: demoDelivery "second"
          ++ [.acknowledge "second"])).runtimeObservations = [row, row] := by
  refine ⟨by decide +kernel, by decide +kernel, _, rfl⟩

end RuntimeSubscriber
