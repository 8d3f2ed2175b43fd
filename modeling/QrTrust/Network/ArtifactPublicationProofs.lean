import Mathlib.Algebra.Order.Ring.Unbundled.Rat
import QrTrust.Network.ArtifactPublication

/-! # Convergence of publications

    The store takes whatever comes last, and the outbox drops an event whose
    content was announced before.  So a version may go down, and a body that comes
    back is stored without a word (`reverted_body_unannounced`).  Where calls for
    one artifact do not overlap, versions do not go down, no call dies between its
    statements and new content is really new (`Orderly`), every change is
    announced after it was made, and a consumer ends with what is stored
    (`publications_converge`). -/

namespace ArtifactPublication

variable {js : JsRuntime} {s : State} {action : Action}

/-! ## What a step does -/

/-- The statement stores the content of the artifact under its id. -/
theorem publishedArtifactCommand_some {artifact : SignedArtifact}
    {rows rows' : PublishedArtifacts} (h : publishedArtifactCommand artifact rows = some rows') :
    ∃ row, rows' = rows.set artifact.artifactId row
      ∧ row.artifactHash = artifact.artifactHash ∧ row.version = artifact.version := by
  simp only [publishedArtifactCommand, Option.bind_eq_bind, Option.bind_eq_some_iff,
    Option.some.injEq] at h
  obtain ⟨rootProgramId, -, -, -, -, -, -, -, rfl⟩ := h
  refine ⟨_, rfl, ?_⟩
  split
  · exact ⟨rfl, rfl⟩
  · exact ⟨rfl, rfl⟩

/-- A step that stores an artifact. -/
theorem stored_put (js : JsRuntime) (s : State) (call : String)
    (input : ArtifactPublicationInput) :
    s.apply js (.put call input) = s
      ∨ s.calls call = none
        ∧ (s.apply js (.put call input)).calls = Function.update s.calls call (some input)
        ∧ (s.apply js (.put call input)).outbox = s.outbox
        ∧ (s.apply js (.put call input)).stored
          = Function.update s.stored input.artifactId (some (input.artifact js).content) := by
  rw [State.apply]
  split
  · rename_i hcall hput
    obtain ⟨row, rfl, hhash, hversion⟩ := publishedArtifactCommand_some hput
    refine .inr ⟨hcall, rfl, rfl, ?_⟩
    funext artifactId
    show ((s.published.set input.artifactId row).get? artifactId).map _ = _
    rw [OrderedMap.get?_set]
    by_cases hid : artifactId = input.artifactId
    · rw [if_pos hid, hid, Function.update_self, Option.map_some, hhash, hversion]
      rfl
    · rw [if_neg hid, Function.update_of_ne hid]
      rfl
  · exact .inl rfl

/-- A step that ends a call and enqueues nothing, and a step that announces. -/
theorem apply_announce {call : String} {input : ArtifactPublicationInput}
    (hcall : s.calls call = some input)
    (hvalid : decodeEventEnvelope (input.event js).envelope = true) :
    s.apply js (.announce call)
      = { s with
          outbox := eventOutboxCommand (input.event js) s.outbox
          calls := Function.update s.calls call none } := by
  rw [State.apply, hcall]
  exact if_pos hvalid

theorem apply_announce_none {call : String} (hcall : s.calls call = none) :
    s.apply js (.announce call) = s := by
  rw [State.apply, hcall]

theorem eventOutboxCommand_fresh {event : NetworkEvent} {outbox : List NetworkEvent}
    (h : ∀ other ∈ outbox, other.envelope.eventId ≠ event.envelope.eventId) :
    eventOutboxCommand event outbox = outbox ++ [event] := by
  refine if_neg fun htaken => ?_
  obtain ⟨other, hmem, heq⟩ := List.any_eq_true.mp htaken
  exact h other hmem (of_decide_eq_true heq)

theorem eventOutboxCommand_cases (event : NetworkEvent) (outbox : List NetworkEvent) :
    eventOutboxCommand event outbox = outbox
      ∨ eventOutboxCommand event outbox = outbox ++ [event] := by
  rw [eventOutboxCommand]
  split
  · exact .inl rfl
  · exact .inr rfl

/-- One more event for the consumer. -/
theorem foldl_consume_concat (outbox : List NetworkEvent) (event : NetworkEvent)
    (contents : String → Option Content) :
    (outbox ++ [event]).foldl consume contents
      = Function.update (outbox.foldl consume contents) event.envelope.artifactId
          (some event.body.content) := by
  rw [List.foldl_append]
  rfl

/-! ## Orderly publications -/

/-- **ORDERLY**: a call starts when no other call for its artifact is under way,
    with a version that is not below the stored one and an event that meets the
    contract; it announces content that is new to the outbox, unless the outbox
    ends with it already; and it does not end before that. -/
def Orderly (js : JsRuntime) (s : State) : Action → Prop
  | .put _ input =>
      (∀ call other, s.calls call = some other → other.artifactId ≠ input.artifactId)
        ∧ (∀ content, s.stored input.artifactId = some content → content.version ≤ input.version)
        ∧ decodeEventEnvelope (input.event js).envelope = true
  | .announce call => ∀ input, s.calls call = some input →
      s.consumed input.artifactId = some (input.artifact js).content
        ∨ ∀ event ∈ s.outbox, event.envelope.eventId ≠ (input.event js).envelope.eventId
  | .abort call => ∀ input, s.calls call = some input →
      s.consumed input.artifactId = some (input.artifact js).content

/-- **ANNOUNCING**: at most one call is under way for an artifact, what it stored
    is stored still, and a consumer has what is stored under every other id. -/
structure Announcing (js : JsRuntime) (s : State) : Prop where
  solo : ∀ call call' input input', s.calls call = some input → s.calls call' = some input' →
    input.artifactId = input'.artifactId → call = call'
  underWay : ∀ call input, s.calls call = some input →
    s.stored input.artifactId = some (input.artifact js).content
      ∧ decodeEventEnvelope (input.event js).envelope = true
  announced : ∀ artifactId,
    (∀ call input, s.calls call = some input → input.artifactId ≠ artifactId) →
      s.consumed artifactId = s.stored artifactId

/-- Without calls a consumer that has everything stored has it announced. -/
theorem announcing_of_quiet (hquiet : ∀ call, s.calls call = none)
    (hconsumed : s.consumed = s.stored) : Announcing js s where
  solo call call' input input' hcall := by
    rw [hquiet call] at hcall
    cases hcall
  underWay call input hcall := by
    rw [hquiet call] at hcall
    cases hcall
  announced artifactId _ := congrFun hconsumed artifactId

theorem update_eq_some {α β : Type} [DecidableEq α] {f : α → Option β} {a a' : α} {v : Option β}
    {b : β} (h : Function.update f a v a' = some b) : a' = a ∧ v = some b ∨ a' ≠ a ∧ f a' = some b := by
  by_cases ha : a' = a
  · rw [ha, Function.update_self] at h
    exact .inl ⟨ha, h⟩
  · rw [Function.update_of_ne ha] at h
    exact .inr ⟨ha, h⟩

theorem announcing_put {call : String} {input : ArtifactPublicationInput}
    (hinv : Announcing js s) (horderly : Orderly js s (.put call input)) :
    Announcing js (s.apply js (.put call input)) := by
  rcases stored_put js s call input
    with hsame | ⟨hfree, hcalls, houtbox, hstored⟩
  · rw [hsame]
    exact hinv
  · obtain ⟨halone, -, hvalid⟩ := horderly
    constructor
    · intro c c' i i' hc hc' hid
      rw [hcalls] at hc hc'
      rcases update_eq_some hc with ⟨rfl, hi⟩ | ⟨hne, hold⟩
      · rcases update_eq_some hc' with ⟨rfl, -⟩ | ⟨hne', hold'⟩
        · rfl
        · obtain rfl := Option.some.inj hi
          exact absurd hid.symm (halone _ _ hold')
      · rcases update_eq_some hc' with ⟨rfl, hi'⟩ | ⟨hne', hold'⟩
        · obtain rfl := Option.some.inj hi'
          exact absurd hid (halone _ _ hold)
        · exact hinv.solo c c' i i' hold hold' hid
    · intro c i hc
      rw [hcalls] at hc
      rw [hstored]
      rcases update_eq_some hc with ⟨rfl, hi⟩ | ⟨hne, hc⟩
      · obtain rfl := Option.some.inj hi
        rw [Function.update_self]
        exact ⟨rfl, hvalid⟩
      · rw [Function.update_of_ne (halone c i hc)]
        exact hinv.underWay c i hc
    · intro artifactId hothers
      rw [hcalls] at hothers
      have hid : artifactId ≠ input.artifactId :=
        (hothers call input (Function.update_self ..)).symm
      rw [hstored, Function.update_of_ne hid, State.consumed, houtbox]
      refine hinv.announced artifactId fun c i hc => hothers c i ?_
      rw [Function.update_of_ne fun heq => ?_]
      · exact hc
      · rw [heq, hfree] at hc
        cases hc

/-- A call ends, and a consumer has what it stored. -/
theorem announcing_end {call : String} {input : ArtifactPublicationInput} {outbox : List NetworkEvent}
    (hinv : Announcing js s) (hcall : s.calls call = some input)
    (hother : ∀ artifactId, artifactId ≠ input.artifactId →
      outbox.foldl consume (fun _ => none) artifactId = s.consumed artifactId)
    (hself : outbox.foldl consume (fun _ => none) input.artifactId
      = some (input.artifact js).content) :
    Announcing js { s with outbox := outbox, calls := Function.update s.calls call none } := by
  have hold : ∀ {c i}, Function.update s.calls call none c = some i → s.calls c = some i := by
    intro c i hc
    rcases update_eq_some hc with ⟨-, hi⟩ | ⟨-, hc⟩
    · cases hi
    · exact hc
  constructor
  · intro c c' i i' hc hc'
    exact hinv.solo c c' i i' (hold hc) (hold hc')
  · intro c i hc
    exact hinv.underWay c i (hold hc)
  · intro artifactId hothers
    show outbox.foldl consume (fun _ => none) artifactId = s.stored artifactId
    by_cases hid : artifactId = input.artifactId
    · rw [hid, hself, (hinv.underWay call input hcall).1]
    · rw [hother artifactId hid]
      refine hinv.announced artifactId fun c i hc heq => ?_
      by_cases hc' : c = call
      · rw [hc', hcall] at hc
        obtain rfl := Option.some.inj hc
        exact hid heq.symm
      · exact hothers c i ((Function.update_of_ne hc' ..).trans hc) heq

/-- **ONE STEP**: an orderly step keeps what it stored announced or under way. -/
theorem announcing_step (hinv : Announcing js s) (horderly : Orderly js s action) :
    Announcing js (s.apply js action) := by
  cases action with
  | put call input => exact announcing_put hinv horderly
  | announce call =>
      cases hcall : s.calls call with
      | none =>
          rw [apply_announce_none hcall]
          exact hinv
      | some input =>
          rw [apply_announce hcall (hinv.underWay call input hcall).2]
          rcases horderly input hcall with hconsumed | hfresh
          · rcases eventOutboxCommand_cases (input.event js) s.outbox with hsame | hmore
            · rw [hsame]
              exact announcing_end hinv hcall (fun _ _ => rfl) hconsumed
            · rw [hmore]
              refine announcing_end hinv hcall (fun artifactId hid => ?_) ?_
              · rw [foldl_consume_concat]
                exact Function.update_of_ne hid ..
              · rw [foldl_consume_concat]
                exact Function.update_self ..
          · rw [eventOutboxCommand_fresh hfresh]
            refine announcing_end hinv hcall (fun artifactId hid => ?_) ?_
            · rw [foldl_consume_concat]
              exact Function.update_of_ne hid ..
            · rw [foldl_consume_concat]
              exact Function.update_self ..
  | abort call =>
      cases hcall : s.calls call with
      | none =>
          have hsame : s.apply js (.abort call) = s := by
            rw [State.apply, Function.update_eq_self_iff.mpr hcall.symm]
          rw [hsame]
          exact hinv
      | some input => exact announcing_end hinv hcall (fun _ _ => rfl) (horderly input hcall)

/-! ## Every change is announced -/

/-- The events from some point on name the body of the request. -/
def AnnouncedSince (js : JsRuntime) (input : ArtifactPublicationInput) (start : Nat) (s : State) :
    Prop :=
  ∃ event ∈ s.outbox.drop start, event.envelope.artifactId = input.artifactId
    ∧ event.envelope.artifactHash = (input.artifact js).artifactHash

/-- The call has announced what it stored, or is under way and the consumer has
    what was stored before it. -/
def Following (js : JsRuntime) (call : String) (input : ArtifactPublicationInput) (start : Nat)
    (former : Option Content) (s : State) : Prop :=
  start ≤ s.outbox.length
    ∧ (s.calls call = some input ∧ s.consumed input.artifactId = former
      ∨ AnnouncedSince js input start s)

/-- The outbox only grows, and what was announced stays so. -/
theorem AnnouncedSince.mono {input : ArtifactPublicationInput} {start : Nat} {s' : State}
    (h : AnnouncedSince js input start s) (hgrows : s.outbox <+: s'.outbox) :
    AnnouncedSince js input start s' := by
  obtain ⟨event, hmem, hnames⟩ := h
  obtain ⟨more, hmore⟩ := hgrows
  refine ⟨event, ?_, hnames⟩
  rw [← hmore, List.drop_append]
  exact List.mem_append_left _ hmem

theorem outbox_prefix_apply (js : JsRuntime) (s : State) (action : Action) : s.outbox <+: (s.apply js action).outbox := by
  cases action with
  | put call input =>
      rcases stored_put js s call input
        with hsame | ⟨-, -, houtbox, -⟩
      · exact hsame.symm ▸ List.prefix_refl s.outbox
      · exact houtbox.symm ▸ List.prefix_refl s.outbox
  | announce call =>
      rw [State.apply]
      split
      · exact List.prefix_refl _
      · rename_i input _
        dsimp only
        split
        · rcases eventOutboxCommand_cases (input.event js) s.outbox with hsame | hmore
          · exact hsame.symm ▸ List.prefix_refl s.outbox
          · exact hmore.symm ▸ List.prefix_append ..
        · exact List.prefix_refl _
  | abort call => exact List.prefix_refl _

/-- **ONE STEP**: a call that has changed what is stored is followed until it has
    announced it. -/
theorem following_step {call : String} {input : ArtifactPublicationInput} {start : Nat}
    {former : Option Content} (hinv : Announcing js s) (horderly : Orderly js s action)
    (hchange : former ≠ some (input.artifact js).content)
    (h : Following js call input start former s) :
    Following js call input start former (s.apply js action) := by
  have hgrows := outbox_prefix_apply js s action
  refine ⟨h.1.trans hgrows.length_le, ?_⟩
  rcases h.2 with ⟨hcall, hconsumed⟩ | hannounced
  · cases action with
    | put call' input' =>
        rcases stored_put js s call' input'
          with hsame | ⟨hfree, hcalls, houtbox, -⟩
        · rw [hsame]
          exact .inl ⟨hcall, hconsumed⟩
        · have hne : call ≠ call' := by
            rintro rfl
            rw [hcall] at hfree
            cases hfree
          refine .inl ⟨?_, ?_⟩
          · rw [hcalls, Function.update_of_ne hne]
            exact hcall
          · rw [State.consumed, houtbox]
            exact hconsumed
    | announce call' =>
        cases hcall' : s.calls call' with
        | none =>
            rw [apply_announce_none hcall']
            exact .inl ⟨hcall, hconsumed⟩
        | some input' =>
            rw [apply_announce hcall' (hinv.underWay call' input' hcall').2]
            by_cases hcalls : call' = call
            · -- the call itself announces, and its content is new
              rw [hcalls, hcall] at hcall'
              obtain rfl := Option.some.inj hcall'
              rw [hcalls] at horderly
              rcases horderly input hcall with hknown | hfresh
              · exact absurd (hconsumed.symm.trans hknown) hchange
              · refine .inr ⟨input.event js, ?_, rfl, rfl⟩
                show _ ∈ (eventOutboxCommand (input.event js) s.outbox).drop start
                rw [eventOutboxCommand_fresh hfresh, List.drop_append_of_le_length h.1]
                exact List.mem_append_right _ (List.mem_singleton_self _)
            · -- another call announces another artifact
              have hid : input.artifactId ≠ input'.artifactId := fun heq =>
                hcalls (hinv.solo call' call input' input hcall' hcall heq.symm)
              refine .inl ⟨(Function.update_of_ne (Ne.symm hcalls) ..).trans hcall, ?_⟩
              show (eventOutboxCommand (input'.event js) s.outbox).foldl consume _ _ = former
              rcases eventOutboxCommand_cases (input'.event js) s.outbox with hsame | hmore
              · rw [hsame]
                exact hconsumed
              · rw [hmore, foldl_consume_concat]
                exact (Function.update_of_ne hid ..).trans hconsumed
    | abort call' =>
        by_cases hcalls : call = call'
        · rw [hcalls] at hcall
          exact absurd (hconsumed.symm.trans (horderly input hcall)) hchange
        · exact .inl ⟨(Function.update_of_ne hcalls ..).trans hcall, hconsumed⟩
  · exact .inr (hannounced.mono hgrows)

/-- **VERSIONS**: an orderly step takes no version back. -/
theorem version_step (horderly : Orderly js s action) {artifactId : String} {content : Content}
    (h : s.stored artifactId = some content) :
    ∃ content', (s.apply js action).stored artifactId = some content'
      ∧ content.version ≤ content'.version := by
  have hkeep : ∃ content', s.stored artifactId = some content'
      ∧ content.version ≤ content'.version := ⟨content, h, le_rfl⟩
  cases action with
  | put call input =>
      rcases stored_put js s call input
        with hsame | ⟨-, -, -, hstored⟩
      · rw [hsame]
        exact hkeep
      · rw [hstored]
        by_cases hid : artifactId = input.artifactId
        · subst hid
          exact ⟨_, Function.update_self .., horderly.2.1 content h⟩
        · rw [Function.update_of_ne hid]
          exact hkeep
  | announce call =>
      rw [State.apply]
      split
      · exact hkeep
      · dsimp only
        split
        · exact hkeep
        · exact hkeep
  | abort call => exact hkeep

/-- **CONVERGENCE**: in every run of orderly steps, from a state without calls in
    which a consumer has what is stored, no version goes down; under every id for
    which no call is under way a consumer of the outbox has what is stored; and a
    call that changes what is stored is under way until an event enqueued after the
    change names the new body. -/
theorem publications_converge {actions before : List Action} {action : Action}
    (hquiet : ∀ call, s.calls call = none) (hconsumed : s.consumed = s.stored)
    (hmeets : (machine js).EachMeets (Orderly js) s actions)
    (hstep : before ++ [action] <+: actions) :
    let t := (machine js).applyAll s before
    (∀ artifactId content, t.stored artifactId = some content →
        ∃ content', (t.apply js action).stored artifactId = some content'
          ∧ content.version ≤ content'.version)
      ∧ (∀ artifactId,
          (∀ call input, t.calls call = some input → input.artifactId ≠ artifactId) →
          t.consumed artifactId = t.stored artifactId)
      ∧ (∀ earlier call input, earlier ++ [.put call input] <+: before →
          let u := (machine js).applyAll s earlier
          (u.apply js (.put call input)).stored input.artifactId ≠ u.stored input.artifactId →
          t.calls call = some input ∨ AnnouncedSince js input u.outbox.length t) := by
  intro t
  have hbefore : before <+: actions := (List.prefix_append ..).trans hstep
  have hinv : ∀ earlier, earlier <+: actions →
      Announcing js ((machine js).applyAll s earlier) := fun earlier hearlier =>
    (machine js).prefix_invariant (fun _ _ hinv horderly => announcing_step hinv horderly)
      (announcing_of_quiet hquiet hconsumed) hmeets earlier hearlier
  refine ⟨fun artifactId content h => version_step (hmeets.next hstep) h,
    (hinv before hbefore).announced, ?_⟩
  intro earlier call input hput u hchange
  have horderly : Orderly js u (.put call input) := hmeets.next (hput.trans hbefore)
  have hquietId : u.consumed input.artifactId = u.stored input.artifactId :=
    (hinv earlier ((List.prefix_append ..).trans (hput.trans hbefore))).announced _ horderly.1
  rcases stored_put js u call input
    with hsame | ⟨-, hcalls, houtbox, hstored⟩
  · rw [hsame] at hchange
    exact absurd rfl hchange
  · rw [hstored, Function.update_self] at hchange
    have hafter : (machine js).applyAll s (earlier ++ [.put call input])
        = u.apply js (.put call input) := (machine js).applyAll_append ..
    -- the state right after the change, and what every later step keeps of it
    have hstart : Following js call input u.outbox.length (u.stored input.artifactId)
        ((machine js).applyAll s (earlier ++ [.put call input])) := by
      rw [hafter]
      refine ⟨houtbox ▸ le_rfl, .inl ⟨?_, ?_⟩⟩
      · rw [hcalls, Function.update_self]
      · rw [State.consumed, houtbox]
        exact hquietId
    have hfollow := (machine js).segment_invariant
      (I := fun s => Announcing js s
        ∧ Following js call input u.outbox.length (u.stored input.artifactId) s)
      (fun _ _ h horderly => ⟨announcing_step h.1 horderly,
        following_step h.1 horderly hchange.symm h.2⟩)
      hmeets hbefore hput ⟨hinv _ (hput.trans hbefore), hstart⟩
    rcases hfollow.2.2 with ⟨hcall, -⟩ | hannounced
    · exact .inl hcall
    · exact .inr hannounced

/-! ## Content that comes back -/

/-- A root manifest, as far as publication reads it. -/
def manifest (name : String) : JsonValue :=
  .obj [("artifact_type", .str "root_manifest"), ("name", .str name),
    ("root_program_id", .str "root:demo")]

/-- The digests of two manifests, and of what identifies their events. -/
def manifestHash (document : JsonValue) : String :=
  match document.stringField "name", document.numberField "version" with
  | some "Demo root", _ =>
      "a2dff0a5054a0ef02006343ab4536fac36fa872c082e767ab542d255a732e648"
  | some _, _ =>
      "86b792a9bd9537cb18c2c47871de6a703912dce60e64a6e00cc47bc87b47fbb8"
  | none, some 1 =>
      "e09af423c9fd29ee71bc7f4b5d5033b3b9a13799451aadf150610d39a901e490"
  | none, _ =>
      "359805b3eb70d727abf5ae1fed3d8a5e2cc52e7ff90573d5b44ff7659fab98b2"

/-- A host with these digests. -/
def manifestHost : JsRuntime where
  parseUrl _ := none
  toLowerCase := id
  toISOString := some
  hashJson := manifestHash

/-- A version of the manifest. -/
def publishes (name : String) (version : Rat) : ArtifactPublicationInput where
  artifactType := "root_manifest"
  artifactId := "root_manifest_demo"
  version := version
  rootProgramId := "root:demo"
  body := manifest name
  occurredAt := 0
  eventType := "root.manifest.published"

/-- No artifacts, no events, and no calls. -/
def nothingPublished : State := ⟨OrderedMap.empty, [], fun _ => none⟩

/-- The manifest, and then its second version. -/
def twoVersions : List Action :=
  [.put "call_1" (publishes "Demo root" 1), .announce "call_1",
    .put "call_2" (publishes "Demo trust root" 2), .announce "call_2"]

/-- The first version again. -/
def firstAgain : List Action := [.put "call_3" (publishes "Demo root" 1), .announce "call_3"]

/-- The first version: what it stored is what a consumer has. -/
theorem publications_converge_manifest :
    let t := (machine manifestHost).applyAll nothingPublished (twoVersions.take 2)
    t.consumed "root_manifest_demo" = t.stored "root_manifest_demo" := by
  intro t
  have hcalls : t.calls = fun _ => none := by
    have hended : t.calls = Function.update (Function.update (fun _ => none) "call_1"
        (some (publishes "Demo root" 1))) "call_1" none := by rfl
    rw [hended, Function.update_idem, Function.update_eq_self_iff]
  have hmeets : (machine manifestHost).EachMeets (Orderly manifestHost) nothingPublished
      (twoVersions.take 2 ++ [.abort "call_2"]) := by
    refine ⟨⟨fun call other h => ?_, fun content h => ?_, by decide +kernel⟩,
      fun input _ => .inr fun event hmem => absurd hmem List.not_mem_nil, fun input h => ?_, trivial⟩
    · cases h
    · cases h
    · have hnone : t.calls "call_2" = some input := h
      rw [hcalls] at hnone
      cases hnone
  have hconverge := publications_converge (fun _ => rfl) rfl hmeets (List.prefix_refl _)
  refine hconverge.2.1 "root_manifest_demo" fun call input h => ?_
  have hnone : t.calls call = some input := h
  rw [hcalls] at hnone
  cases hnone

/-- The first version after the second: it is stored, under a lower version, and
    the outbox drops its event, so that a consumer stays with the second. -/
theorem reverted_body_unannounced :
    let t := (machine manifestHost).applyAll nothingPublished twoVersions
    let t' := (machine manifestHost).applyAll t firstAgain
    t.stored "root_manifest_demo"
        = some ((publishes "Demo trust root" 2).artifact manifestHost).content
      ∧ t'.stored "root_manifest_demo"
        = some ((publishes "Demo root" 1).artifact manifestHost).content
      ∧ (t'.calls "call_3").isNone = true
      ∧ t'.outbox.length = t.outbox.length
      ∧ t'.consumed "root_manifest_demo"
        = some ((publishes "Demo trust root" 2).artifact manifestHost).content := by
  decide +kernel

end ArtifactPublication
