import QrTrust.Network.NatsPropagation

/-! # When an event becomes a message

    * `message_iff`: an event becomes a message when the table of subjects has its
      type, and its root is the control plane's exactly for the types of the
      control plane;
    * `die_iff`: it dies of a type that every object inherits, under a root of its
      own. -/

namespace NatsPropagation

/-! ## Messages -/

section Messages

variable {js : JsRuntime} {envelope : EventEnvelope}

/-- The starts of the tails that a stream takes. -/
def subjectTailStarts : List String :=
  ["root.", "authority.", "issuer.", "destination.", "certificate.", "runtime.", "verifier.",
    "scanner."]

/-- A tail with one of the starts has a stream. -/
theorem streamForSubjectTail_ofList {tail : List Char}
    (h : subjectTailStarts.any (·.toList.isPrefixOf tail) = true) :
    ∃ stream, streamForSubjectTail (.text (String.ofList tail))
      = .succeed (String.ofList tail, stream) := by
  simp only [streamForSubjectTail, JsString.startsWith, String.toList_ofList]
  split
  · exact ⟨_, rfl⟩
  split
  · exact ⟨_, rfl⟩
  split
  · exact ⟨_, rfl⟩
  · -- a start that no stream takes is none of the eight
    simp_all [subjectTailStarts]

/-- Every tail of the table has a stream. -/
theorem streamForSubjectTail_table :
    ∀ entry ∈ eventTypeToSubjectTail,
      ∃ stream, streamForSubjectTail (.text entry.2) = .succeed (entry.2, stream) := by
  -- the characters of a literal are read off it, and not decoded
  iterate 22 refine List.forall_mem_cons.mpr ⟨streamForSubjectTail_ofList (by decide), ?_⟩
  exact fun entry hentry => absurd hentry List.not_mem_nil

theorem enforceControlPlaneBoundary_iff {root : String} :
    enforceControlPlaneBoundary envelope root = .succeed ()
      ↔ (root = controlPlaneSubjectRoot ↔ envelope.type ∈ controlPlaneEventTypes) := by
  rw [enforceControlPlaneBoundary]
  by_cases hroot : root = controlPlaneSubjectRoot
  · by_cases htype : envelope.type ∈ controlPlaneEventTypes
    · simp [hroot, htype]
    · simp [hroot, htype]
  · by_cases htype : envelope.type ∈ controlPlaneEventTypes
    · simp [hroot, htype]
    · simp [hroot, htype]

theorem jetStreamMessageFromEvent_iff {message : JetStreamPublishMessage} :
    jetStreamMessageFromEvent js envelope = .succeed message
      ↔ ∃ subjectTail, subjectTailFromEventType envelope.type = .succeed subjectTail
        ∧ ∃ root, subjectRootFromEnvelope js envelope = .succeed root
        ∧ enforceControlPlaneBoundary envelope root = .succeed ()
        ∧ ∃ tail, streamForSubjectTail subjectTail = .succeed tail
        ∧ { subject := "qrtrust." ++ root ++ "." ++ tail.1 ++ ".v1", stream := tail.2
            headers := headersFromEnvelope envelope, payload := envelope } = message := by
  rw [jetStreamMessageFromEvent, Exit.bind_eq_succeed_iff]
  refine exists_congr fun subjectTail => and_congr_right fun _ => ?_
  rw [Exit.bind_eq_succeed_iff]
  refine exists_congr fun root => and_congr_right fun _ => ?_
  rw [Exit.bind_eq_succeed_iff]
  constructor
  · rintro ⟨_, hboundary, h⟩
    obtain ⟨tail, htail, hmessage⟩ := Exit.bind_eq_succeed_iff.mp h
    exact ⟨hboundary, tail, htail, Exit.succeed.inj hmessage⟩
  · rintro ⟨hboundary, tail, htail, hmessage⟩
    exact ⟨(), hboundary, Exit.bind_eq_succeed_iff.mpr
      ⟨tail, htail, congrArg Exit.succeed hmessage⟩⟩

theorem subjectRootFromEnvelope_iff {root : String} :
    subjectRootFromEnvelope js envelope = .succeed root
      ↔ normalizeSubjectToken js envelope.rootProgramId ≠ ""
        ∧ normalizeSubjectToken js envelope.rootProgramId = root := by
  rw [subjectRootFromEnvelope]
  by_cases h : normalizeSubjectToken js envelope.rootProgramId = ""
  · simp [h]
  · simp [h]

/-- **SUBJECT**: a message is under the token of its root program, and has the id
    of its event. -/
theorem subject_of_message {message : JetStreamPublishMessage}
    (h : jetStreamMessageFromEvent js envelope = .succeed message) :
    JsString.startsWith message.subject
        ("qrtrust." ++ normalizeSubjectToken js envelope.rootProgramId ++ ".") = true
      ∧ ("Nats-Msg-Id", envelope.eventId) ∈ message.headers := by
  obtain ⟨_, -, root, hroot, -, tail, -, rfl⟩ := jetStreamMessageFromEvent_iff.mp h
  obtain ⟨-, rfl⟩ := subjectRootFromEnvelope_iff.mp hroot
  refine ⟨?_, List.mem_cons_self⟩
  rw [JsString.startsWith, List.isPrefixOf_iff_prefix]
  simp only [String.toList_append, List.append_assoc]
  exact ⟨tail.1.toList ++ ".v1".toList, by simp⟩

/-- **MESSAGE**: an event becomes a message when the table has its type, and the
    root is the control plane's exactly for the types of the control plane. -/
theorem message_iff :
    (∃ message, jetStreamMessageFromEvent js envelope = .succeed message)
      ↔ envelope.type ∈ eventTypeToSubjectTail.map Prod.fst
        ∧ normalizeSubjectToken js envelope.rootProgramId ≠ ""
        ∧ (normalizeSubjectToken js envelope.rootProgramId = controlPlaneSubjectRoot
            ↔ envelope.type ∈ controlPlaneEventTypes) := by
  constructor
  · rintro ⟨message, h⟩
    obtain ⟨subjectTail, htype, root, hroot, hboundary, tail, htail, -⟩ :=
      jetStreamMessageFromEvent_iff.mp h
    obtain ⟨hne, rfl⟩ := subjectRootFromEnvelope_iff.mp hroot
    refine ⟨?_, hne, enforceControlPlaneBoundary_iff.mp hboundary⟩
    -- the answer for an inherited name has no stream
    rw [subjectTailFromEventType] at htype
    split at htype
    · rename_i entry hentry
      have heq : entry.1 = envelope.type := by simpa using List.find?_some hentry
      exact List.mem_map.mpr ⟨entry, List.mem_of_find?_eq_some hentry, heq⟩
    · split at htype
      · obtain rfl := Exit.succeed.inj htype
        cases htail
      · cases htype
  · rintro ⟨htype, hne, hboundary⟩
    have hfound : (eventTypeToSubjectTail.find? fun entry => entry.1 = envelope.type).isSome
        = true := by
      obtain ⟨entry, hentry, heq⟩ := List.mem_map.mp htype
      exact List.find?_isSome.mpr ⟨entry, hentry, by simpa using heq⟩
    obtain ⟨entry, hentry⟩ := Option.isSome_iff_exists.mp hfound
    obtain ⟨stream, hstream⟩ :=
      streamForSubjectTail_table entry (List.mem_of_find?_eq_some hentry)
    have htail : subjectTailFromEventType envelope.type = .succeed (.text entry.2) := by
      rw [subjectTailFromEventType, hentry]
    exact ⟨_, jetStreamMessageFromEvent_iff.mpr
      ⟨_, htail, _, subjectRootFromEnvelope_iff.mpr ⟨hne, rfl⟩,
        enforceControlPlaneBoundary_iff.mpr hboundary, _, hstream, rfl⟩⟩

theorem subjectTailFromEventType_ne_die (type : String) : subjectTailFromEventType type ≠ .die := by
  intro h
  rw [subjectTailFromEventType] at h
  split at h
  · cases h
  · split at h
    · cases h
    · cases h

theorem subjectTailFromEventType_inherited_iff {type : String} :
    subjectTailFromEventType type = .succeed .inherited ↔ type ∈ inheritedNames := by
  have hdisjoint : ∀ entry ∈ eventTypeToSubjectTail, entry.1 ∉ inheritedNames := by
    simp [eventTypeToSubjectTail, inheritedNames]
  rw [subjectTailFromEventType]
  cases hfind : eventTypeToSubjectTail.find? fun entry => entry.1 = type with
  | some entry =>
      have heq : entry.1 = type := by simpa using List.find?_some hfind
      refine iff_of_false (fun h => by cases h) ?_
      rw [← heq]
      exact hdisjoint entry (List.mem_of_find?_eq_some hfind)
  | none => simp

theorem streamForSubjectTail_die_iff {subjectTail : SubjectTail} :
    streamForSubjectTail subjectTail = .die ↔ subjectTail = .inherited := by
  cases subjectTail with
  | inherited => exact iff_of_true rfl rfl
  | text tail =>
      refine iff_of_false ?_ (fun h => by cases h)
      rw [streamForSubjectTail]
      dsimp only
      split
      · exact fun h => by cases h
      · split
        · exact fun h => by cases h
        · split
          · exact fun h => by cases h
          · exact fun h => by cases h

theorem enforceControlPlaneBoundary_ne_die {root : String} :
    enforceControlPlaneBoundary envelope root ≠ .die := by
  intro h
  rw [enforceControlPlaneBoundary] at h
  split at h
  · cases h
  · split at h
    · cases h
    · cases h

/-- **DEATH**: making a message dies of a type that every object inherits, unless
    the root of the event is refused first. -/
theorem die_iff :
    jetStreamMessageFromEvent js envelope = .die
      ↔ envelope.type ∈ inheritedNames
        ∧ normalizeSubjectToken js envelope.rootProgramId ≠ ""
        ∧ normalizeSubjectToken js envelope.rootProgramId ≠ controlPlaneSubjectRoot := by
  have hnoControl : ∀ type ∈ inheritedNames, type ∉ controlPlaneEventTypes := by
    simp [inheritedNames, controlPlaneEventTypes]
  have hroot : subjectRootFromEnvelope js envelope ≠ .die := by
    intro h
    rw [subjectRootFromEnvelope] at h
    split at h
    · cases h
    · cases h
  rw [jetStreamMessageFromEvent, Exit.bind_eq_die_iff,
    or_iff_right (subjectTailFromEventType_ne_die _)]
  constructor
  · rintro ⟨subjectTail, htype, h⟩
    obtain h | ⟨root, hsucceeds, h⟩ := Exit.bind_eq_die_iff.mp h
    · exact absurd h hroot
    obtain ⟨hne, rfl⟩ := subjectRootFromEnvelope_iff.mp hsucceeds
    obtain h | ⟨_, hboundary, h⟩ := Exit.bind_eq_die_iff.mp h
    · exact absurd h enforceControlPlaneBoundary_ne_die
    obtain h | ⟨_, -, h⟩ := Exit.bind_eq_die_iff.mp h
    · obtain rfl := streamForSubjectTail_die_iff.mp h
      have hinherited := subjectTailFromEventType_inherited_iff.mp htype
      exact ⟨hinherited, hne, fun hplane => hnoControl _ hinherited
        ((enforceControlPlaneBoundary_iff.mp hboundary).mp hplane)⟩
    · cases h
  · rintro ⟨hinherited, hne, hplane⟩
    refine ⟨.inherited, subjectTailFromEventType_inherited_iff.mpr hinherited,
      Exit.bind_eq_die_iff.mpr (.inr ⟨_, subjectRootFromEnvelope_iff.mpr ⟨hne, rfl⟩,
        Exit.bind_eq_die_iff.mpr (.inr ⟨(), enforceControlPlaneBoundary_iff.mpr ?_, rfl⟩)⟩)⟩
    exact iff_of_false hplane (hnoControl _ hinherited)

end Messages

/-! ## Root programs -/

/-- What lower-casing leaves of an id: an ASCII text in lower case stays. -/
structure LowerCaseKeepsRoots (js : JsRuntime) : Prop where
  root : ∀ s, JsString.startsWith s "root:" = true →
    JsString.startsWith (js.toLowerCase s) "root:" = true
  controlPlane : js.toLowerCase "control-plane" = "control-plane"

section Roots

variable {js : JsRuntime} {s : String}

theorem startsWith_root_iff : JsString.startsWith s "root:" = true
    ↔ ∃ rest, s.toList = 'r' :: 'o' :: 'o' :: 't' :: ':' :: rest := by
  rw [JsString.startsWith, List.isPrefixOf_iff_prefix]
  constructor
  · rintro ⟨rest, h⟩
    exact ⟨rest, h.symm⟩
  · rintro ⟨rest, h⟩
    exact ⟨rest, h.symm⟩

/-- Trimming keeps a front without white space. -/
theorem startsWith_root_trim (h : JsString.startsWith s "root:" = true) :
    JsString.startsWith (JsString.trim s) "root:" = true := by
  obtain ⟨rest, hs⟩ := startsWith_root_iff.mp h
  have hfront : s.toList.dropWhile JsString.isSpace = "root:".toList ++ rest := by
    rw [hs]
    rfl
  rw [JsString.trim, hfront, startsWith_root_iff, String.toList_ofList, List.reverse_append,
    List.dropWhile_append]
  split
  · exact ⟨[], rfl⟩
  · exact ⟨(rest.reverse.dropWhile JsString.isSpace).reverse, by
      rw [List.reverse_append, List.reverse_reverse]
      rfl⟩

/-- The token of a root program begins as the program's id does. -/
theorem head_normalizeSubjectToken (hjs : LowerCaseKeepsRoots js)
    (h : JsString.startsWith s "root:" = true) :
    (normalizeSubjectToken js s).toList.head? = some 'r' := by
  obtain ⟨rest, hs⟩ := startsWith_root_iff.mp (hjs.root _ (startsWith_root_trim h))
  rw [normalizeSubjectToken, String.toList_ofList, hs]
  have hdash (cs : List Char) : (stripDashes ('r' :: 'o' :: cs)).head? = some 'r' := by
    rw [stripDashes]
    show (if ('r' :: 'o' :: cs).getLast? = some '-' then ('r' :: 'o' :: cs).dropLast
      else 'r' :: 'o' :: cs).head? = some 'r'
    split
    · rfl
    · rfl
  exact hdash _

theorem normalizeSubjectToken_controlPlane (hjs : LowerCaseKeepsRoots js) :
    normalizeSubjectToken js "control-plane" = controlPlaneSubjectRoot := by
  have htrim : JsString.trim "control-plane" = "control-plane" := rfl
  rw [normalizeSubjectToken, htrim, hjs.controlPlane]
  decide +kernel

end Roots

end NatsPropagation
