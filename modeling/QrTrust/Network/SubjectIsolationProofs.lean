import QrTrust.Network.NatsPropagationProofs
import QrTrust.Network.SubjectInclusionProofs

/-! # When two roots are kept apart

    The token of a root in a subject is made of the words of its id, joined by
    dashes (`normalizeSubjectToken_eq`), so it forgets what stands between them.
    A subscriber of one root receives nothing of another one exactly when their
    ids consist of different words (`subjects_isolated_iff`). -/

namespace NatsSubjects

open NatsPropagation SubjectPattern Separated

/-! ## The words of an id -/

/-- The pieces of a text between the characters that no token has. -/
def pieces (cs : List Char) : List (List Char) := cs.splitOnP fun c => !isTokenChar c

/-- The words of a text: its pieces that are not empty. -/
def labelWords (cs : List Char) : List (List Char) := (pieces cs).filter fun piece => !piece.isEmpty

/-- The words of a root program's id, in lower case. -/
def rootWords (js : JsRuntime) (rootProgramId : String) : List (List Char) :=
  labelWords (js.toLowerCase (JsString.trim rootProgramId)).toList

theorem isTokenChar_of_mem_pieces {cs piece : List Char} {c : Char} (hpiece : piece ∈ pieces cs)
    (hc : c ∈ piece) : isTokenChar c = true := by
  simpa using (of_mem_splitOnP hpiece hc).2

theorem of_mem_labelWords {cs word : List Char} (h : word ∈ labelWords cs) :
    word ≠ [] ∧ ∀ c ∈ word, isTokenChar c = true := by
  obtain ⟨hpiece, hne⟩ := List.mem_filter.mp h
  exact ⟨by simpa using hne, fun c hc => isTokenChar_of_mem_pieces hpiece hc⟩

theorem dash_not_mem {word : List Char} (h : ∀ c ∈ word, isTokenChar c = true) : '-' ∉ word := by
  intro hmem
  exact absurd (h '-' hmem) (by decide)

/-- The dash for a last piece that is empty. -/
def trailing (ps : List (List Char)) : List Char := if ps.getLast? = some [] then ['-'] else []

/-- What `dashRuns` makes of the pieces after the first one. -/
def dashed (ps : List (List Char)) : List Char :=
  (ps.filter fun piece => !piece.isEmpty).flatMap (fun piece => '-' :: piece) ++ trailing ps

theorem dashed_nil_cons (ps : List (List Char)) :
    dashed ([] :: ps) = if ps = [] then ['-'] else dashed ps := by
  cases ps with
  | nil => rfl
  | cons p ps =>
      rw [if_neg (List.cons_ne_nil _ _), dashed, dashed, trailing, trailing, List.getLast?_cons_cons]
      rfl

theorem dashed_cons {p : List Char} (ps : List (List Char)) (hp : p ≠ []) :
    dashed (p :: ps) = '-' :: (p ++ dashed ps) := by
  have hkeep : (!p.isEmpty) = true := by simpa using hp
  have hlast : (p :: ps).getLast? = some [] ↔ ps.getLast? = some [] := by
    cases ps with
    | nil => simp [hp]
    | cons q ps => rw [List.getLast?_cons_cons]
  have htrailing : trailing (p :: ps) = trailing ps := by
    rw [trailing, trailing]
    exact if_congr hlast rfl rfl
  rw [dashed, dashed, List.filter_cons, if_pos hkeep, htrailing]
  simp

/-- What comes after the first piece begins with a dash. -/
theorem dashed_eq_nil_or (ps : List (List Char)) :
    ps = [] ∧ dashed ps = [] ∨ ps ≠ [] ∧ ∃ rest, dashed ps = '-' :: rest := by
  induction ps with
  | nil => exact .inl ⟨rfl, rfl⟩
  | cons p ps ih =>
      refine .inr ⟨List.cons_ne_nil _ _, ?_⟩
      by_cases hp : p = []
      · rw [hp, dashed_nil_cons]
        rcases ih with ⟨rfl, -⟩ | ⟨hne, hrest⟩
        · exact ⟨[], rfl⟩
        · rwa [if_neg hne]
      · exact ⟨_, dashed_cons ps hp⟩

/-- The runs of other characters become dashes: the first piece, and what comes
    after it. -/
theorem dashRuns_eq {cs p : List Char} {ps : List (List Char)} (h : pieces cs = p :: ps) :
    dashRuns cs = p ++ dashed ps := by
  induction cs generalizing p ps with
  | nil =>
      rw [pieces, List.splitOnP_nil] at h
      obtain ⟨rfl, rfl⟩ := List.cons.inj h
      rfl
  | cons c cs ih =>
      obtain ⟨q, qs, hq⟩ := List.exists_cons_of_ne_nil (List.splitOnP_ne_nil (fun c => !isTokenChar c) cs)
      have hruns := ih hq
      rw [pieces, List.splitOnP_cons_eq_if_modifyHead, hq, List.modifyHead_cons] at h
      by_cases hc : isTokenChar c = true
      · rw [if_neg (by simp [hc])] at h
        obtain ⟨rfl, rfl⟩ := List.cons.inj h
        rw [dashRuns, if_pos hc, hruns]
        rfl
      · rw [if_pos (by simp [hc])] at h
        obtain ⟨rfl, rfl⟩ := List.cons.inj h
        rw [dashRuns, if_neg hc, hruns, List.nil_append]
        by_cases hempty : q = []
        · -- the dash of this character is the one that comes next, if any
          rw [hempty, List.nil_append, dashed_nil_cons]
          rcases dashed_eq_nil_or qs with ⟨rfl, hnil⟩ | ⟨hne, rest, hrest⟩
          · rfl
          · rw [if_neg hne, hrest]
            rfl
        · rw [dashed_cons qs hempty]
          obtain ⟨d, q, rfl⟩ := List.exists_cons_of_ne_nil hempty
          have hd : isTokenChar d = true :=
            isTokenChar_of_mem_pieces (hq ▸ List.mem_cons_self ..) (List.mem_cons_self ..)
          split
          · rename_i heq
            obtain ⟨rfl, -⟩ := List.cons.inj heq
            exact absurd hd (by decide)
          · rfl

/-! ## Stripping -/

theorem flatMap_dash {words : List (List Char)} (h : words ≠ []) :
    words.flatMap (fun word => '-' :: word) = '-' :: joined '-' words := by
  induction words with
  | nil => exact absurd rfl h
  | cons word words ih =>
      by_cases hne : words = []
      · simp [hne]
      · rw [List.flatMap_cons, ih hne, joined_cons word hne, List.cons_append]

/-- Of words and a dash after them, the words are left. -/
theorem stripDashes_of_front {words ps : List (List Char)} {cs : List Char} (hne : words ≠ [])
    (h : ∀ word ∈ words, word ≠ [] ∧ '-' ∉ word)
    (hfront : (if cs.head? = some '-' then cs.tail else cs) = joined '-' words ++ trailing ps) :
    stripDashes cs = joined '-' words := by
  have hstrip : stripDashes cs
      = if (joined '-' words ++ trailing ps).getLast? = some '-' then
          (joined '-' words ++ trailing ps).dropLast
        else joined '-' words ++ trailing ps := by
    rw [← hfront]
    rfl
  rw [hstrip, trailing]
  split
  · simp
  · rw [List.append_nil, if_neg]
    obtain ⟨front, last, rfl⟩ := (List.eq_nil_or_concat words).resolve_left hne
    rw [List.concat_eq_append] at h ⊢
    obtain ⟨hlast, hdash⟩ := h last (List.mem_append_right _ (List.mem_singleton_self _))
    rw [getLast?_joined hlast]
    intro heq
    exact hdash (List.mem_of_getLast? heq)

/-- **TOKEN**: what is left of a text is its words, joined by dashes. -/
theorem stripDashes_dashRuns (cs : List Char) :
    stripDashes (dashRuns cs) = joined '-' (labelWords cs) := by
  obtain ⟨p, ps, hpieces⟩ := List.exists_cons_of_ne_nil (List.splitOnP_ne_nil (fun c => !isTokenChar c) cs)
  have hwords : ∀ word ∈ labelWords cs, word ≠ [] ∧ '-' ∉ word := fun word hword =>
    ⟨(of_mem_labelWords hword).1, dash_not_mem (of_mem_labelWords hword).2⟩
  rw [labelWords, pieces, hpieces] at hwords ⊢
  rw [dashRuns_eq hpieces]
  by_cases hp : p = []
  · have hrest : ([] :: ps).filter (fun piece => !piece.isEmpty)
        = ps.filter fun piece => !piece.isEmpty := rfl
    rw [hp, hrest] at hwords
    rw [hp, hrest, List.nil_append, dashed]
    by_cases hnone : (ps.filter fun piece => !piece.isEmpty) = []
    · rw [hnone, trailing]
      split
      · rfl
      · rfl
    · refine @stripDashes_of_front _ ps _ hnone hwords ?_
      rw [flatMap_dash hnone, List.cons_append, List.head?_cons, if_pos rfl, List.tail_cons]
  · have hrest : (p :: ps).filter (fun piece => !piece.isEmpty)
        = p :: ps.filter fun piece => !piece.isEmpty := by
      rw [List.filter_cons, if_pos (by simpa using hp)]
    rw [hrest] at hwords ⊢
    have hfront : p ++ dashed ps
        = joined '-' (p :: ps.filter fun piece => !piece.isEmpty) ++ trailing ps := by
      rw [dashed]
      by_cases hnone : (ps.filter fun piece => !piece.isEmpty) = []
      · rw [hnone, joined_singleton]
        rfl
      · rw [flatMap_dash hnone, joined_cons p hnone, List.append_assoc]
    refine @stripDashes_of_front _ ps _ (List.cons_ne_nil _ _) hwords ?_
    rw [if_neg, hfront]
    rw [List.head?_append_of_ne_nil _ hp]
    intro heq
    exact (hwords p (List.mem_cons_self ..)).2 (List.mem_of_head? heq)

/-! ## Isolation -/

section Isolation

variable {js : JsRuntime} {rootProgramId other : String}

theorem normalizeSubjectToken_eq :
    (normalizeSubjectToken js rootProgramId).toList = joined '-' (rootWords js rootProgramId) := by
  rw [normalizeSubjectToken, String.toList_ofList, stripDashes_dashRuns]
  rfl

/-- **INJECTIVE ON WORDS**: two ids have one token when they have the same words. -/
theorem normalizeSubjectToken_eq_iff :
    normalizeSubjectToken js rootProgramId = normalizeSubjectToken js other
      ↔ rootWords js rootProgramId = rootWords js other := by
  have hwords : ∀ id : String, ∀ word ∈ rootWords js id, word ≠ [] ∧ '-' ∉ word :=
    fun _ word hword => ⟨(of_mem_labelWords hword).1, dash_not_mem (of_mem_labelWords hword).2⟩
  rw [← String.toList_inj, normalizeSubjectToken_eq, normalizeSubjectToken_eq]
  constructor
  · intro h
    exact joined_injective (hwords _) (hwords _) h
  · intro h
    rw [h]

theorem isLabel_normalizeSubjectToken (hne : normalizeSubjectToken js rootProgramId ≠ "") :
    IsLabel (normalizeSubjectToken js rootProgramId) := by
  have hwords : ∀ word ∈ rootWords js rootProgramId, word ≠ [] ∧ ∀ c ∈ word, isTokenChar c = true :=
    fun _ => of_mem_labelWords
  have htoken := @normalizeSubjectToken_eq js rootProgramId
  refine ⟨hne, fun c hc => ?_, ?_, ?_⟩
  · rw [htoken] at hc
    rcases mem_joined hc with rfl | ⟨word, hword, hc⟩
    · exact .inr rfl
    · exact .inl ((hwords word hword).2 c hc)
  · rw [htoken]
    cases hfirst : rootWords js rootProgramId with
    | nil => simp
    | cons word words =>
        obtain ⟨hword, hchars⟩ := hwords word (hfirst ▸ List.mem_cons_self ..)
        rw [head?_joined hword]
        intro heq
        exact dash_not_mem hchars (List.mem_of_head? heq)
  · rw [htoken]
    rcases List.eq_nil_or_concat (rootWords js rootProgramId) with hnil | ⟨front, last, hlast⟩
    · simp [hnil]
    · rw [List.concat_eq_append] at hlast
      obtain ⟨hword, hchars⟩ := hwords last (by simp [hlast])
      rw [hlast, getLast?_joined hword]
      intro heq
      exact dash_not_mem hchars (List.mem_of_getLast? heq)

/-- A subject that can be given to a subscriber of one root. -/
def IsRootPattern (js : JsRuntime) (rootProgramId pattern : String) : Prop :=
  isQrTrustSubscriberSubject pattern = true
    ∧ rootTokenFromSubject pattern = some (normalizeSubjectToken js rootProgramId)

/-- No message of a root reaches a subscriber of the other one. -/
def Isolated (js : JsRuntime) (rootProgramId other : String) : Prop :=
  ∀ envelope message pattern, envelope.rootProgramId = rootProgramId →
    jetStreamMessageFromEvent js envelope = .succeed message →
      IsRootPattern js other pattern → ¬ Receives pattern message.subject

/-- The tokens of a message begin with those of its root. -/
theorem tokens_of_message {envelope : EventEnvelope} {message : JetStreamPublishMessage}
    (h : jetStreamMessageFromEvent js envelope = .succeed message) :
    ∃ rest, tokens message.subject
      = "qrtrust" :: normalizeSubjectToken js envelope.rootProgramId :: rest := by
  obtain ⟨_, -, root, hroot, -, tail, -, rfl⟩ := jetStreamMessageFromEvent_iff.mp h
  obtain ⟨hne, rfl⟩ := subjectRootFromEnvelope_iff.mp hroot
  have hdot := dot_not_mem_of_free (.inr (isLabel_normalizeSubjectToken hne))
  refine ⟨_, Eq.trans (congrArg tokens (String.toList_inj.mp ?_))
    (tokens_under (tail.1.toList ++ ".v1".toList) hdot)⟩
  simp [String.toList_append]

theorem root_eq_of_receives {pattern subject root token' : String} {rest : List String}
    (hpattern : rootTokenFromSubject pattern = some root) (hlabel : IsLabel root)
    (hsubject : tokens subject = "qrtrust" :: token' :: rest) (h : Receives pattern subject) :
    root = token' := by
  rw [rootTokenFromSubject] at hpattern
  split at hpattern
  · cases hpattern
  rename_i hshape
  rcases htokens : tokens pattern with _ | ⟨first, _ | ⟨second, words⟩⟩
  · simp [htokens] at hpattern
  · simp [htokens] at hpattern
  · rw [htokens] at hshape hpattern
    obtain rfl : second = root := Option.some.inj hpattern
    obtain rfl : first = "qrtrust" := by
      by_contra hfirst
      exact hshape (.inl fun heq => hfirst (Option.some.inj heq))
    obtain ⟨said, hsaid, hmatches⟩ := (receives_iff htokens).mp h
    obtain rfl := (List.cons.inj (hsubject.symm.trans hsaid)).2
    rw [token_of_word hlabel.not_wildcard.1 hlabel.not_wildcard.2, matches_word_cons] at hmatches
    exact hmatches.1.symm

/-- The token of a root that shares it with another one. -/
theorem shared_token (hjs : LowerCaseKeepsRoots js) (hroot : isRootProgramId rootProgramId = true)
    (hother : isRootProgramId other = true) (hne : rootProgramId ≠ other)
    (h : normalizeSubjectToken js rootProgramId = normalizeSubjectToken js other) :
    normalizeSubjectToken js rootProgramId ≠ ""
      ∧ normalizeSubjectToken js rootProgramId ≠ controlPlaneSubjectRoot := by
  have hhead : (normalizeSubjectToken js rootProgramId).toList.head? = some 'r' := by
    rw [isRootProgramId, Bool.or_eq_true, decide_eq_true_iff] at hroot hother
    rcases hroot with hroot | hroot
    · exact head_normalizeSubjectToken hjs hroot
    · rcases hother with hother | hother
      · rw [h]
        exact head_normalizeSubjectToken hjs hother
      · exact absurd (hroot.trans hother.symm) hne
  constructor
  · intro hempty
    rw [hempty] at hhead
    cases hhead
  · intro hplane
    rw [hplane] at hhead
    exact absurd hhead (by decide)

/-- The publication of a root manifest. -/
def rootEvent (rootProgramId : String) : EventEnvelope where
  eventId := "event:root"
  type := "root.manifest.published"
  occurredAt := "2026-01-01T00:00:00.000Z"
  rootProgramId := rootProgramId
  delegatedAuthorityId := none
  issuerId := none
  destinationPolicyId := none
  artifactId := "art:root"
  artifactHash := "sha256:root"
  artifactRef := none
  version := 1
  previousVersion := none
  reason := none

theorem exists_root_message (htoken : normalizeSubjectToken js rootProgramId ≠ "")
    (hplane : normalizeSubjectToken js rootProgramId ≠ controlPlaneSubjectRoot) :
    ∃ message, jetStreamMessageFromEvent js (rootEvent rootProgramId) = .succeed message
      ∧ tokens message.subject
        = ["qrtrust", normalizeSubjectToken js rootProgramId, "root", "manifest", "published",
          "v1"] := by
  have hdot := dot_not_mem_of_free (.inr (isLabel_normalizeSubjectToken htoken))
  have htail : subjectTailFromEventType "root.manifest.published"
      = .succeed (.text "root.manifest.published") := by
    simp [subjectTailFromEventType, eventTypeToSubjectTail]
  have hstream : streamForSubjectTail (.text "root.manifest.published")
      = .succeed ("root.manifest.published", .governance) := rfl
  have htype : "root.manifest.published" ∉ controlPlaneEventTypes := by decide
  refine ⟨_, jetStreamMessageFromEvent_iff.mpr ⟨_, htail, _,
    subjectRootFromEnvelope_iff.mpr ⟨htoken, rfl⟩,
    enforceControlPlaneBoundary_iff.mpr (iff_of_false hplane htype), _, hstream, rfl⟩, ?_⟩
  have hrest : tokens (String.ofList ("root.manifest.published" ++ ".v1").toList)
      = ["root", "manifest", "published", "v1"] := rfl
  rw [← hrest, ← tokens_under _ hdot]
  refine congrArg tokens (String.toList_inj.mp ?_)
  simp [String.toList_append, rootEvent]

/-- A subscriber of a root may ask for a family of it. -/
theorem exists_root_pattern {subject : String} {rest : List String}
    (htoken : normalizeSubjectToken js rootProgramId ≠ "")
    (hplane : normalizeSubjectToken js rootProgramId ≠ controlPlaneSubjectRoot)
    (hsubject : tokens subject
      = "qrtrust" :: normalizeSubjectToken js rootProgramId :: "root" :: "manifest" :: rest) :
    ∃ pattern, isQrTrustSubscriberSubject pattern = true
      ∧ rootTokenFromSubject pattern = some (normalizeSubjectToken js rootProgramId)
      ∧ Receives pattern subject := by
  have hlabel := isLabel_normalizeSubjectToken htoken
  have hfamily : "root" ∈ natsSubjectFamilies := by decide
  have htokens := tokens_event (.inr hlabel) hfamily free_of_rest
  refine ⟨_, accepted_iff.mpr (.family (.inr hlabel) hplane hfamily), ?_, ?_⟩
  · rw [rootTokenFromSubject, htokens, if_neg (by simp [htoken])]
    rfl
  · have hroot : token "root" = .word "root" := token_of_word (by decide) (by decide)
    have hrest : token ">" = .rest := token_eq_rest.mpr rfl
    rw [receives_iff htokens]
    refine ⟨_, hsubject, ?_⟩
    rw [token_of_word hlabel.not_wildcard.1 hlabel.not_wildcard.2, List.map_cons, List.map_cons,
      List.map_nil, hroot, hrest, matches_word_cons, matches_word_cons, matches_rest]
    exact ⟨rfl, rfl, rfl, List.cons_ne_nil _ _⟩

/-- Two roots with one token are not kept apart. -/
theorem not_isolated_of_shared (htoken : normalizeSubjectToken js rootProgramId ≠ "")
    (hplane : normalizeSubjectToken js rootProgramId ≠ controlPlaneSubjectRoot)
    (hshared : normalizeSubjectToken js rootProgramId = normalizeSubjectToken js other) :
    ¬ Isolated js rootProgramId other := by
  intro hisolated
  obtain ⟨message, hmessage, hsubject⟩ := exists_root_message htoken hplane
  obtain ⟨pattern, haccepted, hpattern, hreceives⟩ := exists_root_pattern htoken hplane hsubject
  rw [hshared] at hpattern
  exact hisolated _ message pattern rfl hmessage ⟨haccepted, hpattern⟩ hreceives

/-- **ISOLATED**: the messages of a root stay apart from the subscribers of another
    one exactly when the ids of the two consist of different words. -/
theorem subjects_isolated_iff (hjs : LowerCaseKeepsRoots js) (hroot : isRootProgramId rootProgramId = true)
    (hother : isRootProgramId other = true) (hne : rootProgramId ≠ other) :
    Isolated js rootProgramId other ↔ rootWords js rootProgramId ≠ rootWords js other := by
  rw [ne_eq, ← normalizeSubjectToken_eq_iff]
  constructor
  · intro hisolated hshared
    obtain ⟨htoken, hplane⟩ := shared_token hjs hroot hother hne hshared
    exact not_isolated_of_shared htoken hplane hshared hisolated
  · intro hdiffers envelope message pattern hof hmessage hpattern hreceives
    obtain ⟨haccepted, hrootToken⟩ := hpattern
    obtain ⟨rest, hsubject⟩ := tokens_of_message hmessage
    have htoken : normalizeSubjectToken js other ≠ "" := by
      intro hempty
      obtain ⟨root, family, words, htokens, hfree, -⟩ := exists_root_of_accepted haccepted
      rw [rootTokenFromSubject, htokens, hempty] at hrootToken
      split at hrootToken
      · cases hrootToken
      · exact hfree.ne_empty (Option.some.inj hrootToken)
    have hsame := root_eq_of_receives hrootToken (isLabel_normalizeSubjectToken htoken) hsubject
      hreceives
    rw [hof] at hsame
    exact hdiffers hsame.symm

end Isolation

/-! ## Two roots with one token -/

/-- A host that lowers ASCII letters. -/
def subjectRuntime : JsRuntime where
  parseUrl _ := none
  toLowerCase := JsString.asciiLowerCase
  toISOString _ := none
  hashJson _ := "sha256"

theorem lowerCaseKeepsRoots_subjectRuntime : LowerCaseKeepsRoots subjectRuntime where
  root s h := by
    obtain ⟨rest, hs⟩ := startsWith_root_iff.mp h
    refine startsWith_root_iff.mpr ⟨rest.map Char.toLower, ?_⟩
    show (JsString.asciiLowerCase s).toList = _
    rw [JsString.asciiLowerCase, String.toList_ofList, hs]
    rfl
  controlPlane := rfl

theorem subjects_isolated_iff_acme :
    Isolated subjectRuntime "root:acme" "root:acme-eu"
      ↔ rootWords subjectRuntime "root:acme" ≠ rootWords subjectRuntime "root:acme-eu" :=
  subjects_isolated_iff lowerCaseKeepsRoots_subjectRuntime (by decide +kernel) (by decide +kernel) (by decide)

/-- **SHARED**: a subscriber of `root:acme-eu` receives the events of `root:acme:eu`. -/
theorem acme_not_isolated :
    isRootProgramId "root:acme:eu" = true ∧ isRootProgramId "root:acme-eu" = true
      ∧ "root:acme:eu" ≠ "root:acme-eu" ∧ ¬ Isolated subjectRuntime "root:acme:eu" "root:acme-eu" := by
  have hroot : isRootProgramId "root:acme:eu" = true := by decide +kernel
  have hother : isRootProgramId "root:acme-eu" = true := by decide +kernel
  have hshared : normalizeSubjectToken subjectRuntime "root:acme:eu"
      = normalizeSubjectToken subjectRuntime "root:acme-eu" := by decide +kernel
  have htoken : normalizeSubjectToken subjectRuntime "root:acme:eu" ≠ "" := by decide +kernel
  have hplane : normalizeSubjectToken subjectRuntime "root:acme:eu" ≠ controlPlaneSubjectRoot := by
    decide +kernel
  exact ⟨hroot, hother, by decide, not_isolated_of_shared htoken hplane hshared⟩

end NatsSubjects
