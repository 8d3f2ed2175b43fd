import QrTrust.Lib.SubjectPattern
import QrTrust.Network.NatsSubjectsProofs
import QrTrust.Network.PublicationGateProofs

/-! # What an authorized subject receives

    A subject of a subscription is a pattern: `*` stands for one token, `>` for
    all tokens that are left.  The token comparison of `natsSubjectMatches` is the
    covering of patterns (`tokensMatch_eq_covers`), so on the subjects that can be
    given to a subscriber it is inclusion of what they receive, and a materializer
    receives exactly the authorized messages of its templates
    (`authorization_exact`). -/

namespace NatsSubjects

open NatsPropagation SubjectPattern

/-! ## Subjects as patterns -/

/-- What a token of a subscription stands for. -/
def token (word : String) : Token String :=
  if word = "*" then .any else if word = ">" then .rest else .word word

/-- Does a subscription to `pattern` receive what is published under `subject`? -/
@[irreducible] def Receives (pattern subject : String) : Prop :=
  Matches ((tokens pattern).map token) (tokens subject)

theorem token_of_word {word : String} (hstar : word ≠ "*") (hrest : word ≠ ">") :
    token word = .word word := by
  rw [token, if_neg hstar, if_neg hrest]

theorem token_eq_rest {word : String} : token word = .rest ↔ word = ">" := by
  rw [token]
  split
  · rename_i h
    simp [h]
  · split
    · rename_i h
      simp [h]
    · rename_i h
      simp [h]

theorem token_eq_word {word other : String} (hstar : other ≠ "*") (hrest : other ≠ ">") :
    token word = .word other ↔ other = word := by
  rw [token]
  split
  · rename_i h
    simp [h, hstar]
  · split
    · rename_i h
      simp [h, hrest]
    · simp [eq_comm]

theorem tokensMatch_rest (allowed subject : List String) :
    tokensMatch (">" :: allowed) subject = (allowed.isEmpty && !subject.isEmpty) := by
  cases allowed <;> cases subject <;> simp [tokensMatch]

theorem tokensMatch_cons_nil {word : String} (allowed : List String) (hrest : word ≠ ">") :
    tokensMatch (word :: allowed) [] = false := by
  simp [tokensMatch, hrest]

theorem tokensMatch_cons_cons {word : String} (allowed : List String) (other : String)
    (subject : List String) (hrest : word ≠ ">") :
    tokensMatch (word :: allowed) (other :: subject)
      = (decide (word = "*" ∨ word = other) && tokensMatch allowed subject) := by
  by_cases hstar : word = "*"
  · simp [tokensMatch, hstar]
  · by_cases hsame : word = other
    · subst hsame
      simp [tokensMatch, hrest, hstar]
    · simp [tokensMatch, hrest, hstar, hsame]

/-- **COVERING**: the loop over the tokens lays one pattern over the other. -/
theorem tokensMatch_eq_covers (allowed subject : List String) :
    tokensMatch allowed subject = covers (allowed.map token) (subject.map token) := by
  induction allowed generalizing subject with
  | nil => cases subject <;> simp [tokensMatch, covers]
  | cons word allowed ih =>
      rw [List.map_cons]
      by_cases hrest : word = ">"
      · rw [hrest, tokensMatch_rest, show token ">" = .rest from rfl, covers]
        simp
      · cases subject with
        | nil =>
            rw [tokensMatch_cons_nil allowed hrest]
            by_cases hstar : word = "*"
            · rw [hstar]
              rfl
            · rw [token_of_word hstar hrest]
              rfl
        | cons other subject =>
            rw [tokensMatch_cons_cons allowed other subject hrest, ih, List.map_cons]
            by_cases hstar : word = "*"
            · rw [hstar, show token "*" = .any from rfl, covers]
              simp
            · rw [token_of_word hstar hrest, covers]
              simp [hstar, token_eq_word hstar hrest]

theorem rest_mem_iff {words : List String} : Token.rest ∈ words.map token ↔ ">" ∈ words := by
  rw [List.mem_map]
  constructor
  · rintro ⟨word, hword, hrest⟩
    exact token_eq_rest.mp hrest ▸ hword
  · intro h
    exact ⟨">", h, rfl⟩

/-! ## Inclusion -/

/-- The wildcard for all tokens that are left is the last of four tokens; without
    it there are five or more. -/
theorem rest_mem_or {subject : String} (h : Documented subject) :
    (">" ∈ tokens subject ∧ (tokens subject).length = 4)
      ∨ (">" ∉ tokens subject ∧ 5 ≤ (tokens subject).length) := by
  cases h with
  | controlPlane hsubject =>
      rcases List.mem_cons.mp hsubject with rfl | hsubject
      · rw [tokens_runtimeProvider]
        exact .inr ⟨by decide, by decide⟩
      · rw [List.mem_singleton.mp hsubject, tokens_authorizationChanged]
        exact .inr ⟨by decide, by decide⟩
  | family hroot _ hfamily =>
      rw [tokens_event hroot hfamily free_of_rest]
      exact .inl ⟨by simp, rfl⟩
  | @event root family more hroot _ hfamily hmore hfree =>
      have hfamilies : ∀ family ∈ natsSubjectFamilies, family ≠ ">" := by decide
      have hlength := List.length_pos_of_ne_nil hmore
      rw [tokens_event hroot hfamily (free_of_versioned hfree)]
      refine .inr ⟨fun hmem => ?_, by simp; omega⟩
      rcases List.mem_cons.mp hmem with hword | hmem
      · exact absurd hword (by decide)
      rcases List.mem_cons.mp hmem with hword | hmem
      · exact hroot.ne_rest hword.symm
      rcases List.mem_cons.mp hmem with hword | hmem
      · exact hfamilies family hfamily hword.symm
      rcases List.mem_append.mp hmem with hmem | hmem
      · exact (hfree _ hmem).ne_rest rfl
      · exact version_free.ne_rest (List.mem_singleton.mp hmem).symm

/-- A pattern that reads over another one and is as long reads over its tokens. -/
theorem length_of_tokensMatch {allowed subject : List String} (hrest : ">" ∉ allowed)
    (h : tokensMatch allowed subject = true) : allowed.length = subject.length := by
  induction allowed generalizing subject with
  | nil => simpa [tokensMatch, eq_comm] using h
  | cons word allowed ih =>
      obtain ⟨hword, hallowed⟩ := List.ne_and_not_mem_of_not_mem_cons hrest
      cases subject with
      | nil =>
          rw [tokensMatch_cons_nil allowed hword.symm] at h
          cases h
      | cons other subject =>
          rw [tokensMatch_cons_cons allowed other subject hword.symm, Bool.and_eq_true] at h
          rw [List.length_cons, List.length_cons, ih hallowed h.2]

/-- **INCLUSION**: a subject that is allowed receives nothing that the subject
    that allows it does not receive. -/
theorem receives_of_allowed {allowed subject : String}
    (hallowed : isQrTrustSubscriberSubject allowed = true)
    (hsubject : isQrTrustSubscriberSubject subject = true)
    (h : natsSubjectMatches allowed subject = true) {message : String}
    (hreceives : Receives subject message) : Receives allowed message := by
  rw [natsSubjectMatches] at h
  rw [Receives] at hreceives ⊢
  refine matches_of_covers (tokensMatch_eq_covers _ _ ▸ h) ?_ hreceives
  rw [rest_mem_iff, rest_mem_iff]
  intro hrest
  by_contra hnone
  have hlength := length_of_tokensMatch hnone h
  rcases rest_mem_or (accepted_iff.mp hsubject) with ⟨-, hfour⟩ | ⟨hno, -⟩
  · rcases rest_mem_or (accepted_iff.mp hallowed) with ⟨hyes, -⟩ | ⟨-, hfive⟩
    · exact hnone hyes
    · omega
  · exact hno hrest

/-! ## Materialization -/

theorem tokens_word_dot {word : String} (rest : List Char) (h : '.' ∉ word.toList) :
    tokens (String.ofList (word.toList ++ '.' :: rest)) = word :: tokens (String.ofList rest) := by
  have hone : word.toList.splitOn '.' = [word.toList] := by
    have hjoined := @Separated.splitOn_joined _ '.' [word.toList] _ (by simpa using h)
      (List.cons_ne_nil _ _)
    rwa [Separated.joined_singleton] at hjoined
  rw [tokens, tokens, String.toList_ofList, String.toList_ofList, List.splitOn_append_cons_self, hone]
  simp

/-- The tokens of a text under a root. -/
theorem tokens_under {root : String} (rest : List Char) (h : '.' ∉ root.toList) :
    tokens (String.ofList (("qrtrust." ++ root ++ ".").toList ++ rest))
      = "qrtrust" :: root :: tokens (String.ofList rest) := by
  have hqrtrust : '.' ∉ "qrtrust".toList := by decide
  have htext : ("qrtrust." ++ root ++ ".").toList ++ rest
      = "qrtrust".toList ++ '.' :: (root.toList ++ '.' :: rest) := by
    simp [String.toList_append]
  rw [htext, tokens_word_dot _ hqrtrust, tokens_word_dot _ h]

theorem replaceFirst_append {old : List Char} (new rest : List Char) (hne : old ≠ []) :
    replaceFirst old new (old ++ rest) = new ++ rest := by
  obtain ⟨c, more, rfl⟩ := List.exists_cons_of_ne_nil hne
  rw [List.cons_append, replaceFirst, if_pos, ← List.cons_append, List.drop_left]
  rw [← List.cons_append, List.isPrefixOf_iff_prefix]
  exact List.prefix_append _ _

/-- A text of the subjects under any root token, from its characters. -/
theorem exists_rest_ofList {chars : List Char} (hstart : "qrtrust.*.".toList <+: chars)
    (hwords : ∀ piece ∈ (chars.drop 10).splitOn '.', piece ≠ ['*'] ∧ piece ≠ ['>']) :
    ∃ rest, (String.ofList chars).toList = "qrtrust.*.".toList ++ rest
      ∧ ∀ word ∈ tokens (String.ofList rest), word ≠ "*" ∧ word ≠ ">" := by
  obtain ⟨rest, rfl⟩ := hstart
  refine ⟨rest, String.toList_ofList, fun word hword => ?_⟩
  rw [tokens, String.toList_ofList] at hword
  obtain ⟨piece, hpiece, rfl⟩ := List.mem_map.mp hword
  obtain ⟨hstar, hrest⟩ := hwords piece hpiece
  exact ⟨fun h => hstar (String.ofList_injective h), fun h => hrest (String.ofList_injective h)⟩

theorem exists_rest_of_template {streamName : JetStreamName} {template : String}
    (h : template ∈ streamMaterializationSubjects streamName) :
    ∃ rest, template.toList = "qrtrust.*.".toList ++ rest
      ∧ ∀ word ∈ tokens (String.ofList rest), word ≠ "*" ∧ word ≠ ">" := by
  have hall : ∀ template ∈ streamMaterializationSubjects streamName,
      ∃ rest, template.toList = "qrtrust.*.".toList ++ rest
        ∧ ∀ word ∈ tokens (String.ofList rest), word ≠ "*" ∧ word ≠ ">" := by
    -- the characters of a literal are read off it, and not decoded
    cases streamName with
    | governance =>
        iterate 7 refine List.forall_mem_cons.mpr ⟨exists_rest_ofList (by decide) (by decide), ?_⟩
        exact fun template h => absurd h List.not_mem_nil
    | runtime =>
        exact List.forall_mem_singleton.mpr (exists_rest_ofList (by decide) (by decide))
    | scannerAudit =>
        exact List.forall_mem_singleton.mpr (exists_rest_ofList (by decide) (by decide))
  exact hall template h

/-- What a materialization subject has after its root. -/
theorem exists_tail_of_template {streamName : JetStreamName} {template : String}
    (h : template ∈ streamMaterializationSubjects streamName) :
    ∃ tail, (∀ word ∈ tail, word ≠ "*" ∧ word ≠ ">") ∧ tokens template = "qrtrust" :: "*" :: tail
      ∧ ∀ root, '.' ∉ root.toList → tokens (underRoot root template) = "qrtrust" :: root :: tail := by
  obtain ⟨rest, hstart, hwords⟩ := exists_rest_of_template h
  refine ⟨tokens (String.ofList rest), hwords, ?_, fun root hdot => ?_⟩
  · rw [← tokens_under rest (show '.' ∉ "*".toList by decide)]
    refine congrArg tokens (String.toList_inj.mp ?_)
    rw [hstart]
    simp [String.toList_append]
  · rw [underRoot, hstart, replaceFirst_append _ _ (by decide), tokens_under rest hdot]

theorem map_token_of_words {words : List String} (h : ∀ word ∈ words, word ≠ "*" ∧ word ≠ ">") :
    words.map token = words.map Token.word :=
  List.map_congr_left fun word hword => token_of_word (h word hword).1 (h word hword).2

/-- The root and the family of a subject that can be given to a subscriber. -/
theorem exists_root_of_accepted {subject : String} (h : isQrTrustSubscriberSubject subject = true) :
    ∃ root family rest, tokens subject = "qrtrust" :: root :: family :: rest ∧ IsFree root
      ∧ family ≠ "" := by
  obtain ⟨first, root, family, rest, htokens, hne⟩ := exists_tokens_of_accepted h
  obtain ⟨rfl, -, hall, hroot, -⟩ := (accepted_eq htokens hne).mp h
  rw [htokens] at hall
  refine ⟨root, family, rest, htokens, ?_, (hall family (by simp)).1⟩
  exact (tokenAllowed_iff.mp (hall root (by simp)).2).resolve_left hroot

theorem accepted_of_matchesStream {streamName : JetStreamName} {subject : String}
    (h : natsSubscriberSubjectMatchesStream streamName subject = true) :
    isQrTrustSubscriberSubject subject = true := by
  by_contra hnot
  rw [natsSubscriberSubjectMatchesStream, if_pos (by simpa using hnot)] at h
  cases h

/-- What a subject with a root token receives. -/
theorem receives_iff {subject message root : String} {words : List String}
    (h : tokens subject = "qrtrust" :: root :: words) :
    Receives subject message
      ↔ ∃ said, tokens message = "qrtrust" :: said ∧ Matches (token root :: words.map token) said := by
  rw [Receives, h]
  rfl

theorem natsSubjectMatches_iff {allowed subject root other : String} {words more : List String}
    (h : tokens allowed = "qrtrust" :: root :: words)
    (h' : tokens subject = "qrtrust" :: other :: more) :
    natsSubjectMatches allowed subject = true
      ↔ covers (token root :: words.map token) (token other :: more.map token) = true := by
  rw [natsSubjectMatches, h, h', tokensMatch_cons_cons _ _ _ (by decide), tokensMatch_eq_covers]
  simp

/-- **NARROWED**: what an authorized subject and a materialization subject both
    receive is what the narrowed subject receives, if it is kept. -/
theorem narrowed_iff {streamName : JetStreamName} {allowed template message : String}
    (hallowed : natsSubscriberSubjectMatchesStream streamName allowed = true)
    (htemplate : template ∈ streamMaterializationSubjects streamName) :
    (∃ root, rootTokenFromSubject allowed = some root
        ∧ natsSubjectMatches allowed (underRoot root template) = true
        ∧ Receives (underRoot root template) message)
      ↔ Receives allowed message ∧ Receives template message := by
  obtain ⟨root, family, rest, htokens, hfree, hfamily⟩ :=
    exists_root_of_accepted (accepted_of_matchesStream hallowed)
  have hroot : rootTokenFromSubject allowed = some root := by
    simp [rootTokenFromSubject, htokens, hfree.ne_empty, hfamily]
  obtain ⟨tail, hwords, htemplateTokens, hunder⟩ := exists_tail_of_template htemplate
  have hnarrow := hunder root (dot_not_mem_of_free hfree)
  have hne : token root ≠ .rest := fun h => hfree.ne_rest (token_eq_rest.mp h)
  have hany : token "*" = .any := rfl
  rw [receives_iff htokens, receives_iff htemplateTokens, hany, map_token_of_words hwords]
  constructor
  · rintro ⟨other, hother, hmatch, hreceives⟩
    obtain rfl := Option.some.inj (hroot.symm.trans hother)
    rw [natsSubjectMatches_iff htokens hnarrow, map_token_of_words hwords] at hmatch
    rw [receives_iff hnarrow, map_token_of_words hwords] at hreceives
    obtain ⟨said, hmessage, hsaid⟩ := hreceives
    obtain ⟨hallows, htemplates⟩ := (covers_and_matches_iff hne).mp ⟨hmatch, hsaid⟩
    exact ⟨⟨said, hmessage, hallows⟩, said, hmessage, htemplates⟩
  · rintro ⟨⟨said, hmessage, hallows⟩, other, hother, htemplates⟩
    obtain rfl := (List.cons.inj (hmessage.symm.trans hother)).2
    obtain ⟨hmatch, hsaid⟩ := (covers_and_matches_iff hne).mpr ⟨hallows, htemplates⟩
    refine ⟨root, hroot, ?_, ?_⟩
    · rwa [natsSubjectMatches_iff htokens hnarrow, map_token_of_words hwords]
    · rw [receives_iff hnarrow, map_token_of_words hwords]
      exact ⟨said, hmessage, hsaid⟩

theorem mem_narrowedSubjects {streamName : JetStreamName} {allowed subject : String} :
    subject ∈ narrowedSubjects streamName allowed
      ↔ natsSubscriberSubjectMatchesStream streamName allowed = true
        ∧ ∃ template ∈ streamMaterializationSubjects streamName,
          ∃ root, rootTokenFromSubject allowed = some root
            ∧ natsSubjectMatches allowed (underRoot root template) = true
            ∧ underRoot root template = subject := by
  rw [narrowedSubjects]
  cases hstream : natsSubscriberSubjectMatchesStream streamName allowed with
  | false => simp
  | true =>
      cases hroot : rootTokenFromSubject allowed with
      | none => simp
      | some root =>
          simp only [Bool.not_true, Bool.false_eq_true, if_false, List.mem_filter, List.mem_map,
            Option.some.injEq, exists_eq_left', true_and]
          constructor
          · rintro ⟨⟨template, htemplate, rfl⟩, hmatch⟩
            exact ⟨template, htemplate, hmatch, rfl⟩
          · rintro ⟨template, htemplate, hmatch, rfl⟩
            exact ⟨⟨template, htemplate, rfl⟩, hmatch⟩

theorem mem_materialization {authorization : NatsSubscriberAuthorization}
    {streamName : JetStreamName} {subject : String} :
    subject ∈ natsSubscriberMaterializationSubjectsForStream authorization streamName
      ↔ ∃ allowed ∈ authorization.subjects, subject ∈ narrowedSubjects streamName allowed := by
  rw [natsSubscriberMaterializationSubjectsForStream, CacheMaterialization.distinct,
    PublicationGate.mem_uniqueStrings_foldl, List.mem_flatMap]
  simp

/-- **EXACT**: among the subjects that can be given to a subscriber, one that is
    allowed receives no more than the one that allows it; and a materializer
    receives the messages of its templates that its authorization receives on its
    stream, all of them and no others. -/
theorem authorization_exact :
    (∀ allowed subject, isQrTrustSubscriberSubject allowed = true →
      isQrTrustSubscriberSubject subject = true → natsSubjectMatches allowed subject = true →
      ∀ message, Receives subject message → Receives allowed message)
    ∧ ∀ authorization streamName message,
      (∃ subject ∈ natsSubscriberMaterializationSubjectsForStream authorization streamName,
          Receives subject message)
        ↔ (∃ allowed ∈ authorization.subjects,
              natsSubscriberSubjectMatchesStream streamName allowed = true
                ∧ Receives allowed message)
          ∧ ∃ template ∈ streamMaterializationSubjects streamName, Receives template message := by
  constructor
  · intro allowed subject hallowed hsubject hmatch message hreceives
    exact receives_of_allowed hallowed hsubject hmatch hreceives
  · intro authorization streamName message
    constructor
    · rintro ⟨subject, hsubject, hreceives⟩
      obtain ⟨allowed, hmem, hnarrowed⟩ := mem_materialization.mp hsubject
      obtain ⟨hstream, template, htemplate, root, hroot, hmatch, rfl⟩ :=
        mem_narrowedSubjects.mp hnarrowed
      obtain ⟨hallowed, htemplates⟩ :=
        (narrowed_iff hstream htemplate).mp ⟨root, hroot, hmatch, hreceives⟩
      exact ⟨⟨allowed, hmem, hstream, hallowed⟩, template, htemplate, htemplates⟩
    · rintro ⟨⟨allowed, hmem, hstream, hallowed⟩, template, htemplate, htemplates⟩
      obtain ⟨root, hroot, hmatch, hreceives⟩ :=
        (narrowed_iff hstream htemplate).mpr ⟨hallowed, htemplates⟩
      refine ⟨underRoot root template, mem_materialization.mpr ⟨allowed, hmem, ?_⟩, hreceives⟩
      exact mem_narrowedSubjects.mpr ⟨hstream, template, htemplate, root, hroot, hmatch, rfl⟩

/-- A family of every root allows the events of one root; a materializer of runtime
    observations narrows such a family to its one subject. -/
theorem authorization_exact_runtime :
    (∀ message, Receives "qrtrust.root-a.runtime.verdict.observed.v1" message →
      Receives "qrtrust.*.runtime.>" message)
    ∧ ∀ message,
      (∃ subject ∈ natsSubscriberMaterializationSubjectsForStream
            ⟨"sub:runtime", "runtime", ["qrtrust.*.issuer.>", "qrtrust.root-a.runtime.>"]⟩ .runtime,
          Receives subject message)
        ↔ (∃ allowed ∈ ["qrtrust.*.issuer.>", "qrtrust.root-a.runtime.>"],
              natsSubscriberSubjectMatchesStream .runtime allowed = true
                ∧ Receives allowed message)
          ∧ ∃ template ∈ streamMaterializationSubjects .runtime, Receives template message := by
  have hfamily : isQrTrustSubscriberSubject "qrtrust.*.runtime.>" = true := by decide +kernel
  have hevent : isQrTrustSubscriberSubject "qrtrust.root-a.runtime.verdict.observed.v1" = true := by
    decide +kernel
  have hmatch : natsSubjectMatches "qrtrust.*.runtime.>"
      "qrtrust.root-a.runtime.verdict.observed.v1" = true := by
    decide +kernel
  constructor
  · intro message
    exact authorization_exact.1 "qrtrust.*.runtime.>" "qrtrust.root-a.runtime.verdict.observed.v1"
      hfamily hevent hmatch message
  · intro message
    exact authorization_exact.2
      ⟨"sub:runtime", "runtime", ["qrtrust.*.issuer.>", "qrtrust.root-a.runtime.>"]⟩ .runtime message

end NatsSubjects
