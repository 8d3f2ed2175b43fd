import QrTrust.Lib.SplitPieces
import QrTrust.Network.NatsSubjects

/-! # The grammar of subscriber subjects

    A subject that can be given to a subscriber is one of the two subjects of the
    control plane, a family of a root, or an event of such a family
    (`accepted_iff`). -/

namespace NatsSubjects

open NatsPropagation Separated

/-! ## Tokens -/

/-- The text of a list of tokens. -/
def dotted (words : List String) : String := String.ofList (joined '.' (words.map String.toList))

theorem dotted_tokens (subject : String) : dotted (tokens subject) = subject := by
  have hpieces : (tokens subject).map String.toList = subject.toList.splitOn '.' := by
    rw [tokens, List.map_map]
    exact List.map_id'' (fun _ => String.toList_ofList) _
  rw [dotted, hpieces, joined_splitOn, String.ofList_toList]

theorem tokens_dotted {words : List String} (hne : words ≠ []) (h : ∀ w ∈ words, '.' ∉ w.toList) :
    tokens (dotted words) = words := by
  have hpieces : ∀ p ∈ words.map String.toList, '.' ∉ p := by
    intro p hp
    obtain ⟨w, hw, rfl⟩ := List.mem_map.mp hp
    exact h w hw
  rw [tokens, dotted, String.toList_ofList, splitOn_joined hpieces (by simpa using hne),
    List.map_map]
  exact List.map_id'' (fun _ => String.ofList_toList) _

/-! ## Labels -/

/-- A lower-case label: letters, digits and dashes, with no dash at its ends. -/
structure IsLabel (token : String) : Prop where
  nonempty : token ≠ ""
  chars : ∀ c ∈ token.toList, isTokenChar c = true ∨ c = '-'
  head : token.toList.head? ≠ some '-'
  last : token.toList.getLast? ≠ some '-'

/-- A token that the grammar leaves free: a label or a wildcard for one. -/
def IsFree (token : String) : Prop := token = "*" ∨ IsLabel token

theorem natsSubjectTokenPattern_iff {token : String} :
    natsSubjectTokenPattern token = true ↔ IsLabel token := by
  rw [natsSubjectTokenPattern, Bool.and_eq_true, Bool.and_eq_true, List.all_eq_true]
  constructor
  · rintro ⟨⟨hhead, hlast⟩, hall⟩
    constructor
    · rintro rfl
      exact absurd hhead (by decide)
    · intro c hc
      simpa using hall c hc
    · intro hdash
      rw [hdash] at hhead
      exact absurd hhead (by decide)
    · intro hdash
      rw [hdash] at hlast
      exact absurd hlast (by decide)
  · intro h
    refine ⟨⟨?_, ?_⟩, fun c hc => by simpa using h.chars c hc⟩
    · cases hhead : token.toList.head? with
      | none => exact absurd (String.toList_eq_nil_iff.mp (List.head?_eq_none_iff.mp hhead)) h.nonempty
      | some c =>
          refine (h.chars c (List.mem_of_head? hhead)).resolve_right ?_
          rintro rfl
          exact h.head hhead
    · cases hlast : token.toList.getLast? with
      | none =>
          exact absurd (String.toList_eq_nil_iff.mp (List.getLast?_eq_none_iff.mp hlast)) h.nonempty
      | some c =>
          refine (h.chars c (List.mem_of_getLast? hlast)).resolve_right ?_
          rintro rfl
          exact h.last hlast

theorem IsLabel.not_mem {token : String} (h : IsLabel token) {c : Char}
    (hc : isTokenChar c = false) (hdash : c ≠ '-') : c ∉ token.toList := by
  intro hmem
  rcases h.chars c hmem with hchar | rfl
  · rw [hc] at hchar
    cases hchar
  · exact hdash rfl

theorem IsLabel.not_wildcard {token : String} (h : IsLabel token) :
    token ≠ "*" ∧ token ≠ ">" := by
  constructor
  · rintro rfl
    exact h.not_mem (c := '*') (by decide) (by decide) (List.mem_cons_self ..)
  · rintro rfl
    exact h.not_mem (c := '>') (by decide) (by decide) (List.mem_cons_self ..)

theorem IsFree.ne_rest {token : String} (h : IsFree token) : token ≠ ">" := by
  rcases h with rfl | h
  · decide
  · exact h.not_wildcard.2

theorem IsFree.ne_empty {token : String} (h : IsFree token) : token ≠ "" := by
  rcases h with rfl | h
  · decide
  · exact h.nonempty

theorem tokenAllowed_iff {token : String} :
    tokenAllowed token = true ↔ token = ">" ∨ IsFree token := by
  rw [tokenAllowed, IsFree]
  by_cases hstar : token = "*"
  · simp [hstar]
  · by_cases hrest : token = ">"
    · simp [hrest]
    · simp only [hstar, hrest, decide_false, Bool.or_self, Bool.false_eq_true, if_false, false_or,
        Bool.not_eq_true', Bool.or_eq_false_iff, Bool.not_eq_false', natsSubjectTokenPattern_iff,
        List.contains_eq_mem, decide_eq_false_iff_not, and_iff_right_iff_imp]
      intro h
      exact ⟨h.not_mem (by decide) (by decide), h.not_mem (by decide) (by decide)⟩

/-! ## The grammar -/

/-- The documented subjects: the two of the control plane, `qrtrust.<root>.<family>.>`,
    and `qrtrust.<root>.<family>.<tokens>.v1`. -/
inductive Documented : String → Prop
  | controlPlane {subject : String} (hsubject : subject ∈ controlPlaneSubscriberSubjects) :
      Documented subject
  | family {root family : String} (hroot : IsFree root) (hother : root ≠ controlPlaneSubjectRoot)
      (hfamily : family ∈ natsSubjectFamilies) :
      Documented (dotted ["qrtrust", root, family, ">"])
  | event {root family : String} {more : List String} (hroot : IsFree root)
      (hother : root ≠ controlPlaneSubjectRoot) (hfamily : family ∈ natsSubjectFamilies)
      (hmore : more ≠ []) (hfree : ∀ token ∈ more, IsFree token) :
      Documented (dotted ("qrtrust" :: root :: family :: (more ++ ["v1"])))

theorem dot_not_mem_of_free {token : String} (h : IsFree token) : '.' ∉ token.toList := by
  rcases h with rfl | h
  · decide
  · exact h.not_mem (by decide) (by decide)

section Event

variable {root family : String} {rest : List String}

theorem tokens_event (hroot : IsFree root) (hfamily : family ∈ natsSubjectFamilies)
    (hrest : ∀ token ∈ rest, token = ">" ∨ IsFree token) :
    tokens (dotted ("qrtrust" :: root :: family :: rest)) = "qrtrust" :: root :: family :: rest := by
  have hfamilies : ∀ family ∈ natsSubjectFamilies, '.' ∉ family.toList := by decide
  refine tokens_dotted (List.cons_ne_nil _ _) fun word hword => ?_
  rcases List.mem_cons.mp hword with rfl | hword
  · decide
  rcases List.mem_cons.mp hword with rfl | hword
  · exact dot_not_mem_of_free hroot
  rcases List.mem_cons.mp hword with rfl | hword
  · exact hfamilies word hfamily
  rcases hrest word hword with rfl | hfree
  · decide
  · exact dot_not_mem_of_free hfree

theorem version_free : IsFree "v1" := .inr (natsSubjectTokenPattern_iff.mp (by decide))

theorem free_of_rest : ∀ token ∈ [">"], token = ">" ∨ IsFree token := by
  intro token htoken
  exact .inl (List.mem_singleton.mp htoken)

/-- The tokens after the family of an event are free. -/
theorem free_of_versioned {more : List String} (hfree : ∀ token ∈ more, IsFree token) :
    ∀ token ∈ more ++ ["v1"], token = ">" ∨ IsFree token := by
  intro token htoken
  rcases List.mem_append.mp htoken with htoken | htoken
  · exact .inr (hfree token htoken)
  · exact .inr (List.mem_singleton.mp htoken ▸ version_free)

/-- The tokens of an event pass the loop over the tokens. -/
theorem allowed_event (hroot : IsFree root) (hfamily : family ∈ natsSubjectFamilies)
    (hrest : ∀ token ∈ rest, token = ">" ∨ IsFree token) :
    ∀ token ∈ "qrtrust" :: root :: family :: rest, token ≠ "" ∧ tokenAllowed token = true := by
  have hfamilies : ∀ family ∈ natsSubjectFamilies,
      family ≠ "" ∧ tokenAllowed family = true := by decide
  intro token htoken
  rcases List.mem_cons.mp htoken with rfl | htoken
  · decide
  rcases List.mem_cons.mp htoken with rfl | htoken
  · exact ⟨hroot.ne_empty, tokenAllowed_iff.mpr (.inr hroot)⟩
  rcases List.mem_cons.mp htoken with rfl | htoken
  · exact hfamilies token hfamily
  rcases hrest token htoken with rfl | hfree
  · decide
  · exact ⟨hfree.ne_empty, tokenAllowed_iff.mpr (.inr hfree)⟩

end Event

/-- The checks of `isQrTrustSubscriberSubject`, on the tokens of a subject. -/
theorem accepted_eq {subject first root family : String} {rest : List String}
    (htokens : tokens subject = first :: root :: family :: rest) (hne : rest ≠ []) :
    isQrTrustSubscriberSubject subject = true
      ↔ first = "qrtrust" ∧ family ∈ natsSubjectFamilies
        ∧ (∀ token ∈ tokens subject, token ≠ "" ∧ tokenAllowed token = true)
        ∧ root ≠ ">" ∧ ">" ∉ rest.dropLast
        ∧ (if root = controlPlaneSubjectRoot then subject ∈ controlPlaneSubscriberSubjects
          else if rest.getLast? = some ">" then rest.length = 1
          else rest.getLast? = some "v1" ∧ 2 ≤ rest.length) := by
  obtain ⟨next, more, rfl⟩ := List.exists_cons_of_ne_nil hne
  have hfamilies : ∀ family ∈ natsSubjectFamilies, family ≠ ">" := by decide
  have hqrtrust : "qrtrust" ≠ ">" := by decide
  rw [isQrTrustSubscriberSubject, htokens]
  simp only [List.length_cons, List.getElem?_cons_zero, List.getElem?_cons_succ, Option.getD_some,
    ne_eq, Option.some.injEq, decide_not, String.length_eq_zero_iff, List.any_cons, List.any_eq_true,
    decide_eq_true_eq, exists_eq_right, List.contains_eq_mem, Bool.or_eq_true, Bool.not_eq_eq_eq_not,
    Bool.not_true, decide_eq_false_iff_not, List.all_cons, Bool.not_and, List.all_eq_false,
    Bool.not_eq_true, List.dropLast_cons_cons, List.mem_cons, List.getLast?_cons_cons,
    forall_eq_or_imp]
  grind

theorem exists_tokens_of_accepted {subject : String}
    (h : isQrTrustSubscriberSubject subject = true) :
    ∃ first root family rest, tokens subject = first :: root :: family :: rest ∧ rest ≠ [] := by
  have hlength : 4 ≤ (tokens subject).length := by
    by_contra hshort
    rw [isQrTrustSubscriberSubject, if_pos (by simp [Nat.lt_of_not_le hshort])] at h
    cases h
  rcases htokens : tokens subject with _ | ⟨first, _ | ⟨root, _ | ⟨family, _ | ⟨next, more⟩⟩⟩⟩
  · simp [htokens] at hlength
  · simp [htokens] at hlength
  · simp [htokens] at hlength
  · simp [htokens] at hlength
  · exact ⟨first, root, family, next :: more, rfl, List.cons_ne_nil _ _⟩

/-- The tokens of a literal, from its characters. -/
theorem tokens_ofList {chars : List Char} :
    tokens (String.ofList chars) = (chars.splitOn '.').map String.ofList := by
  rw [tokens, String.toList_ofList]

theorem tokens_runtimeProvider : tokens "qrtrust.control-plane.runtime.provider.upserted.v1"
    = ["qrtrust", "control-plane", "runtime", "provider", "upserted", "v1"] :=
  tokens_ofList.trans rfl

theorem tokens_authorizationChanged :
    tokens "qrtrust.control-plane.authority.nats-subscriber.authorization.changed.v1"
      = ["qrtrust", "control-plane", "authority", "nats-subscriber", "authorization", "changed",
        "v1"] :=
  tokens_ofList.trans rfl

/-- **GRAMMAR**: the subjects that can be given to a subscriber are the documented
    ones. -/
theorem accepted_iff {subject : String} :
    isQrTrustSubscriberSubject subject = true ↔ Documented subject := by
  constructor
  · intro h
    obtain ⟨first, root, family, rest, htokens, hne⟩ := exists_tokens_of_accepted h
    obtain ⟨rfl, hfamily, hall, hroot, hrest, hlast⟩ := (accepted_eq htokens hne).mp h
    have hsubject : subject = dotted ("qrtrust" :: root :: family :: rest) := by
      rw [← htokens, dotted_tokens]
    have hfree : ∀ token ∈ tokens subject, token ≠ ">" → IsFree token := fun token htoken hne =>
      (tokenAllowed_iff.mp (hall token htoken).2).resolve_left hne
    rw [htokens] at hfree
    have hrootFree : IsFree root := hfree root (by simp) hroot
    split at hlast
    · exact .controlPlane hlast
    rename_i hother
    rw [hsubject]
    split at hlast
    · rename_i hwild
      obtain ⟨last, rfl⟩ := List.length_eq_one_iff.mp hlast
      obtain rfl : last = ">" := Option.some.inj hwild
      exact .family hrootFree hother hfamily
    · obtain ⟨hversion, hlength⟩ := hlast
      obtain ⟨more, rfl⟩ := List.getLast?_eq_some_iff.mp hversion
      rw [List.dropLast_concat] at hrest
      refine .event hrootFree hother hfamily ?_ fun token htoken => hfree token ?_ ?_
      · rintro rfl
        exact absurd hlength (by decide)
      · simp [htoken]
      · rintro rfl
        exact hrest htoken
  · intro h
    cases h with
    | controlPlane hsubject =>
        have hroot : "control-plane" = controlPlaneSubjectRoot := rfl
        have hsubject' := hsubject
        rcases List.mem_cons.mp hsubject' with rfl | hsubject'
        · refine (accepted_eq tokens_runtimeProvider (List.cons_ne_nil _ _)).mpr
            ⟨rfl, by decide, ?_, by decide, by decide, ?_⟩
          · rw [tokens_runtimeProvider]
            decide
          · rw [if_pos hroot]
            exact hsubject
        · obtain rfl := List.mem_singleton.mp hsubject'
          refine (accepted_eq tokens_authorizationChanged (List.cons_ne_nil _ _)).mpr
            ⟨rfl, by decide, ?_, by decide, by decide, ?_⟩
          · rw [tokens_authorizationChanged]
            decide
          · rw [if_pos hroot]
            exact hsubject
    | @family root family hroot hother hfamily =>
        have hrest := free_of_rest
        have htokens := tokens_event hroot hfamily hrest
        refine (accepted_eq htokens (List.cons_ne_nil _ _)).mpr ⟨rfl, hfamily, ?_, ?_, ?_, ?_⟩
        · rw [htokens]
          exact allowed_event hroot hfamily hrest
        · exact hroot.ne_rest
        · exact List.not_mem_nil
        · rw [if_neg hother]
          simp
    | @event root family more hroot hother hfamily hmore hfree =>
        have hrest := free_of_versioned hfree
        have htokens := tokens_event hroot hfamily hrest
        refine (accepted_eq htokens (by simp)).mpr ⟨rfl, hfamily, ?_, ?_, ?_, ?_⟩
        · rw [htokens]
          exact allowed_event hroot hfamily hrest
        · exact hroot.ne_rest
        · rw [List.dropLast_concat]
          intro hmem
          exact (hfree _ hmem).ne_rest rfl
        · rw [if_neg hother, if_neg (by simp), List.getLast?_concat, List.length_append]
          exact ⟨rfl, Nat.succ_le_succ (List.length_pos_of_ne_nil hmore)⟩

end NatsSubjects
