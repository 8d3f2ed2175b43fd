import Mathlib.Data.List.Basic
import Mathlib.Data.List.Infix
import Mathlib.Tactic.Common

/-! # Codes that are read back

    A text of codes in a row is read back as long as nothing that may stand
    behind a code can be taken for a part of it:

    * `PrefixFree.readsBack`: no code is the start of another;
    * `readsBack_of_letters`: the codes are words of letters, and what stands
      behind one starts with no letter;
    * `flatMap_readsBack`, `separated_readsBack`, `pair_readsBack`: rows of codes
      up to a closing letter, rows with a separator, and pairs. -/

namespace PrefixCode

variable {α β τ : Type} {encode : α → List τ} {stop : List τ → Prop}

/-- **READS BACK**: with an admitted text behind it, the code of `a` is the code of
    nothing else. -/
def ReadsBack (stop : List τ → Prop) (encode : α → List τ) (a : α) : Prop :=
  ∀ b s t, stop s → stop t → encode a ++ s = encode b ++ t → a = b ∧ s = t

/-- **PREFIX-FREE**: no code is the start of another. -/
def PrefixFree (encode : α → List τ) : Prop := ∀ a b, encode a <+: encode b → a = b

/-- Codes of which none starts another are read back before any text. -/
theorem PrefixFree.readsBack (h : PrefixFree encode) (a : α) :
    ReadsBack (fun _ => True) encode a := by
  intro b s t _ _ heq
  have hsame : a = b := by
    have ha : encode a <+: encode a ++ s := List.prefix_append ..
    have hb : encode b <+: encode a ++ s := heq ▸ List.prefix_append ..
    rcases List.prefix_or_prefix_of_prefix ha hb with hab | hba
    · exact h a b hab
    · exact (h b a hba).symm
  subst hsame
  exact ⟨rfl, List.append_cancel_left heq⟩

/-- Words of letters are read back before a text that starts with no letter. -/
theorem readsBack_of_letters {letter : τ → Bool} (hinjective : Function.Injective encode)
    (hletters : ∀ a, ∀ c ∈ encode a, letter c = true) (a : α) :
    ReadsBack (fun s => ∀ c ∈ s.head?, letter c = false) encode a := by
  intro b s t hs ht heq
  have hword : ∀ {a : α} {s : List τ}, (∀ c ∈ s.head?, letter c = false) →
      (encode a ++ s).takeWhile letter = encode a := by
    intro a s hs
    rw [List.takeWhile_append_of_pos (hletters a)]
    cases s with
    | nil => simp
    | cons c s => simp [hs c rfl]
  have hsame : encode a = encode b := by
    rw [← hword hs, heq, hword ht]
  rw [hsame] at heq
  exact ⟨hinjective hsame, List.append_cancel_left heq⟩

/-- What is read back before some texts is read back before fewer. -/
theorem ReadsBack.mono {stop' : List τ → Prop} {a : α} (h : ReadsBack stop encode a)
    (hstop : ∀ s, stop' s → stop s) : ReadsBack stop' encode a :=
  fun b s t hs ht => h b s t (hstop s hs) (hstop t ht)

/-- **ROWS**: codes of which none starts another, up to a letter that starts none. -/
theorem flatMap_readsBack (h : PrefixFree encode) {close : τ}
    (hstart : ∀ a, ∃ c rest, encode a = c :: rest ∧ c ≠ close) (as : List α) :
    ∀ bs s t, as.flatMap encode ++ close :: s = bs.flatMap encode ++ close :: t →
      as = bs ∧ s = t := by
  induction as with
  | nil =>
      intro bs s t heq
      cases bs with
      | nil => exact ⟨rfl, (List.cons.inj heq).2⟩
      | cons b bs =>
          obtain ⟨c, rest, hb, hne⟩ := hstart b
          rw [List.flatMap_cons, hb] at heq
          exact absurd (List.cons.inj heq).1.symm hne
  | cons a as ih =>
      intro bs s t heq
      cases bs with
      | nil =>
          obtain ⟨c, rest, ha, hne⟩ := hstart a
          rw [List.flatMap_cons, ha] at heq
          exact absurd (List.cons.inj heq).1 hne
      | cons b bs =>
          rw [List.flatMap_cons, List.flatMap_cons, List.append_assoc, List.append_assoc] at heq
          obtain ⟨rfl, hrest⟩ := h.readsBack a b _ _ trivial trivial heq
          obtain ⟨rfl, hst⟩ := ih bs s t hrest
          exact ⟨rfl, hst⟩

/-- The codes of a list with a separator between them. -/
def separated (sep : τ) (encode : α → List τ) : List α → List τ
  | [] => []
  | a :: rest => encode a ++ rest.flatMap fun b => sep :: encode b

theorem separated_eq_intercalate (sep : τ) (encode : α → List τ) (as : List α) :
    separated sep encode as = List.intercalate [sep] (as.map encode) := by
  induction as with
  | nil => rfl
  | cons a rest ih =>
      cases rest with
      | nil => simp [separated]
      | cons b rest =>
          rw [List.map_cons, List.map_cons, List.intercalate_cons_cons, ← List.map_cons, ← ih]
          simp [separated]

section Separated

variable {sep close : τ}

/-- What may stand behind a code of the row: a separator, or the closing letter. -/
theorem stop_rest (hsep : ∀ s, stop (sep :: s)) (hclose : ∀ s, stop (close :: s)) (as : List α)
    (s : List τ) : stop ((as.flatMap fun a => sep :: encode a) ++ close :: s) := by
  cases as with
  | nil => exact hclose s
  | cons a as => exact hsep _

/-- Behind the first code come the others, each with its separator. -/
theorem rest_readsBack (hsep : ∀ s, stop (sep :: s)) (hclose : ∀ s, stop (close :: s))
    (hne : sep ≠ close) (as : List α) (h : ∀ a ∈ as, ReadsBack stop encode a) :
    ∀ bs s t,
      (as.flatMap fun a => sep :: encode a) ++ close :: s
        = (bs.flatMap fun b => sep :: encode b) ++ close :: t →
      as = bs ∧ s = t := by
  induction as with
  | nil =>
      intro bs s t heq
      cases bs with
      | nil => exact ⟨rfl, (List.cons.inj heq).2⟩
      | cons b bs => exact absurd (List.cons.inj heq).1.symm hne
  | cons a as ih =>
      intro bs s t heq
      cases bs with
      | nil => exact absurd (List.cons.inj heq).1 hne
      | cons b bs =>
          rw [List.flatMap_cons, List.flatMap_cons, List.cons_append, List.cons_append,
            List.append_assoc, List.append_assoc] at heq
          obtain ⟨rfl, hrest⟩ := h a List.mem_cons_self b _ _
            (stop_rest hsep hclose as s) (stop_rest hsep hclose bs t) (List.cons.inj heq).2
          obtain ⟨rfl, hst⟩ := ih (fun c hc => h c (List.mem_cons_of_mem _ hc)) bs s t hrest
          exact ⟨rfl, hst⟩

/-- **SEPARATED**: codes with a separator between them, up to a closing letter that
    starts none of them. -/
theorem separated_readsBack (hsep : ∀ s, stop (sep :: s)) (hclose : ∀ s, stop (close :: s))
    (hne : sep ≠ close) (hstart : ∀ a, ∃ c rest, encode a = c :: rest ∧ c ≠ close)
    (as : List α) (h : ∀ a ∈ as, ReadsBack stop encode a) :
    ∀ bs s t, separated sep encode as ++ close :: s = separated sep encode bs ++ close :: t →
      as = bs ∧ s = t := by
  intro bs s t heq
  cases as with
  | nil =>
      cases bs with
      | nil => exact ⟨rfl, (List.cons.inj heq).2⟩
      | cons b bs =>
          obtain ⟨c, rest, hb, hc⟩ := hstart b
          rw [separated, separated, hb] at heq
          exact absurd (List.cons.inj heq).1.symm hc
  | cons a as =>
      cases bs with
      | nil =>
          obtain ⟨c, rest, ha, hc⟩ := hstart a
          rw [separated, separated, ha] at heq
          exact absurd (List.cons.inj heq).1 hc
      | cons b bs =>
          rw [separated, separated, List.append_assoc, List.append_assoc] at heq
          obtain ⟨rfl, hrest⟩ := h a List.mem_cons_self b _ _
            (stop_rest hsep hclose as s) (stop_rest hsep hclose bs t) heq
          obtain ⟨rfl, hst⟩ := rest_readsBack hsep hclose hne as
            (fun c hc => h c (List.mem_cons_of_mem _ hc)) bs s t hrest
          exact ⟨rfl, hst⟩

end Separated

/-- **PAIRS**: two codes with a letter between them. -/
theorem pair_readsBack {encode' : β → List τ} {stop' : List τ → Prop} {mid : τ}
    (hmid : ∀ s, stop (mid :: s)) {p : α × β} (hfirst : ReadsBack stop encode p.1)
    (hsecond : ReadsBack stop' encode' p.2) :
    ReadsBack stop' (fun p : α × β => encode p.1 ++ mid :: encode' p.2) p := by
  rintro ⟨b, b'⟩ s t hs ht heq
  obtain ⟨a, a'⟩ := p
  rw [List.append_assoc, List.append_assoc] at heq
  obtain ⟨rfl, hrest⟩ := hfirst b _ _ (hmid _) (hmid _) heq
  obtain ⟨rfl, hst⟩ := hsecond b' s t hs ht (List.cons.inj hrest).2
  exact ⟨rfl, hst⟩

end PrefixCode
