import Mathlib.Tactic.Common

/-! # Histories under a version token

    A sequence of committed states of a store whose changes bump a token.  A
    later state has the contents of an earlier one or a newer token, so states
    with one token have the same contents (`Since.same_of_token`): a reader that
    sees its remembered token again still holds the current contents. -/

/-- States with contents, told apart by `same`, and a token with its order. -/
structure VersionedStates (σ τ : Type) where
  token : σ → Option τ
  same : σ → σ → Prop
  newer : τ → τ → Prop
  same_refl : ∀ a, same a a
  same_trans : ∀ a b c, same a b → same b c → same a c
  newer_trans : ∀ t u v, newer t u → newer u v → newer t v
  newer_irrefl : ∀ t, ¬ newer t t

namespace VersionedStates

variable {σ τ : Type} (V : VersionedStates σ τ)

/-- A later state: the same contents under the same token, or a newer token. -/
def Since (a b : σ) : Prop :=
  V.same a b ∧ V.token a = V.token b
    ∨ ∃ u, V.token b = some u ∧ ∀ t, V.token a = some t → V.newer t u

variable {V}

theorem Since.refl (a : σ) : V.Since a a := .inl ⟨V.same_refl a, rfl⟩

theorem Since.trans {a b c : σ} (hab : V.Since a b) (hbc : V.Since b c) : V.Since a c := by
  rcases hab with ⟨hsame, htoken⟩ | ⟨u, hu, hnewer⟩
  · rcases hbc with ⟨hsame', htoken'⟩ | ⟨v, hv, hnewer'⟩
    · exact .inl ⟨V.same_trans a b c hsame hsame', htoken.trans htoken'⟩
    · exact .inr ⟨v, hv, fun t ht => hnewer' t (htoken ▸ ht)⟩
  · rcases hbc with ⟨-, htoken'⟩ | ⟨v, hv, hnewer'⟩
    · exact .inr ⟨u, htoken' ▸ hu, hnewer⟩
    · exact .inr ⟨v, hv, fun t ht => V.newer_trans t u v (hnewer t ht) (hnewer' u hu)⟩

/-- **ONE TOKEN**: two states under one token have the same contents. -/
theorem Since.same_of_token {a b : σ} (h : V.Since a b) {t : τ} (ha : V.token a = some t)
    (hb : V.token b = some t) : V.same a b := by
  rcases h with ⟨hsame, -⟩ | ⟨u, hu, hnewer⟩
  · exact hsame
  · obtain rfl := Option.some.inj (hb.symm.trans hu)
    exact absurd (hnewer t ha) (V.newer_irrefl t)

end VersionedStates

/-- The committed states so far, oldest first, each later one since every earlier
    one. -/
structure History {σ τ : Type} (V : VersionedStates σ τ) where
  earlier : List σ
  newest : σ
  ordered : (earlier ++ [newest]).Pairwise V.Since

namespace History

variable {σ τ : Type} {V : VersionedStates σ τ}

/-- A history of one state. -/
def start (a : σ) : History V := ⟨[], a, List.pairwise_singleton _ _⟩

/-- All states, oldest first. -/
def states (h : History V) : List σ := h.earlier ++ [h.newest]

/-- The number of the newest state. -/
def last (h : History V) : Nat := h.earlier.length

/-- The state with a number. -/
def state? (h : History V) (n : Nat) : Option σ := h.states[n]?

/-- One more committed state. -/
def push (h : History V) (b : σ) (hsince : V.Since h.newest b) : History V :=
  ⟨h.states, b, by
    rw [List.pairwise_append]
    refine ⟨h.ordered, List.pairwise_singleton _ _, fun a ha b' hb' => ?_⟩
    obtain rfl := List.mem_singleton.mp hb'
    rcases List.mem_append.mp ha with hearlier | hnewest
    · have hab := (List.pairwise_append.mp h.ordered).2.2 a hearlier h.newest
        (List.mem_singleton_self _)
      exact hab.trans hsince
    · obtain rfl := List.mem_singleton.mp hnewest
      exact hsince⟩

theorem state?_last (h : History V) : h.state? h.last = some h.newest := by
  rw [state?, states, last, List.getElem?_append_right (Nat.le_refl _), Nat.sub_self]
  rfl

theorem le_last_of_state? {h : History V} {n : Nat} {a : σ} (ha : h.state? n = some a) :
    n ≤ h.last := by
  obtain ⟨hlt, -⟩ := List.getElem?_eq_some_iff.mp ha
  rw [states, List.length_append, List.length_singleton] at hlt
  exact Nat.le_of_lt_succ hlt

@[simp] theorem last_push (h : History V) (b : σ) (hsince : V.Since h.newest b) :
    (h.push b hsince).last = h.last + 1 := by
  show (h.earlier ++ [h.newest]).length = h.earlier.length + 1
  rw [List.length_append, List.length_singleton]

/-- **KEPT**: a committed state keeps its number. -/
theorem state?_push {h : History V} {b : σ} {hsince : V.Since h.newest b} {n : Nat} {a : σ}
    (ha : h.state? n = some a) : (h.push b hsince).state? n = some a := by
  obtain ⟨hlt, -⟩ := List.getElem?_eq_some_iff.mp ha
  show (h.states ++ [b])[n]? = some a
  rw [List.getElem?_append_left hlt]
  exact ha

/-- The newest state is since every state. -/
theorem since_newest {h : History V} {n : Nat} {a : σ} (ha : h.state? n = some a) :
    V.Since a h.newest := by
  have hmem : a ∈ h.earlier ++ [h.newest] := List.mem_of_getElem? ha
  rcases List.mem_append.mp hmem with hearlier | hnewest
  · exact (List.pairwise_append.mp h.ordered).2.2 a hearlier h.newest
      (List.mem_singleton_self _)
  · obtain rfl := List.mem_singleton.mp hnewest
    exact .refl _

end History
