import Mathlib.Data.Finset.Basic
import Mathlib.Data.Finset.Lattice.Basic
import Mathlib.Tactic.Common

/-! # Authority with a wildcard

    A set of permissions in which one permission, the wildcard, stands for all
    of them:

    * `within_iff`: what a set grants is within another as soon as its members
      are granted;
    * `grants_meet`: the meet of two sets grants what both of them grant;
    * `grants_of_gained`: what a meet gains through one of its sets, that set
      gained. -/

namespace Authority

variable {α : Type} {wildcard a : α} {held held' limit limit' : Finset α}

/-- The set has the permission, or the wildcard. -/
def Grants (wildcard : α) (held : Finset α) (a : α) : Prop := a ∈ held ∨ wildcard ∈ held

/-- **WITHIN**: everything the one set grants, the other grants too. -/
def Within (wildcard : α) (held limit : Finset α) : Prop :=
  ∀ a, Grants wildcard held a → Grants wildcard limit a

theorem Within.refl (held : Finset α) : Within wildcard held held := fun _ h => h

theorem Within.trans {mid : Finset α} (h : Within wildcard held mid)
    (h' : Within wildcard mid limit) : Within wildcard held limit :=
  fun a ha => h' a (h a ha)

@[simp] theorem not_grants_empty : ¬ Grants wildcard ∅ a := by
  simp [Grants]

/-- Who grants the wildcard grants everything. -/
theorem Grants.of_wildcard (h : Grants wildcard held wildcard) : Grants wildcard held a :=
  .inr (h.elim id id)

theorem within_iff :
    Within wildcard held limit ↔ ∀ a ∈ held, Grants wildcard limit a := by
  constructor
  · exact fun h a ha => h a (.inl ha)
  · rintro h a (ha | hwildcard)
    · exact h a ha
    · exact (h wildcard hwildcard).of_wildcard

section Meets

variable [DecidableEq α]

instance : Decidable (Grants wildcard held a) := inferInstanceAs (Decidable (_ ∨ _))

theorem grants_union :
    Grants wildcard (held ∪ held') a ↔ Grants wildcard held a ∨ Grants wildcard held' a := by
  simp only [Grants, Finset.mem_union]
  tauto

/-- **MEET**: what is left of one set under the limit of another. -/
def meet (wildcard : α) (held limit : Finset α) : Finset α :=
  if limit = ∅ then ∅
  else if wildcard ∈ held ∧ wildcard ∈ limit then {wildcard}
  else if wildcard ∈ held then limit
  else if wildcard ∈ limit then held
  else held ∩ limit

/-- The meet grants what both sets grant. -/
theorem grants_meet :
    Grants wildcard (meet wildcard held limit) a
      ↔ Grants wildcard held a ∧ Grants wildcard limit a := by
  rw [meet]
  split
  · rename_i hempty
    rw [hempty]
    simp
  · split
    · rename_i hboth
      simp [Grants, hboth.1, hboth.2]
    · split
      · rename_i hheld
        simp [Grants, hheld]
      · split
        · rename_i hlimit
          simp [Grants, hlimit]
        · rename_i hheld hlimit
          simp [Grants, hheld, hlimit]

theorem meet_within : Within wildcard (meet wildcard held limit) held :=
  fun _ h => (grants_meet.mp h).1

/-- What a meet gains under a new limit, the limit gained. -/
theorem grants_of_gained (h : Grants wildcard (meet wildcard held limit') a)
    (hnot : ¬ Grants wildcard (meet wildcard held limit) a) :
    Grants wildcard limit' a ∧ ¬ Grants wildcard limit a := by
  obtain ⟨hheld, hlimit⟩ := grants_meet.mp h
  exact ⟨hlimit, fun hbefore => hnot (grants_meet.mpr ⟨hheld, hbefore⟩)⟩

end Meets

end Authority
