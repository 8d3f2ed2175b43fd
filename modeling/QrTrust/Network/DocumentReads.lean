import Mathlib.Data.List.Forall2
import QrTrust.Network.CanonicalJsonProofs

/-! # Reading along a path

    A path leads from a document to a part of it, by keys and indices, and a
    reader sees the shape of what stands there.  Two documents are one document
    for every reader when all paths read the same (`Alike`); a signature sees to
    the paths that pass no signature field (`SignedAlike`,
    `signedAlike_of_signedForm`).  What such documents answer to the reads of the
    services is gathered here. -/

namespace JsonValue

open SignatureVerification CanonicalJson KeyedSort

/-! ## Paths -/

/-- A step into a document. -/
inductive Step where
  | key (name : String)
  | index (i : Nat)
  deriving DecidableEq, Repr

/-- A document without its parts. -/
inductive Shape where
  | null
  | bool (b : Bool)
  | num (n : Rat)
  | str (s : String)
  | arr (length : Nat)
  | obj
  deriving DecidableEq

/-- The shape of a document. -/
def shape : JsonValue → Shape
  | null => .null
  | bool b => .bool b
  | num n => .num n
  | str s => .str s
  | arr items => .arr items.length
  | obj _ => .obj

/-- The part that a step leads to. -/
def step (v : JsonValue) : Step → Option JsonValue
  | .key name => v.prop name
  | .index i => v.asArray.bind fun items => items[i]?

/-- The shape that a path leads to. -/
def read : List Step → JsonValue → Option Shape
  | [], v => some v.shape
  | step :: path, v => (v.step step).bind (read path)

/-- A signature covers what the step leads to. -/
def Step.covered : Step → Bool
  | .key name => !isSignatureMetadata name
  | .index _ => true

/-- **ALIKE**: no reader tells the documents apart. -/
def Alike (v w : JsonValue) : Prop := ∀ path, read path v = read path w

/-- **SIGNED ALIKE**: no reader tells the documents apart who passes no signature
    field. -/
def SignedAlike (v w : JsonValue) : Prop :=
  ∀ path, path.all Step.covered = true → read path v = read path w

/-- Documents that are signed alike are alike when they agree behind every signature
    field. -/
theorem SignedAlike.alike_iff {v w : JsonValue} (h : SignedAlike v w) :
    Alike v w ↔ ∀ path, path.all Step.covered = false → read path v = read path w := by
  constructor
  · exact fun halike path _ => halike path
  · intro hmetadata path
    cases hcovered : path.all Step.covered with
    | true => exact h path hcovered
    | false => exact hmetadata path hcovered

/-! ## The signed form reads as the document -/

variable {localeLess : String → String → Bool}

theorem shape_signedForm (v : JsonValue) : (signedForm localeLess v).shape = v.shape := by
  cases v with
  | arr items =>
      rw [signedForm_arr]
      show Shape.arr (items.map (signedForm localeLess)).length = Shape.arr items.length
      rw [List.length_map]
  | obj fields =>
      obtain ⟨covered, -, hform⟩ := exists_signedForm_obj localeLess fields
      rw [hform]
      rfl
  | _ => rfl

/-- A covered property of the signed form is the signed form of the property. -/
theorem prop_signedForm {v : JsonValue} (hdistinct : Distinct v) {key : String}
    (hcovered : isSignatureMetadata key = false) :
    (signedForm localeLess v).prop key = (v.prop key).map (signedForm localeLess) := by
  cases v with
  | arr items =>
      rw [signedForm_arr]
      rfl
  | obj fields =>
      obtain ⟨covered, hperm, hform⟩ := exists_signedForm_obj localeLess fields
      obtain ⟨entries, hentries, hsorted⟩ := exists_fromEntries (sortByKey localeLess covered)
      have hsame : entries.Perm (signedEntries localeLess fields) :=
        hsorted.trans ((perm_sortByKey covered).trans hperm)
      have hnodup : (entries.map Prod.fst).Nodup :=
        (hsame.map Prod.fst).nodup_iff.mpr (nodup_signedEntries hdistinct.1)
      rw [hform, hentries]
      refine Option.ext fun w => ?_
      rw [prop_obj_iff hnodup, hsame.mem_iff, mem_signedEntries, Option.map_eq_some_iff]
      constructor
      · rintro ⟨-, value, hmem, hvalue⟩
        exact ⟨value, (prop_obj_iff hdistinct.1).mpr hmem, hvalue⟩
      · rintro ⟨value, hvalue, hform⟩
        exact ⟨hcovered, value, (prop_obj_iff hdistinct.1).mp hvalue, hform⟩
  | _ => rfl

theorem step_signedForm {v : JsonValue} (hdistinct : Distinct v) {s : Step}
    (hcovered : s.covered = true) :
    (signedForm localeLess v).step s = (v.step s).map (signedForm localeLess) := by
  cases s with
  | key name =>
      have hname : isSignatureMetadata name = false := by simpa [Step.covered] using hcovered
      exact prop_signedForm hdistinct hname
  | index i =>
      cases v with
      | arr items =>
          rw [signedForm_arr]
          exact List.getElem?_map
      | obj fields =>
          obtain ⟨covered, -, hform⟩ := exists_signedForm_obj localeLess fields
          rw [hform]
          rfl
      | _ => rfl

theorem Distinct.step {v w : JsonValue} {s : Step} (h : Distinct v) (hstep : v.step s = some w) :
    Distinct w := by
  cases s with
  | key name => exact h.prop hstep
  | index i =>
      cases v with
      | arr items => exact distinctItems_iff.mp h w (List.mem_of_getElem? hstep)
      | _ => cases hstep

/-- **SIGNED READS**: a path without a signature field reads the same in the signed
    form. -/
theorem read_signedForm {path : List Step} (hcovered : path.all Step.covered = true)
    {v : JsonValue} (hdistinct : Distinct v) :
    read path (signedForm localeLess v) = read path v := by
  induction path generalizing v with
  | nil => exact congrArg some (shape_signedForm v)
  | cons s path ih =>
      rw [List.all_cons, Bool.and_eq_true] at hcovered
      rw [read, read, step_signedForm hdistinct hcovered.1]
      cases hstep : v.step s with
      | none => rfl
      | some w => exact ih hcovered.2 (hdistinct.step hstep)

/-- Documents with one signed form are signed alike. -/
theorem signedAlike_of_signedForm {v w : JsonValue} (hv : Distinct v) (hw : Distinct w)
    (h : signedForm localeLess v = signedForm localeLess w) : SignedAlike v w := by
  intro path hcovered
  rw [← read_signedForm hcovered hv, h, read_signedForm hcovered hw]

/-! ## What the services read -/

namespace SignedAlike

variable {v w : JsonValue}

theorem shape_eq (h : SignedAlike v w) : v.shape = w.shape := Option.some.inj (h [] rfl)

/-- **STEP**: a covered step leads nowhere in both, or to parts that are signed alike. -/
theorem step_rel (h : SignedAlike v w) {s : Step} (hcovered : s.covered = true) :
    Option.Rel SignedAlike (v.step s) (w.step s) := by
  have hread : ∀ path, path.all Step.covered = true →
      (v.step s).bind (read path) = (w.step s).bind (read path) := by
    intro path hpath
    exact h (s :: path) (by rw [List.all_cons, hcovered, hpath]; rfl)
  cases hv : v.step s with
  | none =>
      cases hw : w.step s with
      | none => exact .none
      | some b =>
          have hnil := hread [] rfl
          rw [hv, hw] at hnil
          cases hnil
  | some a =>
      cases hw : w.step s with
      | none =>
          have hnil := hread [] rfl
          rw [hv, hw] at hnil
          cases hnil
      | some b =>
          refine .some fun path hpath => ?_
          have hparts := hread path hpath
          rw [hv, hw] at hparts
          exact hparts

theorem prop_rel (h : SignedAlike v w) (key : String)
    (hcovered : isSignatureMetadata key = false) :
    Option.Rel SignedAlike (v.prop key) (w.prop key) :=
  @step_rel v w h (.key key) (by simp [Step.covered, hcovered])

/-- What is read off a shape is the same. -/
theorem eq_of_shape {α : Type} (h : SignedAlike v w) {f : JsonValue → α} {g : Shape → α}
    (hf : ∀ v, f v = g v.shape) : f v = f w := by
  rw [hf, hf, h.shape_eq]

theorem asString_eq (h : SignedAlike v w) : v.asString = w.asString :=
  h.eq_of_shape (g := fun | .str s => some s | _ => none) fun v => by cases v <;> rfl

theorem asBool_eq (h : SignedAlike v w) : v.asBool = w.asBool :=
  h.eq_of_shape (g := fun | .bool b => some b | _ => none) fun v => by cases v <;> rfl

theorem asNumber_eq (h : SignedAlike v w) : v.asNumber = w.asNumber :=
  h.eq_of_shape (g := fun | .num n => some n | _ => none) fun v => by cases v <;> rfl

theorem isRecord_eq (h : SignedAlike v w) : v.isRecord = w.isRecord :=
  h.eq_of_shape (g := fun | .obj => true | _ => false) fun v => by cases v <;> rfl

/-- **ITEMS**: arrays that are signed alike have items that are, in their order. -/
theorem items_rel {items items' : List JsonValue} (h : SignedAlike (arr items) (arr items')) :
    List.Forall₂ SignedAlike items items' := by
  have hlength : items.length = items'.length := Shape.arr.inj h.shape_eq
  refine List.forall₂_iff_get.mpr ⟨hlength, fun i hi hi' => ?_⟩
  have hstep : Option.Rel SignedAlike items[i]? items'[i]? := h.step_rel (s := .index i) rfl
  rw [List.getElem?_eq_getElem hi, List.getElem?_eq_getElem hi'] at hstep
  cases hstep with
  | some hitem => exact hitem

theorem asArray_rel (h : SignedAlike v w) :
    Option.Rel (List.Forall₂ SignedAlike) v.asArray w.asArray := by
  have hisSome : v.asArray.isSome = w.asArray.isSome :=
    h.eq_of_shape (f := fun v => v.asArray.isSome) (g := fun | .arr _ => true | _ => false)
      fun v => by cases v <;> rfl
  cases v with
  | arr items =>
      cases w with
      | arr items' => exact .some h.items_rel
      | _ => cases hisSome
  | _ =>
      cases w with
      | arr items' => cases hisSome
      | _ => exact .none

end SignedAlike

/-- Related options, continued by functions that agree on related values. -/
theorem bind_eq_of_rel {α β γ : Type} {R : α → β → Prop} {x : Option α} {y : Option β}
    {f : α → Option γ} {g : β → Option γ} (h : Option.Rel R x y)
    (hfg : ∀ a b, R a b → f a = g b) : x.bind f = y.bind g := by
  cases h with
  | none => rfl
  | some hab => exact hfg _ _ hab

namespace SignedAlike

variable {v w : JsonValue}

theorem stringField_eq (h : SignedAlike v w) (key : String)
    (hcovered : isSignatureMetadata key = false) :
    v.stringField key = w.stringField key :=
  bind_eq_of_rel (h.prop_rel key hcovered) fun _ _ h => h.asString_eq

theorem arrayField_rel (h : SignedAlike v w) (key : String)
    (hcovered : isSignatureMetadata key = false) :
    Option.Rel (List.Forall₂ SignedAlike) (v.arrayField key) (w.arrayField key) := by
  have hprop := h.prop_rel key hcovered
  rw [arrayField, arrayField]
  revert hprop
  generalize v.prop key = x
  generalize w.prop key = y
  rintro (hab | _)
  · exact hab.asArray_rel
  · exact .none

theorem optionalStringField_eq (h : SignedAlike v w) (key : String)
    (hcovered : isSignatureMetadata key = false) :
    v.optionalStringField key = w.optionalStringField key := by
  have hprop := h.prop_rel key hcovered
  rw [optionalStringField, optionalStringField]
  revert hprop
  generalize v.prop key = x
  generalize w.prop key = y
  rintro (hab | _)
  · exact congrArg (Option.map some) hab.asString_eq
  · rfl

theorem nonNull_rel (h : SignedAlike v w) (key : String)
    (hcovered : isSignatureMetadata key = false) :
    Option.Rel SignedAlike (v.nonNull key) (w.nonNull key) := by
  have hprop := h.prop_rel key hcovered
  rw [nonNull, nonNull]
  revert hprop
  generalize v.prop key = x
  generalize w.prop key = y
  rintro (@⟨a, b, hab⟩ | _)
  · have hshape := hab.shape_eq
    cases a with
    | null =>
        cases b with
        | null => exact .none
        | _ => cases hshape
    | _ =>
        cases b with
        | null => cases hshape
        | _ => exact .some hab
  · exact .none

/-- A decoder that reads only what is signed decodes alike lists alike. -/
theorem mapM_eq {m : Type → Type} [Monad m] [LawfulMonad m] {α : Type} {f : JsonValue → m α}
    (hf : ∀ a b, SignedAlike a b → f a = f b) {items items' : List JsonValue}
    (h : List.Forall₂ SignedAlike items items') : items.mapM f = items'.mapM f := by
  induction h with
  | nil => rfl
  | cons hitem _ ih => rw [List.mapM_cons, List.mapM_cons, hf _ _ hitem, ih]

end SignedAlike

end JsonValue
