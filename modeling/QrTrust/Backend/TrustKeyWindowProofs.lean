import QrTrust.Backend.TrustKeyEnrolment
import QrTrust.Network.KeyRotationProofs

/-! # Enrolled windows and accepted signatures

    A key is enrolled with a scope, a signer and a window.  The registry reads
    the row of the key back without its window, so the network accepts what the
    key signed whether or not the time is inside; scope, signer and status are
    those of the table. -/

namespace TrustKeyWindow

open TrustKeys PostgresTrustKeys TrustKeyEnrolment SignatureVerification SignatureAcceptance
open KeyRotation (artifactSignedBy artifactSignedBy_signature artifactSignedBy_supported
  inlineMaterial namingHost namingHost_verifies)

variable {host : SignatureHost} {keyMaterial : KeyMaterialProvider}
  {collation : String → String → Bool} {calls : List Call}
  {table : TrustKeyTable} {artifact : JsonValue} {t : Int}

/-- **IN THE WINDOW**: `not_before <= t < not_after`, where the row has them. -/
def InWindow (row : TrustKeyRow) (t : Int) : Prop :=
  (∀ notBefore, row.notBefore = some notBefore → notBefore ≤ t)
    ∧ ∀ notAfter, row.notAfter = some notAfter → t < notAfter

/-- The network accepts the artifact over the table. -/
def AcceptedOver (host : SignatureHost) (collation : String → String → Bool)
    (table : TrustKeyTable) (keyMaterial : KeyMaterialProvider) (artifact : JsonValue) : Prop :=
  ∃ reason, verifyTrustArtifact host (PostgresTrustKeys.lookupSignerKey collation table)
    keyMaterial artifact = .ok ⟨true, reason⟩

/-- The row of the key that decides about an artifact: the first usable one. -/
def decidingRow (collation : String → String → Bool) (table : TrustKeyTable)
    (artifact : JsonValue) : Option TrustKeyRow :=
  (orderedRows collation table).find? fun row =>
    usableFor artifact (trustKeyRecordFromRow row)

/-- **ACCEPTANCE OVER THE TABLE**: the deciding row verifies the artifact. -/
theorem acceptedOver_iff :
    AcceptedOver host collation table keyMaterial artifact ↔
      Supported artifact ∧ ∃ row, decidingRow collation table artifact = some row
        ∧ Verifies host keyMaterial artifact (trustKeyRecordFromRow row) := by
  have hlookup : PostgresTrustKeys.lookupSignerKey collation table
      = selectTrustKeyForLookup (registryKeys collation table) :=
    funext (lookupSignerKey_eq collation table)
  rw [AcceptedOver, hlookup]
  show Accepts host (registryKeys collation table) keyMaterial artifact ↔ _
  rw [accepts_iff, registryKeys, List.find?_map, decidingRow]
  refine and_congr_right fun _ => ?_
  constructor
  · rintro ⟨key, hfind, hverifies⟩
    obtain ⟨row, hrow, rfl⟩ := Option.map_eq_some_iff.mp hfind
    exact ⟨row, hrow, hverifies⟩
  · rintro ⟨row, hrow, hverifies⟩
    exact ⟨_, Option.map_eq_some_iff.mpr ⟨row, hrow, rfl⟩, hverifies⟩

/-- **SIGNED AS ENROLLED**: the key that decides about the artifact was enrolled
    by the run, is active, signs as the signer under the root and in the scope it
    was enrolled with, and the time is inside its window. -/
structure SignedAsEnrolled (calls : List Call) (collation : String → String → Bool) (artifact : JsonValue)
    (t : Int) (row enrolled : TrustKeyRow) : Prop where
  decides : decidingRow collation (run calls) artifact = some row
  byRun : Enrolled calls enrolled
  same : SameEnrolment enrolled row
  active : row.keyStatus = .active
  signer : artifact.stringField "signed_by" = some enrolled.signerId
  root : artifact.stringField "root_program_id" = some enrolled.rootProgramId
  scope : row.scope = enrolled.scope
  window : InWindow enrolled t

/-- What is accepted was signed as enrolled. -/
def AcceptedAsEnrolled (host : SignatureHost) (collation : String → String → Bool)
    (calls : List Call) (keyMaterial : KeyMaterialProvider)
    (artifact : JsonValue) (t : Int) : Prop :=
  AcceptedOver host collation (run calls) keyMaterial artifact →
    ∃ row enrolled, SignedAsEnrolled calls collation artifact t row enrolled

/-- **SIGNED INSIDE**: a deciding row that verifies a supported artifact has the
    time in its window. -/
def SignedInside (host : SignatureHost) (collation : String → String → Bool)
    (table : TrustKeyTable) (keyMaterial : KeyMaterialProvider) (artifact : JsonValue)
    (t : Int) : Prop :=
  ∀ row, decidingRow collation table artifact = some row → Supported artifact →
    Verifies host keyMaterial artifact (trustKeyRecordFromRow row) → InWindow row t

/-- The window of a row is the one it was enrolled with. -/
theorem inWindow_same {enrolled row : TrustKeyRow} (h : SameEnrolment enrolled row) :
    InWindow enrolled t ↔ InWindow row t := by
  rw [h]
  rfl

/-- A usable key is active and signs for the signer and the root the artifact
    names. -/
theorem usableFor_row {row : TrustKeyRow}
    (h : usableFor artifact (trustKeyRecordFromRow row) = true) :
    row.keyStatus = .active ∧ artifact.stringField "signed_by" = some row.signerId
      ∧ artifact.stringField "root_program_id" = some row.rootProgramId := by
  obtain ⟨input, hinput, husable⟩ := (Option.any_eq_true ..).mp h
  obtain ⟨accepted, -, hlookup⟩ := Option.bind_eq_some_iff.mp hinput
  obtain ⟨signedBy, hsigner, hlookup⟩ := Option.bind_eq_some_iff.mp hlookup
  obtain ⟨rootProgramId, hroot, hlookup⟩ := Option.bind_eq_some_iff.mp hlookup
  obtain rfl := Option.some.inj hlookup
  obtain ⟨hkeySigner, hkeyRoot, -, -, hactive⟩ := usableKey_iff.mp husable
  exact ⟨hactive, hsigner.trans (congrArg some hkeySigner.symm),
    hroot.trans (congrArg some hkeyRoot.symm)⟩

/-- **ACCEPTED AS ENROLLED**: after every run of enrolments and status changes and
    at every time, what the network accepts was signed as enrolled if and only if
    the time is in the window of the deciding key. -/
theorem accepted_as_enrolled_iff (host : SignatureHost) (collation : String → String → Bool)
    (calls : List Call) (keyMaterial : KeyMaterialProvider)
    (artifact : JsonValue) (t : Int) :
    AcceptedAsEnrolled host collation calls keyMaterial artifact t ↔
      SignedInside host collation (run calls) keyMaterial artifact t := by
  constructor
  · intro hall row hrow hsupported hverifies
    obtain ⟨row', enrolled, hsigned⟩ := hall (acceptedOver_iff.mpr
      ⟨hsupported, row, hrow, hverifies⟩)
    obtain rfl := Option.some.inj (hrow.symm.trans hsigned.decides)
    exact (inWindow_same hsigned.same).mp hsigned.window
  · intro hinside haccepted
    obtain ⟨hsupported, row, hrow, hverifies⟩ := acceptedOver_iff.mp haccepted
    have hmem := mem_orderedRows.mp (List.mem_of_find?_eq_some hrow)
    obtain ⟨keyId, hentry⟩ := OrderedMap.mem_values.mp hmem
    have hfind : (run calls).find? keyId = some row :=
      (OrderedMap.get?_eq_some_iff ..).mpr hentry
    obtain ⟨enrolled, henrolled, hsame⟩ := enrolled_of_find? hfind
    have husable := List.find?_some hrow
    obtain ⟨hactive, hsigner, hroot⟩ := usableFor_row husable
    have hsignerId : row.signerId = enrolled.signerId := by rw [hsame]
    have hrootId : row.rootProgramId = enrolled.rootProgramId := by rw [hsame]
    have hscope : row.scope = enrolled.scope := by rw [hsame]
    rw [hsignerId] at hsigner
    rw [hrootId] at hroot
    exact ⟨row, enrolled, hrow, henrolled, hsame, hactive, hsigner, hroot, hscope,
      (inWindow_same hsame).mpr (hinside row hrow hsupported hverifies)⟩

/-! ## A key accepted before its window -/

/-- The authority of the key, and its root. -/
def demoReferences : ReferencedRows where
  rootPrograms := ["root:demo"]
  delegatedAuthorities := [("root:demo", "authority:demo")]

/-- An authority key enrolled at time 0 for the times from 1000 on. -/
def futureEnrolment : Call :=
  .enrol
    { request :=
        { keyId := "key:authority:v1", rootProgramId := "root:demo"
          delegatedAuthorityId := some "authority:demo", signerId := "authority:demo"
          algorithmId := "ed25519", publicKeyMaterialRef := "pem://authority/v1"
          publicKeyMaterialPem := some "pem:v1", scope := .delegatedAuthority
          notBefore := some (.utc 1000), notAfter := none }
      now := 0
      idempotency := .fresh
      references := demoReferences }

/-- The row of the key. -/
def futureRow : TrustKeyRow where
  keyId := "key:authority:v1"
  rootProgramId := "root:demo"
  delegatedAuthorityId := some "authority:demo"
  signerId := "authority:demo"
  algorithmId := "ed25519"
  publicKeyMaterialRef := "pem://authority/v1"
  publicKeyMaterialPem := some "pem:v1"
  scope := .delegatedAuthority
  keyStatus := .active
  notBefore := some 1000
  notAfter := none
  createdAt := 0

theorem futureRow_decides :
    decidingRow (fun a b => a ≤ b) (run [futureEnrolment]) (artifactSignedBy "v1")
      = some futureRow := by
  decide +kernel

/-- **ACCEPTED TOO EARLY**: at time 500 the network accepts an artifact signed with
    a key whose window opens at time 1000. -/
theorem accepted_before_window :
    AcceptedOver namingHost (fun a b => a ≤ b) (run [futureEnrolment])
        inlineMaterial (artifactSignedBy "v1")
      ∧ ¬ AcceptedAsEnrolled namingHost (fun a b => a ≤ b) [futureEnrolment]
        inlineMaterial (artifactSignedBy "v1") 500 := by
  have hverifies : Verifies namingHost inlineMaterial (artifactSignedBy "v1")
      (trustKeyRecordFromRow futureRow) :=
    ⟨_, _, artifactSignedBy_signature "v1", rfl, namingHost_verifies.mpr rfl⟩
  have haccepted := acceptedOver_iff.mpr
    ⟨artifactSignedBy_supported "v1", futureRow, futureRow_decides, hverifies⟩
  refine ⟨haccepted, fun hall => ?_⟩
  obtain ⟨row, enrolled, hsigned⟩ := hall haccepted
  obtain rfl := Option.some.inj (futureRow_decides.symm.trans hsigned.decides)
  have hopen := ((inWindow_same hsigned.same).mp hsigned.window).1 1000 rfl
  exact absurd hopen (by decide)

end TrustKeyWindow
