import QrTrust.Lib.Separated
import QrTrust.Network.GovernanceRoundTripProofs

/-! # What artifact ids tell apart

    The id of an artifact is made of one id of its object, reduced to the runs of
    letters and digits in it, and says nothing about the rest of the object's key.
    Two objects get different ids exactly when these runs (and the version of a
    policy) differ (`artifact_ids_distinct_iff`), so an authority of one root and
    an authority of the same name of another share their artifact
    (`same_authority_name_collides`). -/

namespace ArtifactIdentity

open GovernancePublicationSource

variable {host : PlanningHost}

/-! ## Governance objects -/

/-- A governance object, by the key the schema gives it. -/
inductive GovernanceObject where
  | root (rootProgramId : String)
  | authority (rootProgramId delegatedAuthorityId : String)
  | issuer (rootProgramId delegatedAuthorityId issuerId : String)
  | policy (rootProgramId delegatedAuthorityId issuerId destinationPolicyId : String)
      (version : Rat)
  deriving DecidableEq, Repr

/-- The objects of a bundle row, with the ids planned for their artifacts. -/
def plannedArtifacts (host : PlanningHost) (row : PostgresGovernancePublicationBundleRow) :
    List (GovernanceObject × String) :=
  let ids := governanceArtifactIds host row
  [(.root row.rootProgramId, ids.rootManifestArtifactId),
    (.authority row.rootProgramId row.delegatedAuthorityId, ids.delegatedAuthorityArtifactId),
    (.issuer row.rootProgramId row.delegatedAuthorityId row.issuerId, ids.issuerRecordArtifactId),
    (.policy row.rootProgramId row.delegatedAuthorityId row.issuerId row.destinationPolicyId
      row.destinationPolicyVersion, ids.destinationPolicyArtifactId)]

/-- The runs of letters and digits in an id, without its prefix and version. -/
def slugRuns (host : PlanningHost) (value family : String) : List (List Char) :=
  let unprefixed :=
    if JsString.startsWith value (family ++ ":") then
      String.ofList (value.toList.drop (family ++ ":").length)
    else value
  ((host.js.toLowerCase (dropVersionSuffix unprefixed)).toList.splitOnP
    fun c => !isSlugChar c).filter (· ≠ [])

/-- What the id of an artifact is made of: the kind of object, the runs of its own
    id, and the version where the id has it. -/
def idParts (host : PlanningHost) : GovernanceObject → String × List (List Char) × String
  | .root root => ("root", slugRuns host root "root", "1")
  | .authority _ authority => ("authority", slugRuns host authority "authority", "1")
  | .issuer _ _ issuer => ("issuer", slugRuns host issuer "issuer", "1")
  | .policy _ _ _ policy version =>
      ("policy", slugRuns host policy "policy", host.numberText version)

/-! ## Slugs -/

/-- No piece has a separator in it. -/
theorem mem_splitOnP {α : Type} {p : α → Bool} {l piece : List α} {c : α}
    (hpiece : piece ∈ l.splitOnP p) (hc : c ∈ piece) : p c = false := by
  induction l generalizing piece with
  | nil =>
      rw [List.splitOnP_nil, List.mem_singleton] at hpiece
      rw [hpiece] at hc
      cases hc
  | cons x xs ih =>
      rw [List.splitOnP_cons_eq_if_modifyHead] at hpiece
      split at hpiece
      · rcases List.mem_cons.mp hpiece with rfl | hpiece
        · cases hc
        · exact ih hpiece hc
      · rename_i hx
        obtain ⟨head, tail, hsplit⟩ := List.exists_cons_of_ne_nil (List.splitOnP_ne_nil p xs)
        rw [hsplit, List.modifyHead_cons] at hpiece
        rcases List.mem_cons.mp hpiece with rfl | hpiece
        · rcases List.mem_cons.mp hc with rfl | hc
          · exact Bool.eq_false_iff.mpr hx
          · exact ih (hsplit ▸ List.mem_cons_self ..) hc
        · exact ih (hsplit ▸ List.mem_cons_of_mem _ hpiece) hc

/-- The runs are not empty, and have no underscore in them. -/
theorem slugRuns_pieces (host : PlanningHost) (value family : String) :
    ∀ run ∈ slugRuns host value family, run ≠ [] ∧ '_' ∉ run := by
  intro run hrun
  obtain ⟨hsplit, hne⟩ := List.mem_filter.mp hrun
  refine ⟨of_decide_eq_true hne, fun hunderscore => ?_⟩
  have hslug := mem_splitOnP hsplit hunderscore
  revert hslug
  decide

/-! ## Artifact ids -/

/-- The id of an artifact, from its parts. -/
def artifactId (kind : String) (runs : List (List Char)) (version : String) : String :=
  "art_" ++ kind ++ "_" ++ String.ofList (Separated.joined '_' runs) ++ "_v" ++ version

/-- Every planned id is the id of the parts of its object. -/
theorem plannedArtifacts_eq {row : PostgresGovernancePublicationBundleRow}
    {object : GovernanceObject} {id : String} (h : (object, id) ∈ plannedArtifacts host row) :
    id = artifactId (idParts host object).1 (idParts host object).2.1
      (idParts host object).2.2 := by
  have hversion : ∀ slug : String, slug ++ "_v1" = slug ++ "_v" ++ "1" := by
    intro slug
    rw [String.append_assoc]
    rfl
  simp only [plannedArtifacts, List.mem_cons, Prod.mk.injEq, List.not_mem_nil, or_false] at h
  rcases h with ⟨rfl, rfl⟩ | ⟨rfl, rfl⟩ | ⟨rfl, rfl⟩ | ⟨rfl, rfl⟩
  · exact hversion _
  · exact hversion _
  · exact hversion _
  · rfl

/-- What the parts of an id never contain. -/
theorem idParts_plain (hnumber : ∀ n, '_' ∉ (host.numberText n).toList)
    (object : GovernanceObject) :
    '_' ∉ (idParts host object).1.toList ∧ '_' ∉ (idParts host object).2.2.toList := by
  have hone : '_' ∉ "1".toList := by decide
  have hkinds : ∀ kind ∈ ["root", "authority", "issuer", "policy"], '_' ∉ kind.toList := by decide
  cases object with
  | root root => exact ⟨hkinds "root" (by decide), hone⟩
  | authority root authority => exact ⟨hkinds "authority" (by decide), hone⟩
  | issuer root authority issuer => exact ⟨hkinds "issuer" (by decide), hone⟩
  | policy root authority issuer policy version =>
      exact ⟨hkinds "policy" (by decide), hnumber version⟩

/-- The runs of an object are runs of a slug. -/
theorem idParts_pieces (object : GovernanceObject) :
    ∀ run ∈ (idParts host object).2.1, run ≠ [] ∧ '_' ∉ run := by
  cases object with
  | root root => exact slugRuns_pieces host root "root"
  | authority root authority => exact slugRuns_pieces host authority "authority"
  | issuer root authority issuer => exact slugRuns_pieces host issuer "issuer"
  | policy root authority issuer policy version => exact slugRuns_pieces host policy "policy"

/-- **IDS**: an artifact id determines its parts, the runs up to their slug. -/
theorem artifactId_inj {kind kind' version version' : String} {runs runs' : List (List Char)}
    (hkind : '_' ∉ kind.toList) (hkind' : '_' ∉ kind'.toList) (hversion : '_' ∉ version.toList)
    (hversion' : '_' ∉ version'.toList)
    (h : artifactId kind runs version = artifactId kind' runs' version') :
    kind = kind' ∧ Separated.joined '_' runs = Separated.joined '_' runs' ∧ version = version' := by
  have hsplit : ∀ (kind version : String) (runs : List (List Char)),
      (artifactId kind runs version).toList
        = "art_".toList ++ (kind.toList ++ '_' ::
            (Separated.joined '_' runs ++ '_' :: 'v' :: version.toList)) := by
    intro kind version runs
    simp [artifactId, String.toList_append]
  have hchars := congrArg String.toList h
  rw [hsplit, hsplit] at hchars
  obtain ⟨hk, hrest⟩ := Separated.first_separator hkind hkind' (List.append_cancel_left hchars)
  have hmarked : ∀ {version : String}, '_' ∉ version.toList → '_' ∉ 'v' :: version.toList := by
    intro version hplain hmem
    rcases List.mem_cons.mp hmem with hv | hmem
    · exact absurd hv (by decide)
    · exact hplain hmem
  obtain ⟨hruns, hv⟩ := Separated.last_separator (hmarked hversion) (hmarked hversion') hrest
  exact ⟨String.toList_injective hk, hruns, String.toList_injective (List.cons.inj hv).2⟩

/-- **IDENTITY**: the planned ids tell the objects of two bundle rows apart if and
    only if no two objects of the rows have the same parts: the kind, the runs of
    letters and digits in their own id, and the version of a policy. -/
theorem artifact_ids_distinct_iff (hnumber : ∀ n, '_' ∉ (host.numberText n).toList)
    (row row' : PostgresGovernancePublicationBundleRow) :
    (∀ planned ∈ plannedArtifacts host row, ∀ planned' ∈ plannedArtifacts host row',
        planned.1 ≠ planned'.1 → planned.2 ≠ planned'.2)
      ↔ ∀ planned ∈ plannedArtifacts host row, ∀ planned' ∈ plannedArtifacts host row',
          idParts host planned.1 = idParts host planned'.1 → planned.1 = planned'.1 := by
  have hids : ∀ planned ∈ plannedArtifacts host row, ∀ planned' ∈ plannedArtifacts host row',
      planned.2 = planned'.2 ↔ idParts host planned.1 = idParts host planned'.1 := by
    rintro ⟨object, id⟩ hmem ⟨object', id'⟩ hmem'
    rw [plannedArtifacts_eq hmem, plannedArtifacts_eq hmem']
    constructor
    · intro hid
      obtain ⟨hkind, hversion⟩ := idParts_plain hnumber object
      obtain ⟨hkind', hversion'⟩ := idParts_plain hnumber object'
      obtain ⟨hk, hjoined, hv⟩ := artifactId_inj hkind hkind' hversion hversion' hid
      have hruns := Separated.joined_injective (idParts_pieces object) (idParts_pieces object')
        hjoined
      exact Prod.ext hk (Prod.ext hruns hv)
    · intro hparts
      dsimp only at hparts ⊢
      rw [hparts]
  constructor
  · intro hdistinct planned hmem planned' hmem' hparts
    by_contra hne
    exact hdistinct planned hmem planned' hmem' hne ((hids planned hmem planned' hmem').mpr hparts)
  · intro hparts planned hmem planned' hmem' hne hid
    exact hne (hparts planned hmem planned' hmem' ((hids planned hmem planned' hmem').mp hid))

/-- A second root program with an authority of the same name. -/
def otherRootRow : PostgresGovernancePublicationBundleRow :=
  { GovernanceRoundTrip.demoRow ["ed25519"] with
    rootProgramId := "root:qrtrust-pilot:2026"
    rootProgramId_ne := by decide }

/-- **COLLISION**: authorities of one name share their artifact, whatever their roots
    and whatever else the rows have. -/
theorem authority_artifact_shared {row row' : PostgresGovernancePublicationBundleRow}
    (h : row.delegatedAuthorityId = row'.delegatedAuthorityId) :
    (governanceArtifactIds host row).delegatedAuthorityArtifactId
      = (governanceArtifactIds host row').delegatedAuthorityArtifactId := by
  rw [governanceArtifactIds, governanceArtifactIds, h]

/-- The demo row plans four objects, and their ids tell them apart. -/
theorem artifact_ids_distinct_demo :
    (plannedArtifacts GovernanceRoundTrip.demoPlanningHost
        (GovernanceRoundTrip.demoRow ["ed25519"])).length = 4
      ∧ ∀ planned ∈ plannedArtifacts GovernanceRoundTrip.demoPlanningHost
          (GovernanceRoundTrip.demoRow ["ed25519"]),
        ∀ planned' ∈ plannedArtifacts GovernanceRoundTrip.demoPlanningHost
          (GovernanceRoundTrip.demoRow ["ed25519"]),
          planned.1 ≠ planned'.1 → planned.2 ≠ planned'.2 := by
  have hplain : '_' ∉ "1".toList := by decide
  refine ⟨rfl, (artifact_ids_distinct_iff (fun _ => hplain) _ _).mpr ?_⟩
  decide +kernel

/-- The same authority name under two roots: two authorities, one artifact id. -/
theorem same_authority_name_collides :
    ∃ planned ∈ plannedArtifacts GovernanceRoundTrip.demoPlanningHost
        (GovernanceRoundTrip.demoRow ["ed25519"]),
      ∃ planned' ∈ plannedArtifacts GovernanceRoundTrip.demoPlanningHost otherRootRow,
        planned.1 ≠ planned'.1 ∧ planned.2 = planned'.2 := by
  have hauthority := @authority_artifact_shared GovernanceRoundTrip.demoPlanningHost
    (GovernanceRoundTrip.demoRow ["ed25519"]) otherRootRow rfl
  exact ⟨_, List.mem_cons_of_mem _ (List.mem_cons_self ..), _,
    List.mem_cons_of_mem _ (List.mem_cons_self ..), by decide, hauthority⟩

end ArtifactIdentity
