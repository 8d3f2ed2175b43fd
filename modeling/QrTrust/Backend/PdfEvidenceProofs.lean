import QrTrust.Backend.HostCanonicalizationProofs
import QrTrust.Backend.QrArtifact
import Mathlib.Algebra.BigOperators.Group.Finset.Basic
import Mathlib.Algebra.Order.BigOperators.Group.Finset
import Mathlib.Data.List.Sort
import Mathlib.Data.Set.Lattice
import Mathlib.Data.String.Basic

/-! # Evidence of a PDF

    What an inspection reports follows from its indicators: their weights are its risk
    score, and any one of them a warning (`IsInspected`).  So a rendered page whose
    payloads and indicators another item has adds nothing to the container, and
    leaving it out is neutral (`analyzeQrArtifactPdfBytes_neutral`). -/

namespace QrArtifact

open Subsumption Fallible DestinationCanonicalization

/-! ## Sorted sets -/

/-- A sorted set is known by its members. -/
theorem sortedSet_congr {values values' : List String} (h : ∀ x, x ∈ values ↔ x ∈ values') :
    sortedSet values = sortedSet values' := by
  have hperm : values.dedup.Perm values'.dedup := by
    rw [List.perm_ext_iff_of_nodup (List.nodup_dedup _) (List.nodup_dedup _)]
    intro x
    rw [List.mem_dedup, List.mem_dedup]
    exact h x
  have hsorted : ∀ l : List String, (l.mergeSort (fun a b => decide (a ≤ b))).Pairwise (· ≤ ·) :=
    fun l => List.pairwise_mergeSort' (· ≤ ·) l
  exact (((List.mergeSort_perm _ _).trans hperm).trans (List.mergeSort_perm _ _).symm).eq_of_pairwise'
    (hsorted _) (hsorted _)

/-! ## Inspections -/

/-- The weights of the indicators. -/
def indicatorWeights : List (String × Nat) :=
  [("multiple_qr_symbols", 35), ("conflicting_qr_payloads", 45), ("low_quiet_zone", 15),
    ("colored_overlay_frame", 25), ("perspective_distortion", 20)]

/-- The weight of an indicator. -/
def weightOf (indicator : String) : Nat :=
  ((indicatorWeights.find? fun entry => entry.1 = indicator).map Prod.snd).getD 0

section
variable {ρ : Type}

/-- The report follows from its indicators. -/
structure IsInspected (analysis : QRArtifactAnalysis ρ) : Prop where
  integrity : analysis.artifactIntegrity = "warn" ↔ analysis.tamperIndicators ≠ []
  risk : analysis.riskScore = ∑ indicator ∈ analysis.tamperIndicators.toFinset, weightOf indicator

variable {Image Quad : Type} {py : PyRuntime} {config : ArtifactConfig}
  {libraries : ImageLibraries Image Quad ρ}

theorem map_tamperSignals (image : Image) (polygons : List Quad) (decodedSymbolCount : Nat)
    (decodedPayloads : List String) (bounds reportedBounds : Option (QRArtifactBounds ρ)) :
    (tamperSignals libraries image polygons decodedSymbolCount decodedPayloads bounds
      reportedBounds).map (fun signal => (signal.1, signal.2.1)) = indicatorWeights := rfl

/-- **WEIGHTS**: the weights of raised signals are those of their names. -/
theorem sum_raised {signals : List (String × Nat × Bool)}
    (hsignals : signals.map (fun signal => (signal.1, signal.2.1)) = indicatorWeights) :
    ((signals.filter fun signal => signal.2.2).map fun signal => signal.2.1).sum
      = ∑ indicator ∈ ((signals.filter fun signal => signal.2.2).map fun signal =>
          signal.1).toFinset, weightOf indicator := by
  have hnames : signals.map (fun signal => signal.1) = indicatorWeights.map Prod.fst := by
    rw [← hsignals, List.map_map]
    rfl
  have hnodup : ((signals.filter fun signal => signal.2.2).map fun signal => signal.1).Nodup := by
    have hall : (signals.map fun signal => signal.1).Nodup := hnames ▸ by decide
    exact hall.sublist (List.filter_sublist.map _)
  have hweights : ∀ entry ∈ indicatorWeights, weightOf entry.1 = entry.2 := by decide
  rw [List.sum_toFinset _ hnodup, List.map_map]
  refine congrArg List.sum (List.map_congr_left fun signal hsignal => ?_)
  have hmem : (signal.1, signal.2.1) ∈ indicatorWeights :=
    hsignals ▸ List.mem_map_of_mem (List.mem_of_mem_filter hsignal)
  exact (hweights _ hmem).symm

theorem warn_iff {raised : List (String × Nat × Bool)} :
    (if raised = [] then "pass" else "warn") = "warn"
      ↔ raised.map (fun signal => signal.1) ≠ [] := by
  by_cases hnone : raised = []
  · rw [if_pos hnone, hnone]
    exact ⟨fun hwarn => absurd hwarn (by decide), fun hne => absurd rfl hne⟩
  · rw [if_neg hnone]
    exact ⟨fun _ hnil => hnone (List.map_eq_nil_iff.mp hnil), fun _ => rfl⟩

/-- **INSPECTION**: what the inspection of an image returns. -/
theorem isInspected_of_analyzed {pngBytes : List UInt8} {analysis : QRArtifactAnalysis ρ}
    (h : analyzeQrArtifactFromPngBytes py config libraries pngBytes = .ok analysis) :
    IsInspected analysis := by
  rw [analyzeQrArtifactFromPngBytes] at h
  obtain ⟨image, -, h⟩ := bind_eq_ok_iff.mp h
  dsimp only at h
  split at h
  · cases h
  · obtain ⟨payload, -, h⟩ := bind_eq_ok_iff.mp h
    obtain ⟨payloadType, -, h⟩ := bind_eq_ok_iff.mp h
    obtain rfl := Except.ok.inj h
    exact ⟨warn_iff, sum_raised (map_tamperSignals ..)⟩

/-! ## Evidence of items -/

/-- The containers show the same evidence. -/
structure SameEvidence (container container' : QRArtifactContainerAnalysis ρ) : Prop where
  decodedPayloads : container.decodedPayloads = container'.decodedPayloads
  tamperIndicators : container.tamperIndicators = container'.tamperIndicators
  artifactIntegrity : container.artifactIntegrity = container'.artifactIntegrity
  riskScore : container.riskScore = container'.riskScore

theorem addRenderedItems_eq (items renderedItems : List (QRArtifactContainerItem ρ)) :
    addRenderedItems items renderedItems = keepUncovered coversCandidate items renderedItems := by
  have hstep : (fun (items : List (QRArtifactContainerItem ρ)) renderedItem =>
      if pdfRenderedItemAddsEvidence renderedItem items then items ++ [renderedItem] else items)
      = fun items renderedItem =>
        if items.any fun existing => coversCandidate existing renderedItem then items
        else items ++ [renderedItem] := by
    funext items renderedItem
    rw [pdfRenderedItemAddsEvidence]
    cases items.any fun existing => coversCandidate existing renderedItem with
    | true => rfl
    | false => rfl
  rw [addRenderedItems, hstep]
  rfl

theorem coversCandidate_iff {existing candidate : QRArtifactContainerItem ρ} :
    coversCandidate existing candidate = true ↔ candidate.analysis.decodedPayloads ≠ []
      ∧ candidate.analysis.decodedPayloads ⊆ existing.analysis.decodedPayloads
      ∧ candidate.analysis.tamperIndicators ⊆ existing.analysis.tamperIndicators :=
  decide_eq_true_iff

/-- **MONOTONE**: more indicators, no smaller score. -/
theorem IsInspected.riskScore_le {analysis analysis' : QRArtifactAnalysis ρ}
    (h : IsInspected analysis) (h' : IsInspected analysis')
    (hsub : analysis.tamperIndicators ⊆ analysis'.tamperIndicators) :
    analysis.riskScore ≤ analysis'.riskScore := by
  rw [h.risk, h'.risk]
  refine Finset.sum_le_sum_of_subset fun indicator hindicator => ?_
  rw [List.mem_toFinset] at hindicator ⊢
  exact hsub hindicator

theorem IsInspected.warn_of_warn {analysis analysis' : QRArtifactAnalysis ρ}
    (h : IsInspected analysis) (h' : IsInspected analysis')
    (hsub : analysis.tamperIndicators ⊆ analysis'.tamperIndicators)
    (hwarn : analysis.artifactIntegrity = "warn") : analysis'.artifactIntegrity = "warn" := by
  refine h'.integrity.mpr fun hnil => h.integrity.mp hwarn ?_
  rw [hnil] at hsub
  exact List.subset_nil.mp hsub

/-- **SETS**: the sorted set of what the items show is known from their join. -/
theorem sortedSet_flatMap_congr {items items' : List (QRArtifactContainerItem ρ)}
    {f : QRArtifactContainerItem ρ → List String}
    (h : joinOf (fun item => {x | x ∈ f item}) items = joinOf (fun item => {x | x ∈ f item}) items') :
    sortedSet (items.flatMap f) = sortedSet (items'.flatMap f) := by
  have hmem : ∀ (l : List (QRArtifactContainerItem ρ)) x,
      x ∈ l.flatMap f ↔ x ∈ joinOf (fun item => {x | x ∈ f item}) l := by
    intro l x
    rw [List.mem_flatMap, mem_joinOf_iff]
    rfl
  refine sortedSet_congr fun x => ?_
  rw [hmem, hmem, h]

theorem artifactIntegrity_congr {container container' : QRArtifactContainerAnalysis ρ}
    (h : joinOf (fun item => item.analysis.artifactIntegrity = "warn") container.items
      = joinOf (fun item => item.analysis.artifactIntegrity = "warn") container'.items) :
    container.artifactIntegrity = container'.artifactIntegrity := by
  have hany : ∀ items : List (QRArtifactContainerItem ρ),
      (items.any fun item => item.analysis.artifactIntegrity = "warn") = true ↔
        joinOf (fun item => item.analysis.artifactIntegrity = "warn") items := by
    intro items
    rw [joinOf_prop_iff, List.any_eq_true]
    simp only [decide_eq_true_eq]
  rw [QRArtifactContainerAnalysis.artifactIntegrity, QRArtifactContainerAnalysis.artifactIntegrity]
  refine if_congr ?_ rfl rfl
  rw [hany, hany, h]

/-- **NEUTRAL**: leaving out what adds no evidence leaves the evidence. -/
theorem sameEvidence_addRenderedItems {embedded rendered : List (QRArtifactContainerItem ρ)}
    (hinspected : ∀ item ∈ embedded ++ rendered, IsInspected item.analysis)
    {container : QRArtifactContainerAnalysis ρ}
    (hitems : container.items = addRenderedItems embedded rendered) :
    SameEvidence container { container with items := embedded ++ rendered } := by
  rw [addRenderedItems_eq] at hitems
  constructor
  · refine sortedSet_flatMap_congr ?_
    rw [hitems]
    refine joinOf_keepUncovered fun x _ y _ hcovers => ?_
    exact fun payload hpayload => (coversCandidate_iff.mp hcovers).2.1 hpayload
  · refine sortedSet_flatMap_congr ?_
    rw [hitems]
    refine joinOf_keepUncovered fun x _ y _ hcovers => ?_
    exact fun indicator hindicator => (coversCandidate_iff.mp hcovers).2.2 hindicator
  · refine artifactIntegrity_congr ?_
    rw [hitems]
    refine joinOf_keepUncovered fun x hx y hy hcovers => ?_
    exact (hinspected x hx).warn_of_warn (hinspected y hy) (coversCandidate_iff.mp hcovers).2.2
  · show joinOf (fun item => item.analysis.riskScore) container.items = joinOf _ _
    rw [hitems]
    refine joinOf_keepUncovered fun x hx y hy hcovers => ?_
    exact (hinspected x hx).riskScore_le (hinspected y hy) (coversCandidate_iff.mp hcovers).2.2

/-! ## Extracted items -/

theorem isInspected_of_candidate {imageBytes : List UInt8} {sourceLabel contentType : String}
    {filename : Option String} {item : QRArtifactContainerItem ρ}
    (h : analyzeQrImageCandidate py config libraries imageBytes sourceLabel contentType filename
      = .ok item) : IsInspected item.analysis := by
  obtain ⟨analysis, hanalysis, h⟩ := bind_eq_ok_iff.mp h
  obtain rfl := Except.ok.inj h
  exact isInspected_of_analyzed hanalysis

theorem isInspected_of_embeddedImage {pageIndex imageIndex : Nat} {image : EmbeddedImage}
    {item : QRArtifactContainerItem ρ}
    (h : analyzeEmbeddedImage py config libraries pageIndex imageIndex image = .ok (some item)) :
    IsInspected item.analysis := by
  rw [analyzeEmbeddedImage] at h
  split at h
  · cases h
  split at h
  · rename_i hcandidate
    obtain rfl := Option.some.inj (Except.ok.inj h)
    exact isInspected_of_candidate hcandidate
  · cases h
  · cases h

theorem isInspected_of_embeddedPage {pageIndex : Nat} {page : Option (List EmbeddedImage)}
    {parts : List (Option (QRArtifactContainerItem ρ))}
    (h : analyzeEmbeddedPage py config libraries pageIndex page = .ok parts) :
    ∀ item, some item ∈ parts → IsInspected item.analysis := by
  intro item hitem
  cases page with
  | none =>
      obtain rfl := Except.ok.inj h
      exact nomatch List.mem_singleton.mp hitem
  | some images =>
      obtain ⟨image, -, himage⟩ := exists_source_of_mapM_eq_ok h hitem
      exact isInspected_of_embeddedImage himage

theorem isInspected_of_renderedPage {pageIndex : Nat} {page : Option RenderedPage}
    {item : QRArtifactContainerItem ρ}
    (h : analyzeRenderedPage py config libraries pageIndex page = some item) :
    IsInspected item.analysis := by
  cases page with
  | none => cases h
  | some page =>
      rw [analyzeRenderedPage] at h
      split at h
      · cases h
      split at h
      · cases h
      · exact isInspected_of_candidate (toOption_eq_some_iff.mp h)

variable {pdf : PdfLibraries}

/-- **EXTRACTED**: every item of a PDF was inspected. -/
theorem isInspected_of_extracted {pdfBytes : List UInt8}
    {embedded rendered : List (Option (QRArtifactContainerItem ρ))} {beyondLimit : Nat}
    (h : extractPdfParts py config libraries pdf pdfBytes = .ok (embedded, rendered, beyondLimit)) :
    ∀ item ∈ embedded.filterMap id ++ rendered.filterMap id, IsInspected item.analysis := by
  rw [extractPdfParts] at h
  split at h
  · exact absurd h throw_bind_ne
  dsimp only at h
  split at h
  · cases h
  · obtain ⟨pages, hpages, h⟩ := bind_eq_ok_iff.mp h
    obtain ⟨⟨parts, beyond⟩, hparts, h⟩ := bind_eq_ok_iff.mp h
    obtain ⟨rfl, hrest⟩ := Prod.mk.inj (Except.ok.inj h)
    obtain ⟨rfl, rfl⟩ := Prod.mk.inj hrest
    intro item hitem
    rcases List.mem_append.mp hitem with hembedded | hrendered
    · obtain ⟨part, hpart, rfl⟩ := List.mem_filterMap.mp hembedded
      obtain ⟨page, hpage, hpart⟩ := List.mem_flatten.mp hpart
      obtain ⟨source, -, hsource⟩ := exists_source_of_mapM_eq_ok hpages hpage
      exact isInspected_of_embeddedPage hsource item hpart
    · obtain ⟨part, hpart, rfl⟩ := List.mem_filterMap.mp hrendered
      rw [renderPdfPageItems] at hparts
      split at hparts
      · cases hparts
      · obtain ⟨rfl, -⟩ := Prod.mk.inj (Except.ok.inj hparts)
        obtain ⟨page, -, hpage⟩ := List.mem_map.mp hpart
        exact isInspected_of_renderedPage hpage

/-- **PDF**: the container of a PDF has of its rendered pages those that add evidence,
    and shows the evidence of all of them. -/
theorem analyzeQrArtifactPdfBytes_neutral {pdfBytes : List UInt8}
    {container : QRArtifactContainerAnalysis ρ}
    (h : analyzeQrArtifactPdfBytes py config libraries pdf pdfBytes = .ok container) :
    ∃ embedded rendered beyondLimit,
      extractPdfParts py config libraries pdf pdfBytes = .ok (embedded, rendered, beyondLimit) ∧
      container.items = addRenderedItems (embedded.filterMap id) (rendered.filterMap id) ∧
      SameEvidence container
        { container with items := embedded.filterMap id ++ rendered.filterMap id } := by
  obtain ⟨⟨embedded, rendered, beyondLimit⟩, hparts, h⟩ := bind_eq_ok_iff.mp h
  dsimp only at h
  split at h
  · exact absurd h throw_bind_ne
  · obtain rfl := Except.ok.inj h
    exact ⟨embedded, rendered, beyondLimit, hparts, rfl,
      sameEvidence_addRenderedItems (isInspected_of_extracted hparts) rfl⟩

end

/-! ## Samples -/

/-- Libraries that read the text `hello` in every image. -/
def helloLibraries : ImageLibraries Unit Unit Unit where
  openImage := fun _ => some ()
  width := fun _ => 1
  height := fun _ => 1
  convertRgb := id
  detectAndDecodeMulti := fun _ => some (true, ["hello"], some [()])
  detectAndDecode := fun _ => none
  readBarcodes := fun _ => some [some "hello"]
  summarizeBounds := fun _ _ _ => none
  summarizeDarkPixelBounds := fun _ => none
  hasColoredOverlayFrame := fun _ _ => false
  quadCorroboratesInk := fun _ _ _ _ => false
  isLowQuietZone := fun _ => false
  isUneven := fun _ => false
  urlparse := fun _ => .ok ("", "")
  number := fun _ => none

/-- A PDF of one page with one image. -/
def onePagePdf : PdfLibraries where
  readPages := fun _ => some [some [⟨[1], none⟩]]
  renderPages := fun _ => some [some ⟨1, 1, [1]⟩]

/-- The default settings. -/
def defaultConfig : ArtifactConfig := ⟨8192, 5242880, 16777216, 5⟩

/-- A PDF whose rendered page shows what its image shows. -/
theorem analyzeQrArtifactPdfBytes_onePage :
    ∃ container, analyzeQrArtifactPdfBytes fullStopRuntime defaultConfig helloLibraries onePagePdf
        [1] = .ok container ∧
      ∃ embedded rendered beyondLimit,
        extractPdfParts fullStopRuntime defaultConfig helloLibraries onePagePdf [1]
          = .ok (embedded, rendered, beyondLimit) ∧
        container.items = addRenderedItems (embedded.filterMap id) (rendered.filterMap id) ∧
        SameEvidence container
          { container with items := embedded.filterMap id ++ rendered.filterMap id } := by
  have hok : (analyzeQrArtifactPdfBytes fullStopRuntime defaultConfig helloLibraries onePagePdf
      [1]).isOk = true := by decide +kernel
  obtain ⟨container, h⟩ := exists_ok_of_isOk hok
  exact ⟨container, h, analyzeQrArtifactPdfBytes_neutral h⟩

end QrArtifact
