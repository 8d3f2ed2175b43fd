import QrTrust.Backend.EnvelopeCodec
import QrTrust.Lib.Subsumption

/-! # QR artifacts and their containers

    The inspection of one image, and of a PDF: its embedded images and its rendered
    pages, of which those are kept that add evidence.  What the image and PDF
    libraries read out of the bytes, and the geometry over pixels, are fields of
    `ImageLibraries` and `PdfLibraries`; `ρ` is the type of floats. -/

namespace QrArtifact

/-! ## Records -/

/-- `QRArtifactBounds`. -/
structure QRArtifactBounds (ρ : Type) where
  xMin : ρ
  yMin : ρ
  xMax : ρ
  yMax : ρ
  width : ρ
  height : ρ
  minMargin : ρ
  quietZoneRatio : ρ
  edgeLengthVariation : ρ

/-- `QRArtifactAnalysis`. -/
structure QRArtifactAnalysis (ρ : Type) where
  payload : String
  decodedPayloads : List String
  payloadType : String
  imageWidth : Nat
  imageHeight : Nat
  decodedSymbolCount : Nat
  artifactIntegrity : String
  riskScore : Nat
  tamperIndicators : List String
  bounds : Option (QRArtifactBounds ρ)

/-- `QRArtifactContainerItem`. -/
structure QRArtifactContainerItem (ρ : Type) where
  sourceLabel : String
  contentType : String
  filename : Option String
  analysis : QRArtifactAnalysis ρ

/-- `QRArtifactContainerAnalysis`. -/
structure QRArtifactContainerAnalysis (ρ : Type) where
  containerType : String
  extractedArtifactCount : Nat
  rejectedPartCount : Nat
  items : List (QRArtifactContainerItem ρ)

/-- `tuple(sorted(set(values)))`. -/
def sortedSet (values : List String) : List String := values.dedup.mergeSort

namespace QRArtifactContainerAnalysis

variable {ρ : Type} (container : QRArtifactContainerAnalysis ρ)

/-- `artifact_integrity`. -/
def artifactIntegrity : String :=
  if container.items.any fun item => item.analysis.artifactIntegrity = "warn" then "warn"
  else "pass"

/-- `risk_score`. -/
def riskScore : Nat := (container.items.map fun item => item.analysis.riskScore).foldr max 0

/-- `tamper_indicators`. -/
def tamperIndicators : List String :=
  sortedSet (container.items.flatMap fun item => item.analysis.tamperIndicators)

/-- `decoded_payloads`. -/
def decodedPayloads : List String :=
  sortedSet (container.items.flatMap fun item => item.analysis.decodedPayloads)

end QRArtifactContainerAnalysis

/-! ## The surroundings -/

/-- The settings of `config` that the analyzers read. -/
structure ArtifactConfig where
  maxQrPayloadChars : Nat
  maxDecodeImageBytes : Nat
  maxDecodeImagePixels : Nat
  maxPdfRenderPages : Nat

/-- The image libraries, and the geometry over the pixels of an image. -/
structure ImageLibraries (Image Quad ρ : Type) where
  /-- `Image.open(BytesIO(image_bytes))`, loaded; `none` where it raises. -/
  openImage : List UInt8 → Option Image
  width : Image → Nat
  height : Image → Nat
  /-- `image.convert("RGB")`. -/
  convertRgb : Image → Image
  /-- `detector.detectAndDecodeMulti(image)`; `none` where it raises. -/
  detectAndDecodeMulti : Image → Option (Bool × List String × Option (List Quad))
  /-- `detector.detectAndDecode(image)`; `none` where it raises. -/
  detectAndDecode : Image → Option (String × Option Quad)
  /-- The texts of `zxingcpp.read_barcodes(image, …)`; `none` where it raises. -/
  readBarcodes : Image → Option (List (Option String))
  /-- `_summarize_bounds`. -/
  summarizeBounds : Quad → Nat → Nat → Option (QRArtifactBounds ρ)
  /-- `_summarize_dark_pixel_bounds`. -/
  summarizeDarkPixelBounds : Image → Option (QRArtifactBounds ρ)
  /-- `_has_colored_overlay_frame`. -/
  hasColoredOverlayFrame : Image → Option (QRArtifactBounds ρ) → Bool
  /-- `_quad_corroborates_ink`. -/
  quadCorroboratesInk : QRArtifactBounds ρ → Option (QRArtifactBounds ρ) → Image → Quad → Bool
  /-- `quiet_zone_ratio < 0.04`. -/
  isLowQuietZone : ρ → Bool
  /-- `edge_length_variation > 0.20`. -/
  isUneven : ρ → Bool
  /-- The scheme and the network location of `urlparse(payload)`, or the text of its
      `ValueError`. -/
  urlparse : String → Except String (String × String)
  /-- The numbers of `json.loads`. -/
  number : List Char → Option (PyJson × List Char)

/-! ## One image -/

section
variable {Image Quad ρ : Type} (py : PyRuntime) (config : ArtifactConfig)
  (libraries : ImageLibraries Image Quad ρ)

/-- `_load_image_for_decode`. -/
def loadImageForDecode (imageBytes : List UInt8) : Except PyError Image :=
  if imageBytes = [] then .error (.qrArtifactError "PNG bytes must not be empty")
  else if config.maxDecodeImageBytes < imageBytes.length then
    .error (.qrArtifactError ("Image exceeds the maximum supported size of "
      ++ toString config.maxDecodeImageBytes ++ " bytes"))
  else match libraries.openImage imageBytes with
    | none => .error (.qrArtifactError "Could not decode PNG bytes into an image")
    | some image =>
        if libraries.width image = 0 ∨ libraries.height image = 0 then
          .error (.qrArtifactError "Decoded image must have non-zero dimensions")
        else if config.maxDecodeImagePixels < libraries.width image * libraries.height image then
          .error (.qrArtifactError ("Image exceeds the maximum supported pixel count of "
            ++ toString config.maxDecodeImagePixels))
        else .ok (libraries.convertRgb image)

/-- `_classify_qr_payload`. -/
def classifyQrPayload (qrPayload : String) : Except PyError String :=
  match decodeEnvelopeFromQrPayload py libraries.number config.maxQrPayloadChars qrPayload with
  | .ok _ => .ok "signed_envelope"
  | .error (.qrArtifactError _) =>
      match libraries.urlparse qrPayload with
      | .error text => .error (.valueError text)
      | .ok (scheme, netloc) =>
          .ok (if scheme ∈ ["http", "https"] ∧ netloc ≠ "" then "url" else "text")
  | .error error => .error error

/-- `_extract_cv_qr_symbols`: all symbols at once, or else one. -/
def extractCvQrSymbols (image : Image) : List String × List Quad :=
  let several : List String × List Quad := match libraries.detectAndDecodeMulti image with
    | some (true, decodedInfo, some points) =>
        (decodedInfo.filter (· ≠ ""), points.take decodedInfo.length)
    | _ => ([], [])
  if several.1 ≠ [] ∨ several.2.length ≠ 0 then several
  else match libraries.detectAndDecode image with
    | some (qrPayload, points) => ([qrPayload].filter (· ≠ ""), points.toList)
    | none => ([], [])

/-- `_extract_zxing_payloads`. -/
def extractZxingPayloads (image : Image) : List String :=
  match libraries.readBarcodes image with
  | none => []
  | some results => (results.filterMap id).filter (· ≠ "")

/-- The signals of an image: each indicator with its weight and whether it is raised. -/
def tamperSignals (image : Image) (polygons : List Quad) (decodedSymbolCount : Nat)
    (decodedPayloads : List String) (bounds reportedBounds : Option (QRArtifactBounds ρ)) :
    List (String × Nat × Bool) :=
  let darkPixelBounds := libraries.summarizeDarkPixelBounds image
  let quietZoneRatio := (darkPixelBounds.or reportedBounds).map QRArtifactBounds.quietZoneRatio
  [ ("multiple_qr_symbols", 35, decide (1 < decodedSymbolCount)),
    ("conflicting_qr_payloads", 45, decide (1 < decodedPayloads.dedup.length)),
    ("low_quiet_zone", 15, quietZoneRatio.any libraries.isLowQuietZone),
    ("colored_overlay_frame", 25, libraries.hasColoredOverlayFrame image reportedBounds),
    ("perspective_distortion", 20, bounds.any fun bounds =>
      libraries.isUneven bounds.edgeLengthVariation && polygons.head?.any fun quad =>
        libraries.quadCorroboratesInk bounds darkPixelBounds image quad) ]

/-- `analyze_qr_artifact_from_png_bytes`. -/
def analyzeQrArtifactFromPngBytes (pngBytes : List UInt8) :
    Except PyError (QRArtifactAnalysis ρ) := do
  let image ← loadImageForDecode config libraries pngBytes
  let (cvPayloads, polygons) := extractCvQrSymbols libraries image
  let zxingPayloads := extractZxingPayloads libraries image
  let primaryPayloads :=
    if cvPayloads.filter (· ≠ "") ≠ [] then cvPayloads.filter (· ≠ "")
    else zxingPayloads.filter (· ≠ "")
  match primaryPayloads with
  | [] => throw (.qrArtifactError "No QR payload could be decoded from the PNG image")
  | first :: _ =>
      let payload ← validateQrPayloadSize config.maxQrPayloadChars first
      let decodedPayloads := (primaryPayloads ++ zxingPayloads).eraseDups
      let decodedSymbolCount :=
        max (max cvPayloads.length zxingPayloads.length) (max decodedPayloads.length 1)
      let bounds := polygons.head?.bind fun quad =>
        libraries.summarizeBounds quad (libraries.width image) (libraries.height image)
      let reportedBounds := bounds.or (libraries.summarizeDarkPixelBounds image)
      let raised := (tamperSignals libraries image polygons decodedSymbolCount decodedPayloads
        bounds reportedBounds).filter fun signal => signal.2.2
      let payloadType ← classifyQrPayload py config libraries payload
      return { payload := payload
               decodedPayloads := decodedPayloads
               payloadType := payloadType
               imageWidth := libraries.width image
               imageHeight := libraries.height image
               decodedSymbolCount := decodedSymbolCount
               artifactIntegrity := if raised = [] then "pass" else "warn"
               riskScore := (raised.map fun signal => signal.2.1).sum
               tamperIndicators := raised.map fun signal => signal.1
               bounds := reportedBounds }

/-- `_analyze_qr_image_candidate`. -/
def analyzeQrImageCandidate (imageBytes : List UInt8) (sourceLabel contentType : String)
    (filename : Option String) : Except PyError (QRArtifactContainerItem ρ) := do
  let analysis ← analyzeQrArtifactFromPngBytes py config libraries imageBytes
  return ⟨sourceLabel, contentType, filename, analysis⟩

end

/-! ## PDF containers -/

/-- An embedded image, as `pypdf` reads it. -/
structure EmbeddedImage where
  data : List UInt8
  name : Option String

/-- A rendered page: the size of its bitmap, and the bitmap as PNG. -/
structure RenderedPage where
  width : Nat
  height : Nat
  png : List UInt8

/-- The PDF libraries; `none` where they raise. -/
structure PdfLibraries where
  /-- `PdfReader(BytesIO(pdf_bytes))`: the pages, each with its images. -/
  readPages : List UInt8 → Option (List (Option (List EmbeddedImage)))
  /-- `pdfium.PdfDocument(pdf_bytes)`: the pages, rendered. -/
  renderPages : List UInt8 → Option (List (Option RenderedPage))

section
variable {ρ : Type}

/-- Does the existing item show all that the candidate shows? -/
def coversCandidate (existing candidate : QRArtifactContainerItem ρ) : Bool :=
  candidate.analysis.decodedPayloads ≠ []
    ∧ candidate.analysis.decodedPayloads ⊆ existing.analysis.decodedPayloads
    ∧ candidate.analysis.tamperIndicators ⊆ existing.analysis.tamperIndicators

/-- `_pdf_rendered_item_adds_evidence`. -/
def pdfRenderedItemAddsEvidence (candidate : QRArtifactContainerItem ρ)
    (existingItems : List (QRArtifactContainerItem ρ)) : Bool :=
  !existingItems.any fun existing => coversCandidate existing candidate

/-- The items of a PDF: the embedded ones, and of the rendered ones those that add
    evidence to what is there already. -/
def addRenderedItems (items renderedItems : List (QRArtifactContainerItem ρ)) :
    List (QRArtifactContainerItem ρ) :=
  renderedItems.foldl (fun items renderedItem =>
    if pdfRenderedItemAddsEvidence renderedItem items then items ++ [renderedItem] else items) items

variable {Image Quad : Type} (py : PyRuntime) (config : ArtifactConfig)
  (libraries : ImageLibraries Image Quad ρ) (pdf : PdfLibraries)

/-- An embedded image: its item, or `none` where it is rejected. -/
def analyzeEmbeddedImage (pageIndex imageIndex : Nat) (image : EmbeddedImage) :
    Except PyError (Option (QRArtifactContainerItem ρ)) :=
  if image.data = [] then .ok none
  else match analyzeQrImageCandidate py config libraries image.data
      ("pdf-page-" ++ toString pageIndex ++ "-image-" ++ toString imageIndex) "application/pdf-image"
      image.name with
    | .ok item => .ok (some item)
    | .error (.qrArtifactError _) => .ok none
    | .error error => .error error

/-- The images of a page; a page whose images cannot be read is one rejected part. -/
def analyzeEmbeddedPage (pageIndex : Nat) (page : Option (List EmbeddedImage)) :
    Except PyError (List (Option (QRArtifactContainerItem ρ))) :=
  match page with
  | none => .ok [none]
  | some images => (images.zipIdx 1).mapM fun (image, imageIndex) =>
      analyzeEmbeddedImage py config libraries pageIndex imageIndex image

/-- A rendered page: its item, or `none` where it is rejected, whatever it raises. -/
def analyzeRenderedPage (pageIndex : Nat) (page : Option RenderedPage) :
    Option (QRArtifactContainerItem ρ) :=
  match page with
  | none => none
  | some page =>
      if config.maxDecodeImagePixels < page.width * page.height then none
      else if config.maxDecodeImageBytes < page.png.length then none
      else (analyzeQrImageCandidate py config libraries page.png
        ("pdf-page-" ++ toString pageIndex ++ "-rendered") "application/pdf-page-render" none).toOption

/-- `_render_pdf_page_items`: the pages within the limit, and how many are beyond it. -/
def renderPdfPageItems (pdfBytes : List UInt8) :
    Except PyError (List (Option (QRArtifactContainerItem ρ)) × Nat) :=
  match pdf.renderPages pdfBytes with
  | none => .error (.qrArtifactError "Could not render PDF pages")
  | some pages =>
      .ok (((pages.take config.maxPdfRenderPages).zipIdx 1).map fun (page, pageIndex) =>
          analyzeRenderedPage py config libraries pageIndex page,
        pages.length - min pages.length config.maxPdfRenderPages)

/-- The parts of a PDF: those of the embedded images, those of the rendered pages, and
    how many pages are not rendered. -/
def extractPdfParts (pdfBytes : List UInt8) :
    Except PyError (List (Option (QRArtifactContainerItem ρ))
      × List (Option (QRArtifactContainerItem ρ)) × Nat) := do
  if config.maxDecodeImageBytes < pdfBytes.length then
    throw (.qrArtifactError ("PDF exceeds the maximum supported size of "
      ++ toString config.maxDecodeImageBytes ++ " bytes"))
  match pdf.readPages pdfBytes with
  | none => throw (.qrArtifactError "Could not parse PDF bytes")
  | some pages => do
      let embedded ← (pages.zipIdx 1).mapM fun (page, pageIndex) =>
        analyzeEmbeddedPage py config libraries pageIndex page
      let (rendered, beyondLimit) ← renderPdfPageItems py config libraries pdf pdfBytes
      return (embedded.flatten, rendered, beyondLimit)

/-- `_analyze_qr_artifact_pdf_bytes`. -/
def analyzeQrArtifactPdfBytes (pdfBytes : List UInt8) :
    Except PyError (QRArtifactContainerAnalysis ρ) := do
  let (embedded, rendered, beyondLimit) ← extractPdfParts py config libraries pdf pdfBytes
  let items := addRenderedItems (embedded.filterMap id) (rendered.filterMap id)
  if items.length = 0 then
    throw (.qrArtifactError "No QR image artifacts could be extracted from the PDF")
  return { containerType := "pdf"
           extractedArtifactCount := items.length
           rejectedPartCount := (embedded.filter Option.isNone).length
             + beyondLimit + (rendered.filter Option.isNone).length
           items := items }

end

end QrArtifact
