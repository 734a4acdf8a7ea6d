import Viridity.PlayerPainting

/-!
# What `createPatch` encodes

A patch has a margin around its rectangle if it may become a JPEG image, and a second image
with the levels of the alpha channel below the first if it does and is not opaque. The buffer
is copied with its surroundings, which are blank where the buffer ends.
-/

namespace Viridity.PatchEncoding

open Viridity.QtRectangle
open Viridity.ImageAux
open Viridity.BufferRenderer
open Viridity.SceneDisplay
open Viridity.PlayerPainting

set_option autoImplicit false

inductive PatchFormat where
  | png
  | jpeg
  | bmp
deriving DecidableEq, Repr

/-- `pngPreferred` is `estimatePNGCompression(image, &size) < 0.4 || size < 1024`. The data of a PNG
image is without its ancillary chunks. -/
structure PatchEncoder where
  hasAlphaValues : QImage → QRect → Bool
  pngPreferred : QImage → Bool
  save : PatchFormat → QImage → List UInt8

def formatBits : EncodingFormat → Nat
  | .raw => 1
  | .png => 2
  | .jpeg => 4
  | .auto => 2 ||| 4

/-- `format & part`. -/
def includes (format part : EncodingFormat) : Bool := formatBits format &&& formatBits part != 0

/-- `convertToFormat(Format_RGB888)`. -/
def opaqueImage (image : QImage) : QImage :=
  { image with pixel := fun point => withAlpha 255 (image.pixel point) }

def alphaChannel (image : QImage) : QImage :=
  { image with pixel := fun point => grey (alphaLevel (image.pixel point)) }

theorem opaque_image_rect (image : QImage) : (opaqueImage image).rect = image.rect :=
  QImage.same_size_rect (same_size_pixels image _)

theorem opaque_image_pixel (image : QImage) (point : QPoint) :
    (opaqueImage image).pixel point = withAlpha 255 (image.pixel point) := rfl

theorem alpha_channel_rect (image : QImage) : (alphaChannel image).rect = image.rect :=
  QImage.same_size_rect (same_size_pixels image _)

theorem alpha_channel_pixel (image : QImage) (point : QPoint) :
    (alphaChannel image).pixel point = grey (alphaLevel (image.pixel point)) := rfl

def copyOf (image : QImage) (rect : QRect) : QImage where
  width := rect.width.toNat
  height := rect.height.toNat
  pixel point := if point.add rect.topLeft ∈ image.rect then image.pixel (point.add rect.topLeft) else 0

def createPackedAlphaPatch (image : QImage) : QImage :=
  let result := opaqueImage (blankImage image.width (image.height * 2))
  painted (painted result (drawImage (opaqueImage image) 0 0 0 0))
    (drawImage (alphaChannel image) 0 image.height 0 0)

section Patch

variable (encoder : PatchEncoder) (settings : EncoderSettings) (buffer : QImage) (rect : QRect)

/-- The block size of JPEG. -/
def lossyMargin : Int := if includes settings.patchEncodingFormat .jpeg then 8 else 0

def rectEnlarged : QRect :=
  rect.adjusted (-lossyMargin settings) (-lossyMargin settings) (lossyMargin settings)
    (lossyMargin settings)

def patchHasAlpha : Bool :=
  settings.alphaChannelEnabled && encoder.hasAlphaValues buffer (rectEnlarged settings rect)

/-- The buffer with its surroundings. Without an alpha channel the image is opaque. -/
def patchImage : QImage :=
  let area := rectEnlarged settings rect
  let image := painted (blankImage area.width area.height) (drawImage buffer 0 0 area.x1 area.y1)
  if patchHasAlpha encoder settings buffer rect then image else opaqueImage image

/-- The condition of the first branch. -/
def sentAsPng : Bool :=
  includes settings.patchEncodingFormat .png &&
    (settings.patchEncodingFormat == .png ||
      encoder.pngPreferred (patchImage encoder settings buffer rect))

/-- The condition of the second branch. -/
def sentAsJpeg : Bool :=
  !sentAsPng encoder settings buffer rect &&
    (settings.patchEncodingFormat == .jpeg || includes settings.patchEncodingFormat .jpeg)

def croppedImage : QImage :=
  let margin := lossyMargin settings
  let image := patchImage encoder settings buffer rect
  if margin > 0 then copyOf image (QRect.ofSize margin margin rect.width rect.height) else image

def createPatch : GraphicsSceneFramePatch :=
  if sentAsPng encoder settings buffer rect then
    { id := ""
      rect := rect
      artefactMargin := 0
      data := encoder.save .png (croppedImage encoder settings buffer rect)
      mimeType := "image/png"
      packedAlpha := false }
  else if sentAsJpeg encoder settings buffer rect then
    let image := patchImage encoder settings buffer rect
    { id := ""
      rect := rect
      artefactMargin := lossyMargin settings
      data := encoder.save .jpeg
        (if patchHasAlpha encoder settings buffer rect then createPackedAlphaPatch image else image)
      mimeType := "image/jpeg"
      packedAlpha := patchHasAlpha encoder settings buffer rect }
  else
    { id := ""
      rect := rect
      artefactMargin := 0
      data := encoder.save .bmp (croppedImage encoder settings buffer rect)
      mimeType := "image/bmp"
      packedAlpha := false }

/-- What a patch shows of a point of the buffer, or of a point beside it. -/
def shownPixel (point : QPoint) : QRgb :=
  let pixel := if point ∈ buffer.rect then buffer.pixel point else 0
  if patchHasAlpha encoder settings buffer rect then pixel else withAlpha 255 pixel

end Patch

/-- Saving an image and loading it lose nothing; a JPEG image has no alpha channel. -/
structure LosslessCodec (encoder : PatchEncoder) (codec : PatchCodec) : Prop where
  sizes : ∀ format image, image.rect.isEmpty = false →
    QImage.SameSize (codec.loadFromData (encoder.save format image)) image
  pixels : ∀ format image,
    (format = .jpeg → ∀ point ∈ image.rect, alphaLevel (image.pixel point) = 255) →
      ∀ point ∈ image.rect,
        (codec.loadFromData (encoder.save format image)).pixel point = image.pixel point

/-- Saving an image and loading it lose nothing, unless it is saved as JPEG. -/
structure LosslessBesidesJpeg (encoder : PatchEncoder) (codec : PatchCodec) : Prop where
  sizes : ∀ format image, format ≠ .jpeg → image.rect.isEmpty = false →
    QImage.SameSize (codec.loadFromData (encoder.save format image)) image
  pixels : ∀ format image, format ≠ .jpeg → ∀ point ∈ image.rect,
    (codec.loadFromData (encoder.save format image)).pixel point = image.pixel point

def withoutJpeg (encoder : PatchEncoder) : PatchEncoder :=
  { encoder with
    save := fun format => encoder.save (if format = .jpeg then .png else format) }

/-- `hasAlphaValues` tells whether some pixel is not opaque. -/
def FindsAlpha (encoder : PatchEncoder) : Prop :=
  ∀ buffer area, encoder.hasAlphaValues buffer area = true ↔
    ∃ point ∈ area, point ∈ buffer.rect ∧ alphaLevel (buffer.pixel point) ≠ 255

/-- The image loaded from a patch. With a packed alpha channel the opaque colours come first and
the levels of the alpha channel below. -/
structure PatchContent (codec : PatchCodec) (shown : QPoint → QRgb) (rect : QRect)
    (patch : GraphicsSceneFramePatch) : Prop where
  margin : 0 ≤ patch.artefactMargin
  width : ((codec.loadFromData patch.data).width : Int) = rect.width + 2 * patch.artefactMargin
  height : ((codec.loadFromData patch.data).height : Int) =
    (if patch.packedAlpha then 2 else 1) * (rect.height + 2 * patch.artefactMargin)
  pixels : ∀ point ∈ QRect.ofSize 0 0 (rect.width + 2 * patch.artefactMargin)
      (rect.height + 2 * patch.artefactMargin),
    (codec.loadFromData patch.data).pixel point =
      if patch.packedAlpha then
        withAlpha 255 (shown ⟨point.x + rect.x1 - patch.artefactMargin,
          point.y + rect.y1 - patch.artefactMargin⟩)
      else shown ⟨point.x + rect.x1 - patch.artefactMargin,
        point.y + rect.y1 - patch.artefactMargin⟩
  levels : patch.packedAlpha = true →
    ∀ point ∈ QRect.ofSize 0 0 (rect.width + 2 * patch.artefactMargin)
        (rect.height + 2 * patch.artefactMargin),
      (codec.loadFromData patch.data).pixel
          ⟨point.x, point.y + (rect.height + 2 * patch.artefactMargin)⟩ =
        grey (alphaLevel (shown ⟨point.x + rect.x1 - patch.artefactMargin,
          point.y + rect.y1 - patch.artefactMargin⟩))

section Pixels

theorem alpha_of_rgb (pixel : QRgb) : alphaLevel (withAlpha 255 pixel) = 255 := by
  unfold alphaLevel withAlpha colourBits
  rw [BitVec.toNat_ofNat]
  omega

theorem colours_of_rgb (pixel : QRgb) : colourBits (withAlpha 255 pixel) = colourBits pixel := by
  unfold withAlpha colourBits
  rw [BitVec.toNat_ofNat]
  omega

theorem rgb_of_alpha {pixel : QRgb} (filled : alphaLevel pixel = 255) :
    withAlpha 255 pixel = pixel := by
  have same := @with_alpha_same pixel pixel rfl
  rwa [filled] at same

theorem alpha_small (pixel : QRgb) : alphaLevel pixel < 256 := by
  have bound := pixel.isLt
  unfold alphaLevel
  omega

theorem grey_number {level : Nat} (small : level < 256) :
    (grey level).toNat = 0xFF000000 + level * 0x010101 := by
  unfold grey
  rw [BitVec.toNat_ofNat]
  exact Nat.mod_eq_of_lt (by omega)

theorem alpha_of_grey {level : Nat} (small : level < 256) : alphaLevel (grey level) = 255 := by
  unfold alphaLevel
  rw [grey_number small]
  omega

theorem painted_pixel (image : QImage) (patch : PaintedCanvas.Patch QPoint QRgb) (point : QPoint) :
    (painted image patch).pixel point =
      if patch.covers point then patch.colour point else image.pixel point := rfl

theorem draw_image_colour {image : QImage} {x y sx sy : Int} {point : QPoint}
    (right : x ≤ point.x) (below : y ≤ point.y) (canvas : QImage) :
    (painted canvas (drawImage image x y sx sy)).pixel point =
      if (⟨point.x - x + sx, point.y - y + sy⟩ : QPoint) ∈ image.rect then
        image.pixel ⟨point.x - x + sx, point.y - y + sy⟩
      else canvas.pixel point := by
  have covers : (drawImage image x y sx sy).covers point = true ↔
      (⟨point.x - x + sx, point.y - y + sy⟩ : QPoint) ∈ image.rect := by
    rw [draw_image_covers]
    constructor
    · intro parts
      exact parts.2.2
    · intro inside
      exact ⟨by omega, by omega, inside⟩
  rw [painted_pixel]
  by_cases inside : (⟨point.x - x + sx, point.y - y + sy⟩ : QPoint) ∈ image.rect
  · rw [if_pos (covers.mpr inside), if_pos inside]
    rfl
  · rw [if_neg (fun covered => inside (covers.mp covered)), if_neg inside]

end Pixels

section Images

variable {encoder : PatchEncoder} {settings : EncoderSettings} {buffer : QImage} {rect : QRect}

theorem lossy_margin (settings : EncoderSettings) : 0 ≤ lossyMargin settings := by
  unfold lossyMargin
  split_ifs <;> decide

theorem enlarged_extent (settings : EncoderSettings) (rect : QRect) :
    (rectEnlarged settings rect).width = rect.width + 2 * lossyMargin settings ∧
      (rectEnlarged settings rect).height = rect.height + 2 * lossyMargin settings := by
  unfold rectEnlarged QRect.adjusted QRect.width QRect.height
  dsimp only
  omega

theorem patch_image_size (filled : rect.isEmpty = false) :
    ((patchImage encoder settings buffer rect).width : Int) =
        rect.width + 2 * lossyMargin settings ∧
      ((patchImage encoder settings buffer rect).height : Int) =
        rect.height + 2 * lossyMargin settings := by
  have extent := QRect.not_is_empty_iff_extent.mp filled
  have margin := lossy_margin settings
  have enlarged := enlarged_extent settings rect
  have sizes : (patchImage encoder settings buffer rect).width =
        (blankImage (rectEnlarged settings rect).width (rectEnlarged settings rect).height).width ∧
      (patchImage encoder settings buffer rect).height =
        (blankImage (rectEnlarged settings rect).width
          (rectEnlarged settings rect).height).height := by
    unfold patchImage
    dsimp only
    split_ifs
    · exact ⟨rfl, rfl⟩
    · exact ⟨rfl, rfl⟩
  rw [sizes.1, sizes.2, blank_image_size (by omega)]
  dsimp only
  omega

theorem patch_image_pixel (filled : rect.isEmpty = false) {point : QPoint} (left : 0 ≤ point.x)
    (top : 0 ≤ point.y) :
    (patchImage encoder settings buffer rect).pixel point =
      shownPixel encoder settings buffer rect ⟨point.x + rect.x1 - lossyMargin settings,
        point.y + rect.y1 - lossyMargin settings⟩ := by
  have extent := QRect.not_is_empty_iff_extent.mp filled
  have margin := lossy_margin settings
  have enlarged := enlarged_extent settings rect
  have blank := @blank_image_size (rectEnlarged settings rect).width
    (rectEnlarged settings rect).height (by omega)
  have source : (⟨point.x - 0 + (rectEnlarged settings rect).x1,
      point.y - 0 + (rectEnlarged settings rect).y1⟩ : QPoint) =
        ⟨point.x + rect.x1 - lossyMargin settings, point.y + rect.y1 - lossyMargin settings⟩ := by
    unfold rectEnlarged QRect.adjusted
    apply QPoint.ext_coordinates
    · dsimp only
      omega
    · dsimp only
      omega
  have drawn := @draw_image_colour buffer 0 0 (rectEnlarged settings rect).x1
    (rectEnlarged settings rect).y1 point left top
    (blankImage (rectEnlarged settings rect).width (rectEnlarged settings rect).height)
  rw [source] at drawn
  unfold patchImage shownPixel
  dsimp only
  rw [apply_ite (fun image : QImage => image.pixel point)]
  change (if _ then (painted _ _).pixel point else withAlpha 255 ((painted _ _).pixel point)) = _
  rw [drawn, blank]

theorem cropped_image (filled : rect.isEmpty = false) :
    ((croppedImage encoder settings buffer rect).width : Int) = rect.width ∧
      ((croppedImage encoder settings buffer rect).height : Int) = rect.height ∧
        ∀ point ∈ QRect.ofSize 0 0 rect.width rect.height,
          (croppedImage encoder settings buffer rect).pixel point =
            shownPixel encoder settings buffer rect ⟨point.x + rect.x1, point.y + rect.y1⟩ := by
  have extent := QRect.not_is_empty_iff_extent.mp filled
  have margin := lossy_margin settings
  have size := @patch_image_size encoder settings buffer rect filled
  unfold croppedImage
  dsimp only
  split_ifs with lossy
  · unfold copyOf
    dsimp only
    rw [QRect.of_size_width, QRect.of_size_height]
    refine ⟨by omega, by omega, ?_⟩
    intro point member
    rw [QRect.mem_of_size] at member
    have moved : point.add (QRect.ofSize (lossyMargin settings) (lossyMargin settings) rect.width
        rect.height).topLeft = ⟨point.x + lossyMargin settings, point.y + lossyMargin settings⟩ := rfl
    have inside : (⟨point.x + lossyMargin settings, point.y + lossyMargin settings⟩ : QPoint) ∈
        (patchImage encoder settings buffer rect).rect := by
      rw [QImage.mem_rect]
      dsimp only
      omega
    rw [moved, if_pos inside, patch_image_pixel filled (by dsimp only; omega) (by dsimp only; omega)]
    congr 1
    apply QPoint.ext_coordinates
    · dsimp only
      omega
    · dsimp only
      omega
  · have none : lossyMargin settings = 0 := by omega
    rw [none] at size
    refine ⟨by omega, by omega, ?_⟩
    intro point member
    rw [QRect.mem_of_size] at member
    rw [patch_image_pixel filled (by omega) (by omega), none, Int.sub_zero, Int.sub_zero]

theorem packed_image_size {image : QImage} (filled : image.rect.isEmpty = false) :
    (createPackedAlphaPatch image).width = image.width ∧
      (createPackedAlphaPatch image).height = image.height * 2 := by
  have extent := QRect.not_is_empty_iff_extent.mp filled
  unfold QImage.rect at extent
  rw [QRect.of_size_width, QRect.of_size_height] at extent
  have blank := @blank_image_size image.width (image.height * 2) (by omega)
  unfold createPackedAlphaPatch painted opaqueImage
  dsimp only
  rw [blank]
  dsimp only
  omega

theorem packed_image {image : QImage} {point : QPoint} (member : point ∈ image.rect) :
    (createPackedAlphaPatch image).pixel point = withAlpha 255 (image.pixel point) ∧
      (createPackedAlphaPatch image).pixel ⟨point.x, point.y + image.height⟩ =
        grey (alphaLevel (image.pixel point)) := by
  have bounds := QImage.mem_rect.mp member
  have here : (⟨point.x - 0 + 0, point.y - 0 + 0⟩ : QPoint) = point := by
    apply QPoint.ext_coordinates
    · dsimp only
      omega
    · dsimp only
      omega
  have below : (⟨point.x - 0 + 0, point.y + image.height - image.height + 0⟩ : QPoint) =
      point := by
    apply QPoint.ext_coordinates
    · dsimp only
      omega
    · dsimp only
      omega
  constructor
  · have uncovered : ¬ (drawImage (alphaChannel image) 0 image.height 0 0).covers point = true := by
      rw [draw_image_covers]
      omega
    have colours := @draw_image_colour (opaqueImage image) 0 0 0 0 point bounds.1 bounds.2.2.1
      (opaqueImage (blankImage image.width (image.height * 2)))
    rw [here, opaque_image_rect, if_pos member, opaque_image_pixel] at colours
    unfold createPackedAlphaPatch
    dsimp only
    rw [painted_pixel, if_neg uncovered, colours]
  · have levels := @draw_image_colour (alphaChannel image) 0 image.height 0 0
      ⟨point.x, point.y + image.height⟩ bounds.1 (by dsimp only; omega)
      (painted (opaqueImage (blankImage image.width (image.height * 2)))
        (drawImage (opaqueImage image) 0 0 0 0))
    rw [below, alpha_channel_rect, if_pos member, alpha_channel_pixel] at levels
    unfold createPackedAlphaPatch
    dsimp only
    rw [levels]

end Images

section Contents

variable {encoder : PatchEncoder} {codec : PatchCodec} (lossless : LosslessCodec encoder codec)

include lossless

omit lossless in
theorem image_around {rect : QRect} {image : QImage} {margin : Int} (filled : rect.isEmpty = false)
    (least : 0 ≤ margin) (width : (image.width : Int) = rect.width + 2 * margin)
    (height : (image.height : Int) = rect.height + 2 * margin) :
    image.rect = QRect.ofSize 0 0 (rect.width + 2 * margin) (rect.height + 2 * margin) ∧
      image.rect.isEmpty = false := by
  have extent := QRect.not_is_empty_iff_extent.mp filled
  have whole : image.rect = QRect.ofSize 0 0 (rect.width + 2 * margin)
      (rect.height + 2 * margin) := by
    unfold QImage.rect
    rw [width, height]
  refine ⟨whole, ?_⟩
  rw [QRect.not_is_empty_iff_extent, whole, QRect.of_size_width, QRect.of_size_height]
  omega

theorem plain_content {shown : QPoint → QRgb} {rect : QRect} {patch : GraphicsSceneFramePatch}
    {format : PatchFormat} {image : QImage} (filled : rect.isEmpty = false)
    (data : patch.data = encoder.save format image) (plain : patch.packedAlpha = false)
    (margin : 0 ≤ patch.artefactMargin)
    (width : (image.width : Int) = rect.width + 2 * patch.artefactMargin)
    (height : (image.height : Int) = rect.height + 2 * patch.artefactMargin)
    (pixels : ∀ point ∈ QRect.ofSize 0 0 (rect.width + 2 * patch.artefactMargin)
        (rect.height + 2 * patch.artefactMargin),
      image.pixel point = shown ⟨point.x + rect.x1 - patch.artefactMargin,
        point.y + rect.y1 - patch.artefactMargin⟩)
    (noAlpha : format = .jpeg → ∀ point ∈ image.rect, alphaLevel (image.pixel point) = 255) :
    PatchContent codec shown rect patch := by
  obtain ⟨whole, imageFilled⟩ := image_around filled margin width height
  have sizes := lossless.sizes format image imageFilled
  constructor
  · exact margin
  · rw [data, sizes.1]
    exact width
  · rw [data, sizes.2, plain, if_neg Bool.false_ne_true, Int.one_mul]
    exact height
  · intro point member
    rw [data, plain, if_neg Bool.false_ne_true,
      lossless.pixels format image noAlpha point (by rw [whole]; exact member)]
    exact pixels point member
  · intro packed
    rw [plain] at packed
    cases packed

theorem packed_content {shown : QPoint → QRgb} {rect : QRect} {patch : GraphicsSceneFramePatch}
    {image : QImage} (filled : rect.isEmpty = false)
    (data : patch.data = encoder.save .jpeg (createPackedAlphaPatch image))
    (packed : patch.packedAlpha = true) (margin : 0 ≤ patch.artefactMargin)
    (width : (image.width : Int) = rect.width + 2 * patch.artefactMargin)
    (height : (image.height : Int) = rect.height + 2 * patch.artefactMargin)
    (pixels : ∀ point ∈ QRect.ofSize 0 0 (rect.width + 2 * patch.artefactMargin)
        (rect.height + 2 * patch.artefactMargin),
      image.pixel point = shown ⟨point.x + rect.x1 - patch.artefactMargin,
        point.y + rect.y1 - patch.artefactMargin⟩) :
    PatchContent codec shown rect patch := by
  have extent := QRect.not_is_empty_iff_extent.mp filled
  obtain ⟨whole, imageFilled⟩ := image_around filled margin width height
  obtain ⟨packedWidth, packedHeight⟩ := packed_image_size imageFilled
  have halves := @packed_image image
  have packedFilled : (createPackedAlphaPatch image).rect.isEmpty = false := by
    unfold QImage.rect
    rw [QRect.not_is_empty_iff_extent, QRect.of_size_width, QRect.of_size_height, packedWidth,
      packedHeight]
    omega
  have noAlpha : ∀ point ∈ (createPackedAlphaPatch image).rect,
      alphaLevel ((createPackedAlphaPatch image).pixel point) = 255 := by
    intro point member
    rw [QImage.mem_rect, packedWidth, packedHeight] at member
    by_cases upper : point.y < image.height
    · rw [(halves (QImage.mem_rect.mpr (by omega))).1]
      exact alpha_of_rgb _
    · have level := (@halves ⟨point.x, point.y - image.height⟩
        (QImage.mem_rect.mpr (by dsimp only; omega))).2
      dsimp only at level
      rw [Int.sub_add_cancel] at level
      rw [level]
      exact alpha_of_grey (alpha_small _)
  have sizes := lossless.sizes .jpeg _ packedFilled
  have loaded := lossless.pixels .jpeg (createPackedAlphaPatch image) (fun _ => noAlpha)
  constructor
  · exact margin
  · rw [data, sizes.1, packedWidth]
    exact width
  · rw [data, sizes.2, packedHeight, packed, if_pos rfl]
    omega
  · intro point member
    rw [← whole] at member
    have bounds := QImage.mem_rect.mp member
    rw [data, packed, if_pos rfl, loaded point (QImage.mem_rect.mpr (by omega)),
      (halves member).1, pixels point (by rw [← whole]; exact member)]
  · intro _ point member
    rw [← whole] at member
    have bounds := QImage.mem_rect.mp member
    rw [data, ← height, loaded _ (QImage.mem_rect.mpr (by dsimp only; omega)),
      (halves member).2, pixels point (by rw [← whole]; exact member)]

theorem cropped_content {settings : EncoderSettings} {buffer : QImage} {rect : QRect}
    {patch : GraphicsSceneFramePatch} {format : PatchFormat} (filled : rect.isEmpty = false)
    (data : patch.data = encoder.save format (croppedImage encoder settings buffer rect))
    (plain : patch.packedAlpha = false) (margin : patch.artefactMargin = 0)
    (other : format ≠ .jpeg) :
    PatchContent codec (shownPixel encoder settings buffer rect) rect patch := by
  obtain ⟨width, height, cropped⟩ := @cropped_image encoder settings buffer rect filled
  apply plain_content lossless filled data plain
  · rw [margin]
  · rw [margin, width]
    omega
  · rw [margin, height]
    omega
  · intro point member
    rw [margin, Int.mul_zero, Int.add_zero, Int.add_zero] at member
    rw [margin, Int.sub_zero, Int.sub_zero]
    exact cropped point member
  · exact fun same => absurd same other

/-- The image of a patch holds what the patch shows, in each of the branches. -/
theorem create_patch_content {settings : EncoderSettings} {buffer : QImage} {rect : QRect}
    (filled : rect.isEmpty = false) :
    PatchContent codec (shownPixel encoder settings buffer rect) rect
      (createPatch encoder settings buffer rect) := by
  have margin := lossy_margin settings
  obtain ⟨width, height⟩ := @patch_image_size encoder settings buffer rect filled
  have pixels : ∀ point ∈ QRect.ofSize 0 0 (rect.width + 2 * lossyMargin settings)
      (rect.height + 2 * lossyMargin settings),
      (patchImage encoder settings buffer rect).pixel point =
        shownPixel encoder settings buffer rect ⟨point.x + rect.x1 - lossyMargin settings,
          point.y + rect.y1 - lossyMargin settings⟩ := by
    intro point member
    rw [QRect.mem_of_size] at member
    exact patch_image_pixel filled member.1 member.2.2.1
  unfold createPatch
  dsimp only
  split_ifs with png jpeg alpha
  · exact cropped_content lossless filled rfl rfl rfl (by decide)
  · exact packed_content lossless filled rfl alpha margin width height pixels
  · have noAlpha : ∀ point ∈ (patchImage encoder settings buffer rect).rect,
        alphaLevel ((patchImage encoder settings buffer rect).pixel point) = 255 := by
      intro point _
      unfold patchImage
      dsimp only
      rw [if_neg alpha]
      exact alpha_of_rgb _
    exact @plain_content encoder codec lossless (shownPixel encoder settings buffer rect) rect _
      .jpeg (patchImage encoder settings buffer rect) filled rfl (Bool.eq_false_iff.mpr alpha)
      margin width height pixels fun _ => noAlpha
  · exact cropped_content lossless filled rfl rfl rfl (by decide)

end Contents

section Loaded

variable {codec : PatchCodec} {shown : QPoint → QRgb} {rect : QRect}
variable {patch : GraphicsSceneFramePatch} (content : PatchContent codec shown rect patch)

include content

/-- The image has a pixel for each point of the rectangle, behind the margin. -/
theorem content_pixel {point : QPoint} (member : point ∈ rect) :
    (⟨point.x - rect.x1 + patch.artefactMargin, point.y - rect.y1 + patch.artefactMargin⟩ :
        QPoint) ∈ (codec.loadFromData patch.data).rect ∧
      (codec.loadFromData patch.data).pixel ⟨point.x - rect.x1 + patch.artefactMargin,
        point.y - rect.y1 + patch.artefactMargin⟩ =
          if patch.packedAlpha then withAlpha 255 (shown point) else shown point := by
  have margin := content.margin
  have width := content.width
  have height := content.height
  have bounds := QRect.mem_iff.mp member
  have extent : rect.width = rect.x2 - rect.x1 + 1 ∧ rect.height = rect.y2 - rect.y1 + 1 :=
    ⟨rfl, rfl⟩
  constructor
  · rw [QImage.mem_rect]
    dsimp only
    split_ifs at height <;> omega
  · rw [content.pixels _ (QRect.mem_of_size.mpr (by dsimp only; omega))]
    dsimp only
    rw [show point.x - rect.x1 + patch.artefactMargin + rect.x1 - patch.artefactMargin = point.x by
      omega, show point.y - rect.y1 + patch.artefactMargin + rect.y1 - patch.artefactMargin =
        point.y by omega]

theorem content_level {point : QPoint} (packed : patch.packedAlpha = true) (member : point ∈ rect) :
    (⟨point.x - rect.x1 + patch.artefactMargin,
        point.y - rect.y1 + (rect.height + patch.artefactMargin * 3)⟩ : QPoint) ∈
          (codec.loadFromData patch.data).rect ∧
      (codec.loadFromData patch.data).pixel ⟨point.x - rect.x1 + patch.artefactMargin,
        point.y - rect.y1 + (rect.height + patch.artefactMargin * 3)⟩ =
          grey (alphaLevel (shown point)) := by
  have margin := content.margin
  have width := content.width
  have height := content.height
  rw [packed, if_pos rfl] at height
  have bounds := QRect.mem_iff.mp member
  have extent : rect.width = rect.x2 - rect.x1 + 1 ∧ rect.height = rect.y2 - rect.y1 + 1 :=
    ⟨rfl, rfl⟩
  constructor
  · rw [QImage.mem_rect]
    dsimp only
    omega
  · have level := content.levels packed ⟨point.x - rect.x1 + patch.artefactMargin,
      point.y - rect.y1 + patch.artefactMargin⟩ (QRect.mem_of_size.mpr (by dsimp only; omega))
    dsimp only at level
    rw [show point.x - rect.x1 + patch.artefactMargin + rect.x1 - patch.artefactMargin = point.x by
      omega, show point.y - rect.y1 + patch.artefactMargin + rect.y1 - patch.artefactMargin =
        point.y by omega, show point.y - rect.y1 + patch.artefactMargin +
          (rect.height + 2 * patch.artefactMargin) =
            point.y - rect.y1 + (rect.height + patch.artefactMargin * 3) by omega] at level
    exact level

theorem plain_colour (plain : patch.packedAlpha = false) {point : QPoint}
    (member : point ∈ patchArea rect patch.artefactMargin) :
    (codec.loadFromData patch.data).pixel ⟨point.x - rect.x1 + patch.artefactMargin,
      point.y - rect.y1 + patch.artefactMargin⟩ = shown point := by
  have margin := content.margin
  unfold patchArea QRect.adjusted at member
  rw [QRect.mem_iff] at member
  dsimp only at member
  rw [content.pixels _ (QRect.mem_of_size.mpr (by
    unfold QRect.width QRect.height
    dsimp only
    omega)), plain, if_neg Bool.false_ne_true]
  dsimp only
  rw [show point.x - rect.x1 + patch.artefactMargin + rect.x1 - patch.artefactMargin = point.x by
    omega, show point.y - rect.y1 + patch.artefactMargin + rect.y1 - patch.artefactMargin =
      point.y by omega]

end Loaded

section Branches

variable (encoder : PatchEncoder) (settings : EncoderSettings) (buffer : QImage) (rect : QRect)

/-- Only a JPEG image has a margin or a packed alpha channel. -/
theorem create_patch_cases :
    (sentAsJpeg encoder settings buffer rect = false ∧
        (createPatch encoder settings buffer rect).artefactMargin = 0 ∧
          (createPatch encoder settings buffer rect).packedAlpha = false) ∨
      (sentAsJpeg encoder settings buffer rect = true ∧
        (createPatch encoder settings buffer rect).artefactMargin = lossyMargin settings ∧
          (createPatch encoder settings buffer rect).packedAlpha =
            patchHasAlpha encoder settings buffer rect) := by
  unfold createPatch
  dsimp only
  split_ifs with png jpeg alpha
  · left
    refine ⟨?_, rfl, rfl⟩
    unfold sentAsJpeg
    rw [png]
    rfl
  · exact Or.inr ⟨jpeg, rfl, rfl⟩
  · exact Or.inr ⟨jpeg, rfl, rfl⟩
  · exact Or.inl ⟨Bool.eq_false_iff.mpr jpeg, rfl, rfl⟩

theorem create_patch_type : (createPatch encoder settings buffer rect).mimeType ∈
    ["image/png", "image/jpeg", "image/bmp"] := by
  unfold createPatch
  dsimp only
  split_ifs <;> simp

theorem jpeg_margin (jpeg : sentAsJpeg encoder settings buffer rect = true) :
    lossyMargin settings = 8 := by
  unfold sentAsJpeg at jpeg
  rw [Bool.and_eq_true, Bool.or_eq_true, beq_iff_eq] at jpeg
  unfold lossyMargin
  rcases jpeg.2 with same | included
  · rw [same]
    rfl
  · rw [if_pos included]

variable {encoder settings buffer rect}

/-- Inside of the buffer a patch shows its pixels, unless it drops an alpha channel. -/
theorem shown_inside {point : QPoint} (inside : point ∈ buffer.rect)
    (kept : patchHasAlpha encoder settings buffer rect = false →
      alphaLevel (buffer.pixel point) = 255) :
    shownPixel encoder settings buffer rect point = buffer.pixel point := by
  unfold shownPixel
  dsimp only
  rw [if_pos inside]
  cases alpha : patchHasAlpha encoder settings buffer rect with
  | true => rfl
  | false =>
      rw [if_neg Bool.false_ne_true]
      exact rgb_of_alpha (kept alpha)

theorem filled_around (finds : FindsAlpha encoder) (enabled : settings.alphaChannelEnabled = true)
    (none : patchHasAlpha encoder settings buffer rect = false) {point : QPoint}
    (near : point ∈ rectEnlarged settings rect) (inside : point ∈ buffer.rect) :
    alphaLevel (buffer.pixel point) = 255 := by
  unfold patchHasAlpha at none
  rw [enabled, Bool.true_and] at none
  by_contra visible
  have found := (finds buffer (rectEnlarged settings rect)).mpr ⟨point, near, inside, visible⟩
  rw [none] at found
  cases found

end Branches

section Formats

variable {encoder : PatchEncoder} {codec : PatchCodec}

theorem LosslessCodec.besidesJpeg (lossless : LosslessCodec encoder codec) :
    LosslessBesidesJpeg encoder codec where
  sizes format image _ filled := lossless.sizes format image filled
  pixels format image other := lossless.pixels format image fun jpeg => absurd jpeg other

theorem without_jpeg_lossless (lossless : LosslessBesidesJpeg encoder codec) :
    LosslessCodec (withoutJpeg encoder) codec := by
  have replaced : ∀ format : PatchFormat, (if format = .jpeg then .png else format) ≠ .jpeg := by
    intro format
    split_ifs with jpeg
    · decide
    · exact jpeg
  constructor
  · intro format image filled
    exact lossless.sizes _ image (replaced format) filled
  · intro format image _ point inside
    exact lossless.pixels _ image (replaced format) point inside

theorem create_patch_without_jpeg {settings : EncoderSettings}
    (without : includes settings.patchEncodingFormat .jpeg = false) (buffer : QImage) (rect : QRect) :
    createPatch (withoutJpeg encoder) settings buffer rect =
      createPatch encoder settings buffer rect := by
  have never : ∀ other, sentAsJpeg other settings buffer rect = false := by
    intro other
    have different : (settings.patchEncodingFormat == .jpeg) = false := by
      rw [beq_eq_false_iff_ne]
      intro same
      rw [same] at without
      exact absurd without (by decide)
    unfold sentAsJpeg
    rw [without, different]
    exact Bool.and_false _
  unfold createPatch
  rw [never, never]
  rfl

end Formats

/-- With a lossless codec nothing of the buffer is lost between `createPatch` and the image that is
loaded. -/
theorem create_patch_lossless {encoder : PatchEncoder} {codec : PatchCodec}
    (lossless : LosslessCodec encoder codec) (finds : FindsAlpha encoder)
    (alpha : CombinesAlpha codec) : Lossless (createPatch encoder) codec := by
  refine ⟨?_, alpha⟩
  intro settings buffer rect filled alphaKept
  have content := @create_patch_content encoder codec lossless settings buffer rect filled
  have branches := create_patch_cases encoder settings buffer rect
  have type := create_patch_type encoder settings buffer rect
  have least := lossy_margin settings
  have margin := content.margin
  generalize createPatch encoder settings buffer rect = patch at *
  have within : patch.artefactMargin ≤ lossyMargin settings := by
    rcases branches with ⟨_, none, _⟩ | ⟨_, same, _⟩
    · omega
    · omega
  have kept : patch.packedAlpha = true → patchHasAlpha encoder settings buffer rect = true := by
    intro packed
    rcases branches with ⟨_, _, plain⟩ | ⟨_, _, same⟩
    · rw [plain] at packed
      cases packed
    · rw [← same]
      exact packed
  have alphaShown (packed : patch.packedAlpha = true) {point : QPoint}
      (dropped : patchHasAlpha encoder settings buffer rect = false) :
      alphaLevel (buffer.pixel point) = 255 :=
    absurd ((kept packed).symm.trans dropped) (by decide)
  constructor
  · exact margin
  · exact type
  · exact content.width
  · exact content.height
  · intro plain point member inside
    rw [plain_colour content plain member]
    apply shown_inside inside
    intro dropped
    rcases alphaKept with enabled | solid
    · apply filled_around finds enabled dropped _ inside
      unfold patchArea QRect.adjusted at member
      unfold rectEnlarged QRect.adjusted
      rw [QRect.mem_iff] at member ⊢
      dsimp only at member ⊢
      omega
    · exact solid point member inside
  · intro packed point member inside
    rw [(content_pixel content member).2, packed, if_pos rfl,
      shown_inside inside (alphaShown packed), colours_of_rgb]
  · intro packed point member inside
    rw [Int.add_comm (patch.artefactMargin * 3), (content_level content packed member).2,
      shown_inside inside (alphaShown packed)]

section Rows

def rowsEncoder : PatchEncoder where
  hasAlphaValues buffer area := (QRect.rowMajor area).any fun point =>
    decide (point ∈ buffer.rect) && decide (alphaLevel (buffer.pixel point) ≠ 255)
  pngPreferred _ := false
  save _ image := (rectRows image image.rect).flatMap rowBytes

theorem rows_encoder_finds : FindsAlpha rowsEncoder := by
  intro buffer area
  unfold rowsEncoder
  dsimp only
  rw [List.any_eq_true]
  constructor
  · intro found
    obtain ⟨point, member, parts⟩ := found
    rw [Bool.and_eq_true, decide_eq_true_eq, decide_eq_true_eq] at parts
    exact ⟨point, QRect.mem_row_major.mp member, parts⟩
  · intro found
    obtain ⟨point, member, parts⟩ := found
    refine ⟨point, QRect.mem_row_major.mpr member, ?_⟩
    rw [Bool.and_eq_true, decide_eq_true_eq, decide_eq_true_eq]
    exact parts

theorem rows_loaded (format : PatchFormat) (image : QImage) :
    rowsCodec.loadFromData (rowsEncoder.save format image) =
      rowsImage (rectRows image image.rect) := congrArg rowsImage (rows_read _)

theorem rows_encoder_lossless : LosslessCodec rowsEncoder rowsCodec where
  sizes format image filled := by
    have size := @rect_rows_size image image.rect filled
    unfold QImage.rect at size
    rw [QRect.of_size_width, QRect.of_size_height] at size
    rw [rows_loaded]
    unfold QImage.SameSize QImage.rect
    omega
  pixels format image _ point member := by
    have bounds := QImage.mem_rect.mp member
    have row : point.y.toNat < image.rect.height.toNat := by
      unfold QImage.rect
      rw [QRect.of_size_height]
      omega
    have column : point.x.toNat < image.rect.width.toNat := by
      unfold QImage.rect
      rw [QRect.of_size_width]
      omega
    rw [rows_loaded]
    change ((rectRows image image.rect).getD point.y.toNat []).getD point.x.toNat 0 = _
    rw [rect_rows_pixel row column]
    congr 1
    apply QPoint.ext_coordinates
    · change 0 + (point.x.toNat : Int) = point.x
      omega
    · change 0 + (point.y.toNat : Int) = point.y
      omega

theorem rows_lossless : Lossless (createPatch rowsEncoder) rowsCodec :=
  create_patch_lossless rows_encoder_lossless rows_encoder_finds rows_alpha

end Rows

end Viridity.PatchEncoding
