import Mathlib.Data.Rat.Floor
import Mathlib.Tactic.Linarith
import Mathlib.Tactic.NormNum
import Viridity.Compositing
import Viridity.PatchEncoding

/-!
# Where patches are drawn

The `dI` branch of the renderer draws a patch on its rectangle; the player draws the image of
a patch to its end, the margin included. On a canvas, colours are multiplied by their alpha and
exact.
-/

namespace Viridity.PatchGeometry

open Viridity.QtRectangle
open Viridity.ImageAux
open Viridity.Compositing
open Viridity.Compositing.Pixel
open Viridity.PaintedCanvas
open Viridity.BufferRenderer
open Viridity.SceneDisplay
open Viridity.PlayerPainting
open Viridity.PatchEncoding

set_option autoImplicit false

abbrev CanvasPixel := Pixel ℚ

def redLevel (pixel : QRgb) : Nat := pixel.toNat / 65536 % 256
def greenLevel (pixel : QRgb) : Nat := pixel.toNat / 256 % 256
def blueLevel (pixel : QRgb) : Nat := pixel.toNat % 256

def canvasPixel (pixel : QRgb) : CanvasPixel :=
  scale (alphaLevel pixel / 255)
    ⟨1, redLevel pixel / 255, greenLevel pixel / 255, blueLevel pixel / 255⟩

structure CanvasImage where
  width : Int
  height : Int
  pixel : QPoint → CanvasPixel

def decoded (image : QImage) : CanvasImage :=
  ⟨image.width, image.height, fun point => canvasPixel (image.pixel point)⟩

def clearRect (x y width height : Int) (canvas : QPoint → CanvasPixel) : QPoint → CanvasPixel :=
  composite (fun source _ => source) (QRect.ofSize x y width height).contains (fun _ => clear) canvas

/-- `drawImage(image, sx, sy, width, height, dx, dy, width, height)`, clipped to the image. -/
def drawCanvasImage (operator : CanvasPixel → CanvasPixel → CanvasPixel) (image : CanvasImage)
    (sx sy width height dx dy : Int) (canvas : QPoint → CanvasPixel) : QPoint → CanvasPixel :=
  composite operator
    (fun point => (QRect.ofSize dx dy width height).contains point &&
      (QRect.ofSize 0 0 image.width image.height).contains
        ⟨point.x - dx + sx, point.y - dy + sy⟩)
    (fun point => image.pixel ⟨point.x - dx + sx, point.y - dy + sy⟩) canvas

def byteLevel (value : ℚ) : Nat := ⌊255 * value + 1 / 2⌋.toNat

/-- The four bytes of `getImageData`, whose colours are not multiplied by their alpha. -/
def imageData (pixel : CanvasPixel) : QRgb :=
  BitVec.ofNat 32 (byteLevel pixel.alpha * 16777216 + byteLevel (pixel.red / pixel.alpha) * 65536 +
    byteLevel (pixel.green / pixel.alpha) * 256 + byteLevel (pixel.blue / pixel.alpha))

/-- `data[i] = 255 - data[i - 3]`. -/
def invertedAlpha (pixel : QRgb) : QRgb := withAlpha (255 - redLevel pixel) pixel

/-- `img.onload` on the canvas of the display. -/
def renderImage (image : QImage) (isPackedAlpha : Bool)
    (dstX dstY imgWidth imgHeight margin : Int) (ctx : QPoint → CanvasPixel) :
    QPoint → CanvasPixel :=
  let cleared := clearRect dstX dstY imgWidth imgHeight ctx
  let coloured := drawCanvasImage sourceOver (decoded image) margin margin imgWidth imgHeight
    dstX dstY cleared
  if isPackedAlpha then
    let alphaCanvas := drawCanvasImage sourceOver (decoded image) margin (imgHeight + margin * 3)
      imgWidth imgHeight 0 0 (fun _ => clear)
    let idata := fun point => invertedAlpha (imageData (alphaCanvas point))
    drawCanvasImage xor ⟨imgWidth, imgHeight, fun point => canvasPixel (idata point)⟩ 0 0 imgWidth
      imgHeight dstX dstY coloured
  else coloured

/-- The canvas shows the buffer on the rectangle and is unchanged beside it. -/
def RenderedExactly (buffer : QImage) (rect : QRect) (before after : QPoint → CanvasPixel) : Prop :=
  ∀ point, (point ∈ rect → after point = canvasPixel (buffer.pixel point)) ∧
    (point ∉ rect → after point = before point)

/-- The image has the buffer's pixels on the rectangle and is unchanged beside it. -/
def PlayedExactly (buffer : QImage) (rect : QRect) (before after : QImage) : Prop :=
  ∀ point ∈ before.rect, (point ∈ rect → after.pixel point = buffer.pixel point) ∧
    (point ∉ rect → after.pixel point = before.pixel point)

section Agreement

variable (encoder : PatchEncoder) (codec : PatchCodec) (settings : EncoderSettings)
variable (buffer : QImage) (rect : QRect)

/-- Both decoders write exactly the buffer's content over the rectangle of a patch. -/
def GeometryAgrees (ctx : QPoint → CanvasPixel) (workBuffer : QImage) : Prop :=
  let patch := createPatch encoder settings buffer rect
  RenderedExactly buffer rect ctx (renderImage (codec.loadFromData patch.data) patch.packedAlpha
      rect.x1 rect.y1 rect.width rect.height patch.artefactMargin ctx) ∧
    PlayedExactly buffer rect workBuffer (painted workBuffer (drawPatch codec patch.data
      patch.packedAlpha rect.x1 rect.y1 rect.width rect.height patch.artefactMargin))

/-- An opaque JPEG image overlaps what the player shows already: the buffer, and black beside it. -/
def OverlapShown (workBuffer : QImage) : Prop :=
  sentAsJpeg encoder settings buffer rect = true →
    patchHasAlpha encoder settings buffer rect = false →
      ∀ point ∈ rect.adjusted 0 0 8 8, point ∉ rect → point ∈ workBuffer.rect →
        workBuffer.pixel point = if point ∈ buffer.rect then buffer.pixel point else 0xFF000000

end Agreement

section Levels

theorem levels_of_grey {level : Nat} (small : level < 256) :
    redLevel (grey level) = level ∧ greenLevel (grey level) = level ∧
      blueLevel (grey level) = level := by
  have upper : (0xFF000000 + level * 0x010101) / 65536 = 0xFF00 + level := by omega
  have middle : (0xFF000000 + level * 0x010101) / 256 = 0xFF0000 + level * 257 := by omega
  unfold redLevel greenLevel blueLevel
  rw [grey_number small, upper, middle]
  omega

theorem levels_with_alpha {level : Nat} (small : level < 256) (pixel : QRgb) :
    alphaLevel (withAlpha level pixel) = level ∧
      redLevel (withAlpha level pixel) = redLevel pixel ∧
        greenLevel (withAlpha level pixel) = greenLevel pixel ∧
          blueLevel (withAlpha level pixel) = blueLevel pixel := by
  have number : (withAlpha level pixel).toNat =
      level * 16777216 + pixel.toNat % 16777216 := by
    unfold withAlpha colourBits
    rw [BitVec.toNat_ofNat]
    exact Nat.mod_eq_of_lt (by omega)
  unfold alphaLevel redLevel greenLevel blueLevel
  rw [number]
  omega

theorem byte_level_natural (level : Nat) : byteLevel (level / 255) = level := by
  have floor : ⌊255 * ((level : ℚ) / 255) + 1 / 2⌋ = (level : Int) := by
    rw [Int.floor_eq_iff]
    push_cast
    constructor
    · linarith
    · linarith
  unfold byteLevel
  rw [floor, Int.toNat_natCast]

theorem image_data_grey {level : Nat} (small : level < 256) :
    imageData (canvasPixel (grey level)) = grey level := by
  have filled := alpha_of_grey small
  have colours := levels_of_grey small
  have whole : byteLevel 1 = 255 := by
    have number := byte_level_natural 255
    norm_num at number
    exact number
  unfold canvasPixel scale imageData
  rw [filled, colours.1, colours.2.1, colours.2.2]
  norm_num
  rw [whole, byte_level_natural]
  unfold grey
  congr 1
  omega

theorem canvas_alpha {pixel : QRgb} (filled : alphaLevel pixel = 255) :
    (canvasPixel pixel).alpha = 1 := by
  unfold canvasPixel scale
  rw [filled]
  norm_num

/-- The alpha channel of a grey that was inverted is what is short of its level. -/
theorem inverted_grey {level : Nat} (small : level < 256) :
    1 - (canvasPixel (invertedAlpha (grey level))).alpha = level / 255 := by
  have complement : 255 - level < 256 := by omega
  unfold invertedAlpha
  rw [(levels_of_grey small).1]
  unfold canvasPixel scale
  rw [(levels_with_alpha complement (grey level)).1, Nat.cast_sub (by omega)]
  push_cast
  ring

theorem scaled_rgb (pixel : QRgb) :
    scale ((alphaLevel pixel : ℚ) / 255) (canvasPixel (withAlpha 255 pixel)) = canvasPixel pixel := by
  obtain ⟨alpha, red, green, blue⟩ := levels_with_alpha (show 255 < 256 by decide) pixel
  unfold canvasPixel scale
  rw [alpha, red, green, blue]
  norm_num

end Levels

section Canvases

variable {operator : CanvasPixel → CanvasPixel → CanvasPixel} {image : CanvasImage}
variable {sx sy width height dx dy : Int} {canvas : QPoint → CanvasPixel} {point : QPoint}

theorem clear_inside (inside : point ∈ QRect.ofSize dx dy width height) :
    clearRect dx dy width height canvas point = clear :=
  composite_covered (QRect.contains_iff.mpr inside)

theorem clear_outside (outside : point ∉ QRect.ofSize dx dy width height) :
    clearRect dx dy width height canvas point = canvas point :=
  composite_uncovered (Bool.eq_false_iff.mpr fun covered => outside (QRect.contains_iff.mp covered))

theorem draw_inside (inside : point ∈ QRect.ofSize dx dy width height)
    (readable : (⟨point.x - dx + sx, point.y - dy + sy⟩ : QPoint) ∈
      QRect.ofSize 0 0 image.width image.height) :
    drawCanvasImage operator image sx sy width height dx dy canvas point =
      operator (image.pixel ⟨point.x - dx + sx, point.y - dy + sy⟩) (canvas point) := by
  apply composite_covered
  rw [Bool.and_eq_true, QRect.contains_iff, QRect.contains_iff]
  exact ⟨inside, readable⟩

theorem draw_outside (outside : point ∉ QRect.ofSize dx dy width height) :
    drawCanvasImage operator image sx sy width height dx dy canvas point = canvas point := by
  apply composite_uncovered
  rw [Bool.and_eq_false_iff]
  left
  exact Bool.eq_false_iff.mpr fun covered => outside (QRect.contains_iff.mp covered)

end Canvases

theorem painted_same_size (image : QImage) (first second : Patch QPoint QRgb) :
    QImage.SameSize (painted image first) (painted image second) := ⟨rfl, rfl⟩

section Decoders

variable {codec : PatchCodec} {shown : QPoint → QRgb} {rect : QRect}
variable {patch : GraphicsSceneFramePatch} (content : PatchContent codec shown rect patch)

include content

theorem content_alpha {point : QPoint} (packed : patch.packedAlpha = true) (member : point ∈ rect) :
    drawCanvasImage sourceOver (decoded (codec.loadFromData patch.data)) patch.artefactMargin
        (rect.height + patch.artefactMargin * 3) rect.width rect.height 0 0 (fun _ => clear)
        ⟨point.x - rect.x1, point.y - rect.y1⟩ =
      canvasPixel (grey (alphaLevel (shown point))) := by
  obtain ⟨readable, level⟩ := content_level content packed member
  have bounds := QRect.mem_iff.mp member
  have inside : (⟨point.x - rect.x1, point.y - rect.y1⟩ : QPoint) ∈
      QRect.ofSize 0 0 rect.width rect.height := by
    rw [QRect.mem_of_size]
    unfold QRect.width QRect.height
    dsimp only
    omega
  rw [draw_inside inside (by rw [Int.sub_zero, Int.sub_zero]; exact readable), Int.sub_zero,
    Int.sub_zero, source_over_clear, ← level]
  rfl

/-- The renderer draws what a patch shows on its rectangle and nowhere else. -/
theorem rendered_patch (ctx : QPoint → CanvasPixel) (point : QPoint) :
    renderImage (codec.loadFromData patch.data) patch.packedAlpha rect.x1 rect.y1 rect.width
        rect.height patch.artefactMargin ctx point =
      if point ∈ rect then canvasPixel (shown point) else ctx point := by
  have covered : point ∈ QRect.ofSize rect.x1 rect.y1 rect.width rect.height ↔ point ∈ rect := by
    rw [QRect.mem_of_size, QRect.mem_iff]
    unfold QRect.width QRect.height
    omega
  unfold renderImage
  dsimp only
  by_cases member : point ∈ rect
  · rw [if_pos member]
    obtain ⟨readable, pixel⟩ := content_pixel content member
    have coloured : drawCanvasImage sourceOver (decoded (codec.loadFromData patch.data))
        patch.artefactMargin patch.artefactMargin rect.width rect.height rect.x1 rect.y1
        (clearRect rect.x1 rect.y1 rect.width rect.height ctx) point =
          canvasPixel (if patch.packedAlpha then withAlpha 255 (shown point) else shown point) := by
      rw [draw_inside (covered.mpr member) (by exact readable), clear_inside (covered.mpr member),
        source_over_clear, ← pixel]
      rfl
    cases packed : patch.packedAlpha with
    | false =>
        rw [packed] at coloured
        exact coloured
    | true =>
        rw [packed] at coloured
        have bounds := QRect.mem_iff.mp member
        have inside : (⟨point.x - rect.x1 + 0, point.y - rect.y1 + 0⟩ : QPoint) ∈
            QRect.ofSize 0 0 rect.width rect.height := by
          rw [QRect.mem_of_size]
          unfold QRect.width QRect.height
          dsimp only
          omega
        rw [if_pos rfl, draw_inside (covered.mpr member) (by exact inside), coloured, if_pos rfl,
          xor_filled (canvas_alpha (alpha_of_rgb _)), Int.add_zero, Int.add_zero]
        dsimp only
        rw [content_alpha content packed member, image_data_grey (alpha_small _),
          inverted_grey (alpha_small _), scaled_rgb]
  · rw [if_neg member]
    have outside : point ∉ QRect.ofSize rect.x1 rect.y1 rect.width rect.height :=
      fun inside => member (covered.mp inside)
    split_ifs
    · rw [draw_outside outside, draw_outside outside, clear_outside outside]
    · rw [draw_outside outside, clear_outside outside]

theorem plain_covers (plain : patch.packedAlpha = false) (point : QPoint) :
    (drawImage (codec.loadFromData patch.data) rect.x1 rect.y1 patch.artefactMargin
        patch.artefactMargin).covers point = true ↔ point ∈ patchArea rect patch.artefactMargin := by
  have margin := content.margin
  have width := content.width
  have height := content.height
  rw [plain, if_neg Bool.false_ne_true] at height
  unfold QRect.width at width
  unfold QRect.height at height
  unfold patchArea QRect.adjusted
  rw [draw_image_covers, QImage.mem_rect, QRect.mem_iff]
  dsimp only
  omega

omit content in
theorem packed_covers (alpha : CombinesAlpha codec) (filled : rect.isEmpty = false)
    (image : QImage) (margin : Int) (point : QPoint) :
    (drawImage (unpackedImage codec image rect.width rect.height margin) rect.x1 rect.y1 0 0).covers
      point = true ↔ point ∈ rect := by
  have extent := QRect.not_is_empty_iff_extent.mp filled
  have blank := blank_image_size extent
  have size := alpha.sizes
    (painted (blankImage rect.width rect.height) (drawImage image 0 0 margin (margin * 3 + rect.height)))
    (painted (blankImage rect.width rect.height) (drawImage image 0 0 margin margin))
    (painted_same_size _ _ _)
  have width : ((unpackedImage codec image rect.width rect.height margin).width : Int) =
      rect.width := by
    unfold unpackedImage
    dsimp only
    rw [size.1]
    unfold painted
    rw [blank]
    exact Int.toNat_of_nonneg (by omega)
  have height : ((unpackedImage codec image rect.width rect.height margin).height : Int) =
      rect.height := by
    unfold unpackedImage
    dsimp only
    rw [size.2]
    unfold painted
    rw [blank]
    exact Int.toNat_of_nonneg (by omega)
  have right : rect.width = rect.x2 - rect.x1 + 1 := rfl
  have bottom : rect.height = rect.y2 - rect.y1 + 1 := rfl
  rw [draw_image_covers, QImage.mem_rect, QRect.mem_iff]
  dsimp only
  omega

end Decoders

section Patches

variable {encoder : PatchEncoder} {codec : PatchCodec} {settings : EncoderSettings}
variable {buffer : QImage} {rect : QRect}
variable (lossless : LosslessCodec encoder codec) (finds : FindsAlpha encoder)
variable (enabled : settings.alphaChannelEnabled = true) (filled : rect.isEmpty = false)
variable (inside : ∀ point ∈ rect, point ∈ buffer.rect)

include finds enabled

theorem shown_around {point : QPoint} (near : point ∈ rectEnlarged settings rect) :
    shownPixel encoder settings buffer rect point =
      if point ∈ buffer.rect then buffer.pixel point
      else if patchHasAlpha encoder settings buffer rect then 0 else 0xFF000000 := by
  by_cases member : point ∈ buffer.rect
  · rw [if_pos member]
    exact shown_inside member fun none => filled_around finds enabled none near member
  · unfold shownPixel
    dsimp only
    rw [if_neg member, if_neg member]
    rfl

theorem shown_rect {point : QPoint} (member : point ∈ rect) (within : point ∈ buffer.rect) :
    shownPixel encoder settings buffer rect point = buffer.pixel point := by
  have margin := lossy_margin settings
  have near : point ∈ rectEnlarged settings rect := by
    unfold rectEnlarged QRect.adjusted
    rw [QRect.mem_iff] at member ⊢
    dsimp only
    omega
  rw [shown_around finds enabled near, if_pos within]

theorem shown_overlap (jpeg : sentAsJpeg encoder settings buffer rect = true)
    (none : patchHasAlpha encoder settings buffer rect = false) {point : QPoint}
    (near : point ∈ rect.adjusted 0 0 8 8) :
    shownPixel encoder settings buffer rect point =
      if point ∈ buffer.rect then buffer.pixel point else 0xFF000000 := by
  have around : point ∈ rectEnlarged settings rect := by
    unfold rectEnlarged
    rw [jpeg_margin encoder settings buffer rect jpeg]
    unfold QRect.adjusted at near ⊢
    rw [QRect.mem_iff] at near ⊢
    dsimp only at near ⊢
    omega
  rw [shown_around finds enabled around, none, if_neg Bool.false_ne_true]

include lossless filled inside

theorem rendered_exactly (ctx : QPoint → CanvasPixel) :
    RenderedExactly buffer rect ctx
      (renderImage (codec.loadFromData (createPatch encoder settings buffer rect).data)
        (createPatch encoder settings buffer rect).packedAlpha rect.x1 rect.y1 rect.width rect.height
        (createPatch encoder settings buffer rect).artefactMargin ctx) := by
  intro point
  have content := @create_patch_content encoder codec lossless settings buffer rect filled
  rw [rendered_patch content]
  constructor
  · intro member
    rw [if_pos member, shown_rect finds enabled member (inside point member)]
  · intro beside
    rw [if_neg beside]

/-- The player's pixel at a point: the buffer's on the rectangle, and what an opaque JPEG image shows
in its margin. -/
theorem played_pixel (alpha : CombinesAlpha codec) (workBuffer : QImage) (point : QPoint) :
    (painted workBuffer (drawPatch codec (createPatch encoder settings buffer rect).data
        (createPatch encoder settings buffer rect).packedAlpha rect.x1 rect.y1 rect.width rect.height
        (createPatch encoder settings buffer rect).artefactMargin)).pixel point =
      if point ∈ rect then buffer.pixel point
      else if (createPatch encoder settings buffer rect).packedAlpha = false ∧
          point ∈ patchArea rect (createPatch encoder settings buffer rect).artefactMargin then
        shownPixel encoder settings buffer rect point
      else workBuffer.pixel point := by
  have content := @create_patch_content encoder codec lossless settings buffer rect filled
  have margin := content.margin
  obtain ⟨covers, colours⟩ := @lossless_patch_drawn (createPatch encoder) codec
    (create_patch_lossless lossless finds alpha) settings buffer rect filled (Or.inl enabled)
  rw [painted_pixel]
  by_cases member : point ∈ rect
  · rw [if_pos member, if_pos (covers point member)]
    exact colours point (inside point member) (covers point member)
  · rw [if_neg member]
    generalize createPatch encoder settings buffer rect = patch at *
    unfold drawPatch
    dsimp only
    cases packed : patch.packedAlpha with
    | true =>
        have outside : ¬ (drawImage (unpackedImage codec (codec.loadFromData patch.data) rect.width
            rect.height patch.artefactMargin) rect.x1 rect.y1 0 0).covers point = true :=
          fun covered => member ((packed_covers alpha filled _ _ point).mp covered)
        rw [if_pos rfl, if_neg outside, if_neg (fun both => Bool.false_ne_true both.1.symm)]
    | false =>
        rw [if_neg Bool.false_ne_true]
        have area := plain_covers content packed point
        by_cases near : point ∈ patchArea rect patch.artefactMargin
        · rw [if_pos (area.mpr near), if_pos ⟨rfl, near⟩, ← plain_colour content packed near]
          rfl
        · rw [if_neg (fun covered => near (area.mp covered)), if_neg (fun both => near both.2)]

/-- The player writes exactly the rectangle exactly if the margin of an opaque JPEG image falls on
what is shown already. -/
theorem played_exactly_iff (alpha : CombinesAlpha codec) (workBuffer : QImage) :
    PlayedExactly buffer rect workBuffer (painted workBuffer (drawPatch codec
        (createPatch encoder settings buffer rect).data
        (createPatch encoder settings buffer rect).packedAlpha rect.x1 rect.y1 rect.width rect.height
        (createPatch encoder settings buffer rect).artefactMargin)) ↔
      OverlapShown encoder settings buffer rect workBuffer := by
  have pixels := played_pixel lossless finds enabled filled inside alpha workBuffer
  have branches := create_patch_cases encoder settings buffer rect
  have within : ∀ point, point ∈ patchArea rect 0 ↔ point ∈ rect := by
    intro point
    unfold patchArea QRect.adjusted
    rw [QRect.mem_iff, QRect.mem_iff]
    dsimp only
    omega
  constructor
  · intro exact' jpeg none point near outside visible
    have kept := (exact' point visible).2 outside
    rcases branches with ⟨other, _⟩ | ⟨_, margin, packed⟩
    · rw [jpeg] at other
      cases other
    · rw [jpeg_margin encoder settings buffer rect jpeg] at margin
      rw [pixels, if_neg outside, packed, none, margin, if_pos ⟨rfl, near⟩] at kept
      rw [← kept, shown_overlap finds enabled jpeg none near]
  · intro overlap point visible
    rw [pixels]
    constructor
    · intro member
      rw [if_pos member]
    · intro outside
      rw [if_neg outside]
      split_ifs with beside
      · rcases branches with ⟨_, margin, _⟩ | ⟨jpeg, margin, packed⟩
        · rw [margin, within] at beside
          exact absurd beside.2 outside
        · have none : patchHasAlpha encoder settings buffer rect = false := by
            rw [← packed]
            exact beside.1
          rw [margin, jpeg_margin encoder settings buffer rect jpeg] at beside
          rw [shown_overlap finds enabled jpeg none beside.2]
          exact (overlap jpeg none point beside.2 outside visible).symm
      · rfl

/-- The renderer draws every patch on its rectangle only, and the player does so too unless the
image is an opaque JPEG image whose margin covers something else. -/
theorem geometry_agrees_iff (alpha : CombinesAlpha codec) (ctx : QPoint → CanvasPixel)
    (workBuffer : QImage) :
    GeometryAgrees encoder codec settings buffer rect ctx workBuffer ↔
      OverlapShown encoder settings buffer rect workBuffer := by
  unfold GeometryAgrees
  dsimp only
  rw [played_exactly_iff lossless finds enabled filled inside alpha workBuffer]
  exact and_iff_right (rendered_exactly lossless finds enabled filled inside ctx)

end Patches

section Samples

def whiteBuffer : QImage := ⟨2, 1, fun _ => 0xFFFFFFFF⟩

theorem left_pixel_inside (pixel : QPoint → QRgb) :
    ∀ point ∈ (⟨0, 0, 0, 0⟩ : QRect), point ∈ (⟨2, 1, pixel⟩ : QImage).rect := by
  intro point member
  rw [QRect.mem_iff] at member
  rw [QImage.mem_rect]
  change 0 ≤ point.x ∧ point.x < 2 ∧ 0 ≤ point.y ∧ point.y < 1
  dsimp only at member
  omega

theorem white_without_alpha (settings : EncoderSettings) (rect : QRect) :
    patchHasAlpha rowsEncoder settings whiteBuffer rect = false := by
  rw [Bool.eq_false_iff]
  intro found
  unfold patchHasAlpha at found
  rw [Bool.and_eq_true, rows_encoder_finds] at found
  obtain ⟨point, _, _, visible⟩ := found.2
  exact visible (show alphaLevel 0xFFFFFFFF = 255 by decide)

def jpegSettings : EncoderSettings := { EncoderSettings.default with patchEncodingFormat := .jpeg }

def translucentBuffer : QImage :=
  ⟨2, 1, fun point => if point.x = 0 then 0x80FF0000 else 0xFFFFFFFF⟩

theorem translucent_has_alpha :
    patchHasAlpha rowsEncoder jpegSettings translucentBuffer ⟨0, 0, 0, 0⟩ = true := by
  unfold patchHasAlpha
  rw [Bool.and_eq_true, rows_encoder_finds]
  exact ⟨rfl, ⟨0, 0⟩, by decide, by decide, by decide⟩

/-- JPEG images of the left pixel: an opaque one whose margin falls on the white pixel beside it,
and one with a packed alpha channel. -/
theorem jpeg_patches_agree :
    GeometryAgrees rowsEncoder rowsCodec jpegSettings whiteBuffer ⟨0, 0, 0, 0⟩ (fun _ => clear)
        whiteBuffer ∧
      GeometryAgrees rowsEncoder rowsCodec jpegSettings translucentBuffer ⟨0, 0, 0, 0⟩
        (fun _ => clear) ⟨2, 1, fun _ => 0⟩ := by
  constructor
  · refine (geometry_agrees_iff rows_encoder_lossless rows_encoder_finds rfl (by decide)
      (left_pixel_inside _) rows_alpha (fun _ => clear) whiteBuffer).mpr ?_
    intro _ _ point _ _ visible
    exact (if_pos visible).symm
  · refine (geometry_agrees_iff rows_encoder_lossless rows_encoder_finds rfl (by decide)
      (left_pixel_inside _) rows_alpha (fun _ => clear) ⟨2, 1, fun _ => 0⟩).mpr ?_
    intro _ none
    exact absurd (translucent_has_alpha.symm.trans none) (by decide)

/-- A JPEG image of the left one also overwrites the right one. -/
theorem jpeg_margin_played :
    ¬ ∀ (encoder : PatchEncoder) (codec : PatchCodec) (settings : EncoderSettings) (buffer : QImage)
      (rect : QRect) (ctx : QPoint → CanvasPixel) (workBuffer : QImage),
      LosslessCodec encoder codec → FindsAlpha encoder → CombinesAlpha codec →
        settings.alphaChannelEnabled = true → rect.isEmpty = false →
          (∀ point ∈ rect, point ∈ buffer.rect) →
            GeometryAgrees encoder codec settings buffer rect ctx workBuffer := by
  intro agrees
  have both := agrees rowsEncoder rowsCodec
    { EncoderSettings.default with patchEncodingFormat := .jpeg } whiteBuffer ⟨0, 0, 0, 0⟩
    (fun _ => clear) ⟨2, 1, fun _ => 0⟩ rows_encoder_lossless rows_encoder_finds rows_alpha rfl
    (by decide) (left_pixel_inside _)
  have overlap := (played_exactly_iff rows_encoder_lossless rows_encoder_finds rfl (by decide)
    (left_pixel_inside _) rows_alpha ⟨2, 1, fun _ => 0⟩).mp both.2
  have black := overlap (by decide) (white_without_alpha _ _) ⟨1, 0⟩ (by decide) (by decide) (by decide)
  revert black
  decide

end Samples

end Viridity.PatchGeometry
