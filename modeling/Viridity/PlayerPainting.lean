import Viridity.BufferRenderer
import Viridity.PaintedCanvas
import Viridity.SceneDisplay

/-!
# What the player paints

The drawing calls of `advanceToNextFrame` on its work buffer, with `CompositionMode_Source`,
and the image it makes of the data of a patch. The codec is `loadFromData` and
`ImageUtils::intensityToAlpha`; a patch of `createPatch` is lossless when the image loaded
holds the pixels of the buffer.
-/

namespace Viridity.PlayerPainting

open Viridity.QtRectangle
open Viridity.ImageAux
open Viridity.PaintedCanvas
open Viridity.BufferRenderer
open Viridity.SceneDisplay

set_option autoImplicit false

def painted (image : QImage) (patch : Patch QPoint QRgb) : QImage :=
  { image with pixel := paint image.pixel patch }

/-- `drawImage(x, y, image, sx, sy, sw, sh)`: an extent that is not positive reaches to the end
of the image, and nothing is drawn from outside of it. -/
def drawImagePart (image : QImage) (x y sx sy sw sh : Int) : Patch QPoint QRgb where
  covers point :=
    (QRect.ofSize sx sy (if sw ≤ 0 then image.width - sx else sw)
        (if sh ≤ 0 then image.height - sy else sh)).contains ⟨point.x - x + sx, point.y - y + sy⟩ &&
      image.rect.contains ⟨point.x - x + sx, point.y - y + sy⟩
  colour point := image.pixel ⟨point.x - x + sx, point.y - y + sy⟩

def drawImage (image : QImage) (x y sx sy : Int) : Patch QPoint QRgb :=
  drawImagePart image x y sx sy (-1) (-1)

def fillRect (x y width height : Int) (colour : QColor) : Patch QPoint QRgb where
  covers point := (QRect.ofSize x y width height).contains point
  colour _ := colour.getD 0xFF000000

structure PatchCodec where
  loadFromData : List UInt8 → QImage
  intensityToAlpha : QImage → QImage → QImage

/-- The image of a patch whose alpha channel stands below its colours. -/
def unpackedImage (codec : PatchCodec) (image : QImage) (width height artefactMargin : Int) : QImage :=
  let colorImage := painted (blankImage width height)
    (drawImage image 0 0 artefactMargin artefactMargin)
  let alphaImage := painted (blankImage width height)
    (drawImage image 0 0 artefactMargin (artefactMargin * 3 + height))
  codec.intensityToAlpha alphaImage colorImage

def drawPatch (codec : PatchCodec) (data : List UInt8) (packedAlpha : Bool)
    (x y width height artefactMargin : Int) : Patch QPoint QRgb :=
  let image := codec.loadFromData data
  if packedAlpha then drawImage (unpackedImage codec image width height artefactMargin) x y 0 0
  else drawImage image x y artefactMargin artefactMargin

def alphaLevel (pixel : QRgb) : Nat := pixel.toNat / 16777216

def colourBits (pixel : QRgb) : Nat := pixel.toNat % 16777216

def grey (level : Nat) : QRgb := BitVec.ofNat 32 (0xFF000000 + level * 0x010101)

def withAlpha (level : Nat) (pixel : QRgb) : QRgb :=
  BitVec.ofNat 32 (level * 16777216 + colourBits pixel)

def patchArea (rect : QRect) (artefactMargin : Int) : QRect :=
  rect.adjusted 0 0 artefactMargin artefactMargin

/-- No encoder without an alpha channel is used for pixels that are not opaque. -/
def AlphaKept (settings : EncoderSettings) (buffer : QImage) (rect : QRect) (artefactMargin : Int) :
    Prop :=
  settings.alphaChannelEnabled = true ∨
    ∀ point ∈ patchArea rect artefactMargin, point ∈ buffer.rect →
      alphaLevel (buffer.pixel point) = 255

/-- The image loaded from a patch is the part of the buffer within its margin. With a packed
alpha channel the colours come first and the levels of the alpha channel below. -/
structure LosslessPatch (codec : PatchCodec) (buffer : QImage) (rect : QRect)
    (patch : GraphicsSceneFramePatch) : Prop where
  margin : 0 ≤ patch.artefactMargin
  type : patch.mimeType ∈ ["image/png", "image/jpeg", "image/bmp"]
  width : ((codec.loadFromData patch.data).width : Int) = rect.width + 2 * patch.artefactMargin
  height : ((codec.loadFromData patch.data).height : Int) =
    (if patch.packedAlpha then 2 else 1) * (rect.height + 2 * patch.artefactMargin)
  pixels : patch.packedAlpha = false → ∀ point ∈ patchArea rect patch.artefactMargin,
    point ∈ buffer.rect →
      (codec.loadFromData patch.data).pixel ⟨point.x - rect.x1 + patch.artefactMargin,
        point.y - rect.y1 + patch.artefactMargin⟩ = buffer.pixel point
  colours : patch.packedAlpha = true → ∀ point ∈ rect, point ∈ buffer.rect →
    colourBits ((codec.loadFromData patch.data).pixel ⟨point.x - rect.x1 + patch.artefactMargin,
      point.y - rect.y1 + patch.artefactMargin⟩) = colourBits (buffer.pixel point)
  levels : patch.packedAlpha = true → ∀ point ∈ rect, point ∈ buffer.rect →
    (codec.loadFromData patch.data).pixel ⟨point.x - rect.x1 + patch.artefactMargin,
      point.y - rect.y1 + (patch.artefactMargin * 3 + rect.height)⟩ =
        grey (alphaLevel (buffer.pixel point))

/-- `intensityToAlpha` takes the alpha channel of its second image from the first. -/
structure CombinesAlpha (codec : PatchCodec) : Prop where
  sizes : ∀ alphaImage colorImage : QImage, QImage.SameSize alphaImage colorImage →
    QImage.SameSize (codec.intensityToAlpha alphaImage colorImage) colorImage
  pixels : ∀ alphaImage colorImage : QImage, QImage.SameSize alphaImage colorImage →
    ∀ point ∈ colorImage.rect, ∀ level < 256, alphaImage.pixel point = grey level →
      (codec.intensityToAlpha alphaImage colorImage).pixel point =
        withAlpha level (colorImage.pixel point)

structure Lossless (createPatch : EncoderSettings → QImage → QRect → GraphicsSceneFramePatch)
    (codec : PatchCodec) : Prop where
  patches : ∀ settings buffer rect, rect.isEmpty = false →
    AlphaKept settings buffer rect (createPatch settings buffer rect).artefactMargin →
      LosslessPatch codec buffer rect (createPatch settings buffer rect)
  alpha : CombinesAlpha codec

section Drawing

variable {image : QImage} {point : QPoint} {x y sx sy sw sh : Int}

theorem draw_image_covers : (drawImage image x y sx sy).covers point = true ↔
    sx ≤ point.x - x + sx ∧ sy ≤ point.y - y + sy ∧
      (⟨point.x - x + sx, point.y - y + sy⟩ : QPoint) ∈ image.rect := by
  have source := @QImage.mem_rect image ⟨point.x - x + sx, point.y - y + sy⟩
  have extent := @QRect.mem_of_size sx sy (image.width - sx) (image.height - sy)
    ⟨point.x - x + sx, point.y - y + sy⟩
  unfold drawImage drawImagePart
  simp only [Int.reduceNeg, Int.reduceLE, if_true, Bool.and_eq_true, QRect.contains_iff]
  rw [extent, source]
  simp only
  omega

theorem draw_part_covers (wide : 0 < sw) (high : 0 < sh) :
    (drawImagePart image x y sx sy sw sh).covers point = true ↔
      point ∈ QRect.ofSize x y sw sh ∧
        (⟨point.x - x + sx, point.y - y + sy⟩ : QPoint) ∈ image.rect := by
  unfold drawImagePart
  rw [if_neg (by omega), if_neg (by omega)]
  simp only [Bool.and_eq_true, QRect.contains_iff, QRect.mem_of_size]
  apply and_congr_left'
  omega

end Drawing

theorem with_alpha_same {pixel other : QRgb} (colours : colourBits other = colourBits pixel) :
    withAlpha (alphaLevel pixel) other = pixel := by
  have bound := pixel.isLt
  unfold colourBits at colours
  apply BitVec.eq_of_toNat_eq
  unfold withAlpha alphaLevel colourBits
  rw [BitVec.toNat_ofNat, colours]
  omega

theorem blank_image_size {width height : Int} (filled : 0 < width ∧ 0 < height) :
    blankImage width height = ⟨width.toNat, height.toNat, fun _ => 0⟩ := by
  unfold blankImage
  rw [if_pos filled]

theorem painted_part_pixel {width height left top : Int} {image : QImage} {point : QPoint}
    (inWidth : 0 ≤ left ∧ left + width ≤ (image.width : Int))
    (inHeight : 0 ≤ top ∧ top + height ≤ (image.height : Int))
    (bounds : 0 ≤ point.x ∧ point.x < width ∧ 0 ≤ point.y ∧ point.y < height) :
    (painted (blankImage width height) (drawImage image 0 0 left top)).pixel point =
      image.pixel ⟨point.x + left, point.y + top⟩ := by
  unfold painted paint
  dsimp only
  rw [if_pos]
  · unfold drawImage drawImagePart
    dsimp only
    rw [Int.sub_zero, Int.sub_zero]
  · rw [draw_image_covers, QImage.mem_rect]
    simp only
    omega

section Patches

variable {codec : PatchCodec} {buffer : QImage} {rect : QRect} {patch : GraphicsSceneFramePatch}
variable (lossless : LosslessPatch codec buffer rect patch)

include lossless

/-- Without a packed alpha channel the image is drawn from its margin to its end. -/
theorem plain_patch_drawn (plain : patch.packedAlpha = false) :
    let operation := drawImage (codec.loadFromData patch.data) rect.x1 rect.y1 patch.artefactMargin
      patch.artefactMargin
    (∀ point ∈ rect, operation.covers point = true) ∧
      ∀ point ∈ buffer.rect, operation.covers point = true →
        operation.colour point = buffer.pixel point := by
  have margin := lossless.margin
  have width := lossless.width
  have height := lossless.height
  rw [plain, if_neg Bool.false_ne_true] at height
  unfold QRect.width at width
  unfold QRect.height at height
  constructor
  · intro point member
    rw [QRect.mem_iff] at member
    rw [draw_image_covers, QImage.mem_rect]
    simp only
    omega
  · intro point inside covered
    rw [draw_image_covers, QImage.mem_rect] at covered
    simp only at covered
    apply lossless.pixels plain point _ inside
    unfold patchArea QRect.adjusted
    rw [QRect.mem_iff]
    simp only
    omega

theorem packed_patch_drawn (alpha : CombinesAlpha codec)
    (filled : rect.isEmpty = false) (packed : patch.packedAlpha = true) :
    let operation := drawImage (unpackedImage codec (codec.loadFromData patch.data) rect.width
      rect.height patch.artefactMargin) rect.x1 rect.y1 0 0
    (∀ point ∈ rect, operation.covers point = true) ∧
      ∀ point ∈ buffer.rect, operation.covers point = true →
        operation.colour point = buffer.pixel point := by
  have margin := lossless.margin
  have width := lossless.width
  have height := lossless.height
  rw [packed, if_pos rfl] at height
  have extent := QRect.not_is_empty_iff_extent.mp filled
  have blank := blank_image_size extent
  let colorImage := painted (blankImage rect.width rect.height)
    (drawImage (codec.loadFromData patch.data) 0 0 patch.artefactMargin patch.artefactMargin)
  let alphaImage := painted (blankImage rect.width rect.height)
    (drawImage (codec.loadFromData patch.data) 0 0 patch.artefactMargin
      (patch.artefactMargin * 3 + rect.height))
  have size : QImage.SameSize (codec.intensityToAlpha alphaImage colorImage) colorImage :=
    alpha.sizes alphaImage colorImage ⟨rfl, rfl⟩
  have within : ∀ point : QPoint, point ∈ (codec.intensityToAlpha alphaImage colorImage).rect ↔
      0 ≤ point.x ∧ point.x < rect.width ∧ 0 ≤ point.y ∧ point.y < rect.height := by
    intro point
    rw [QImage.same_size_rect size, QImage.mem_rect]
    change 0 ≤ point.x ∧ point.x < ((blankImage rect.width rect.height).width : Int) ∧
      0 ≤ point.y ∧ point.y < ((blankImage rect.width rect.height).height : Int) ↔ _
    rw [blank]
    simp only
    omega
  constructor
  · intro point member
    rw [QRect.mem_iff] at member
    unfold QRect.width QRect.height at within
    change (drawImage (codec.intensityToAlpha alphaImage colorImage) rect.x1 rect.y1 0 0).covers
      point = true
    rw [draw_image_covers, within]
    simp only
    omega
  · intro point inside covered
    change (drawImage (codec.intensityToAlpha alphaImage colorImage) rect.x1 rect.y1 0 0).covers
      point = true at covered
    change (codec.intensityToAlpha alphaImage colorImage).pixel
      ⟨point.x - rect.x1 + 0, point.y - rect.y1 + 0⟩ = buffer.pixel point
    rw [draw_image_covers, within] at covered
    rw [Int.add_zero, Int.add_zero] at covered ⊢
    have member : point ∈ rect := by
      have bounds := covered.2.2
      unfold QRect.width QRect.height at bounds
      rw [QRect.mem_iff]
      simp only at bounds
      omega
    have level : alphaImage.pixel ⟨point.x - rect.x1, point.y - rect.y1⟩ =
        grey (alphaLevel (buffer.pixel point)) := by
      rw [painted_part_pixel (by omega) (by omega) covered.2.2]
      exact lossless.levels packed point member inside
    have colours : colourBits (colorImage.pixel ⟨point.x - rect.x1, point.y - rect.y1⟩) =
        colourBits (buffer.pixel point) := by
      rw [painted_part_pixel (by omega) (by omega) covered.2.2]
      exact lossless.colours packed point member inside
    have small : alphaLevel (buffer.pixel point) < 256 := by
      have bound := (buffer.pixel point).isLt
      unfold alphaLevel
      omega
    have inColours : (⟨point.x - rect.x1, point.y - rect.y1⟩ : QPoint) ∈ colorImage.rect := by
      rw [← QImage.same_size_rect size, within]
      exact covered.2.2
    rw [alpha.pixels alphaImage colorImage ⟨rfl, rfl⟩ _ inColours _ small level]
    exact with_alpha_same colours

end Patches

/-- A lossless patch is drawn on its whole rectangle, and as the buffer wherever it is drawn. -/
theorem lossless_patch_drawn
    {createPatch : EncoderSettings → QImage → QRect → GraphicsSceneFramePatch} {codec : PatchCodec}
    (lossless : Lossless createPatch codec) {settings : EncoderSettings} {buffer : QImage}
    {rect : QRect} (filled : rect.isEmpty = false)
    (alphaKept : AlphaKept settings buffer rect (createPatch settings buffer rect).artefactMargin) :
    let patch := createPatch settings buffer rect
    let operation := drawPatch codec patch.data patch.packedAlpha rect.x1 rect.y1 rect.width
      rect.height patch.artefactMargin
    (∀ point ∈ rect, operation.covers point = true) ∧
      ∀ point ∈ buffer.rect, operation.covers point = true →
        operation.colour point = buffer.pixel point := by
  have patch := lossless.patches settings buffer rect filled alphaKept
  unfold drawPatch
  dsimp only
  cases packed : (createPatch settings buffer rect).packedAlpha with
  | true =>
      rw [if_pos rfl]
      exact packed_patch_drawn patch lossless.alpha filled packed
  | false =>
      rw [if_neg Bool.false_ne_true]
      exact plain_patch_drawn patch packed

section Rows

def pixelBytes (pixel : QRgb) : List UInt8 :=
  [1, ⟨pixel.extractLsb' 0 8⟩, ⟨pixel.extractLsb' 8 8⟩, ⟨pixel.extractLsb' 16 8⟩,
    ⟨pixel.extractLsb' 24 8⟩]

def rowBytes (row : List QRgb) : List UInt8 := row.flatMap pixelBytes ++ [0]

def readRows : List UInt8 → List (List QRgb)
  | 1 :: blue :: green :: red :: alpha :: rest =>
      let pixel := BitVec.ofNat 32
        (blue.toNat + green.toNat * 256 + red.toNat * 65536 + alpha.toNat * 16777216)
      match readRows rest with
      | [] => [[pixel]]
      | row :: rows => (pixel :: row) :: rows
  | 0 :: rest => [] :: readRows rest
  | _ => []

def rowsImage (rows : List (List QRgb)) : QImage where
  width := (rows.headD []).length
  height := rows.length
  pixel point := (rows.getD point.y.toNat []).getD point.x.toNat 0

/-- A codec that knows one format, rows of uncompressed pixels. -/
def rowsCodec : PatchCodec where
  loadFromData data := rowsImage (readRows data)
  intensityToAlpha alphaImage colorImage :=
    { colorImage with
      pixel := fun point =>
        withAlpha ((alphaImage.pixel point).toNat % 256) (colorImage.pixel point) }

def rectRows (image : QImage) (rect : QRect) : List (List QRgb) :=
  (List.range rect.height.toNat).map fun (y : Nat) =>
    (List.range rect.width.toNat).map fun (x : Nat) => image.pixel ⟨rect.x1 + x, rect.y1 + y⟩

theorem pixel_read (pixel : QRgb) (rest : List UInt8) :
    readRows (pixelBytes pixel ++ rest) =
      match readRows rest with
      | [] => [[pixel]]
      | row :: rows => (pixel :: row) :: rows := by
  have bound := pixel.isLt
  have same : BitVec.ofNat 32 (pixel.toNat % 256 + pixel.toNat / 256 % 256 * 256 +
      pixel.toNat / 65536 % 256 * 65536 + pixel.toNat / 16777216 % 256 * 16777216) = pixel := by
    apply BitVec.eq_of_toNat_eq
    rw [BitVec.toNat_ofNat]
    omega
  have bytes : ∀ start, (⟨pixel.extractLsb' start 8⟩ : UInt8).toNat =
      pixel.toNat / 2 ^ start % 256 := by
    intro start
    change (pixel.extractLsb' start 8).toNat = _
    rw [BitVec.extractLsb'_toNat, Nat.shiftRight_eq_div_pow]
  unfold pixelBytes
  simp only [List.cons_append, List.nil_append, readRows, bytes, Nat.pow_zero, Nat.div_one,
    Nat.reducePow, same]

theorem row_read (row : List QRgb) (rest : List UInt8) :
    readRows (rowBytes row ++ rest) = row :: readRows rest := by
  induction row with
  | nil => rfl
  | cons pixel row induction =>
      have split : rowBytes (pixel :: row) ++ rest = pixelBytes pixel ++ (rowBytes row ++ rest) := by
        unfold rowBytes
        rw [List.flatMap_cons, List.append_assoc, List.append_assoc, List.append_assoc]
      rw [split, pixel_read, induction]

theorem rows_read (rows : List (List QRgb)) : readRows (rows.flatMap rowBytes) = rows := by
  induction rows with
  | nil => rfl
  | cons row rows induction => rw [List.flatMap_cons, row_read, induction]

theorem rect_rows_pixel {image : QImage} {rect : QRect} {row column : Nat}
    (high : row < rect.height.toNat) (wide : column < rect.width.toNat) :
    ((rectRows image rect).getD row []).getD column 0 =
      image.pixel ⟨rect.x1 + column, rect.y1 + row⟩ := by
  have line : (rectRows image rect).getD row [] =
      (List.range rect.width.toNat).map fun (x : Nat) => image.pixel ⟨rect.x1 + x, rect.y1 + row⟩ := by
    unfold rectRows
    rw [List.getD_eq_getElem _ _ (by rw [List.length_map, List.length_range]; exact high),
      List.getElem_map, List.getElem_range]
  rw [line, List.getD_eq_getElem _ _ (by rw [List.length_map, List.length_range]; exact wide),
    List.getElem_map, List.getElem_range]

theorem grey_low_byte {level : Nat} (small : level < 256) : (grey level).toNat % 256 = level := by
  have number : (grey level).toNat = (0xFF000000 + level * 0x010101) % 4294967296 := by
    unfold grey
    rw [BitVec.toNat_ofNat]
  rw [number]
  omega

theorem combined_pixel {alphaImage colorImage : QImage} {point : QPoint} {level : Nat}
    (small : level < 256) (same : alphaImage.pixel point = grey level) :
    (rowsCodec.intensityToAlpha alphaImage colorImage).pixel point =
      withAlpha level (colorImage.pixel point) := by
  have pixels : (rowsCodec.intensityToAlpha alphaImage colorImage).pixel = fun point =>
      withAlpha ((alphaImage.pixel point).toNat % 256) (colorImage.pixel point) := rfl
  have read : (alphaImage.pixel point).toNat % 256 = level := by
    rw [same]
    exact grey_low_byte small
  exact (congrFun pixels point).trans
    (congrArg (fun level => withAlpha level (colorImage.pixel point)) read)

theorem same_size_pixels (image : QImage) (pixel : QPoint → QRgb) :
    QImage.SameSize { image with pixel := pixel } image := ⟨rfl, rfl⟩

theorem rows_alpha : CombinesAlpha rowsCodec where
  sizes _ colorImage _ := same_size_pixels colorImage _
  pixels _ _ _ _ _ _ small same := combined_pixel small same

theorem rect_rows_size {image : QImage} {rect : QRect} (filled : rect.isEmpty = false) :
    ((rowsImage (rectRows image rect)).width : Int) = rect.width ∧
      ((rowsImage (rectRows image rect)).height : Int) = rect.height := by
  have extent := QRect.not_is_empty_iff_extent.mp filled
  have height : (rectRows image rect).length = rect.height.toNat := by
    unfold rectRows
    rw [List.length_map, List.length_range]
  have width : ((rectRows image rect).headD []).length = rect.width.toNat := by
    unfold rectRows
    cases rows : rect.height.toNat with
    | zero => omega
    | succ rest =>
        rw [List.range_succ_eq_map, List.map_cons, List.headD_cons, List.length_map,
          List.length_range]
  unfold rowsImage
  dsimp only
  omega

end Rows

end Viridity.PlayerPainting
