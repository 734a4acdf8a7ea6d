import Viridity.DisplayClient
import Viridity.PatchGeometry
import Viridity.PictureUpdates
import Viridity.ReplayedFrames

/-!
# The canvases of a display

The operations of a frame are painted on the back canvas, where a move reads the front canvas,
and a finished frame is copied to the front. The back canvas gets the size of its container at
once, the front canvas at the next copy.
-/

namespace Viridity.CanvasPainting

open Viridity.QtRectangle
open Viridity.ImageAux
open Viridity.Compositing
open Viridity.Compositing.Pixel
open Viridity.PictureUpdates
open Viridity.BufferRenderer
open Viridity.SceneDisplay
open Viridity.PatchRequests
open Viridity.PlayerPainting
open Viridity.PatchEncoding
open Viridity.PatchGeometry
open Viridity.DisplayClient
open Viridity.ReplayedFrames
open GraphicsSceneDisplay (announcedType)

set_option autoImplicit false

structure Canvases where
  canvas : CanvasImage
  frontCanvas : CanvasImage

def canvasRect (canvas : CanvasImage) : QRect := QRect.ofSize 0 0 canvas.width canvas.height

def pixelAt (canvas : CanvasImage) (point : QPoint) : Option CanvasPixel :=
  if point ∈ canvasRect canvas then some (canvas.pixel point) else none

def fillCanvasRect (fillStyle : QRgb) (x y width height : Int) (canvas : QPoint → CanvasPixel) :
    QPoint → CanvasPixel :=
  composite sourceOver (QRect.ofSize x y width height).contains (fun _ => canvasPixel fillStyle) canvas

/-- `contentType.indexOf(";pa") > -1`. -/
def isPackedAlpha (contentType : String) : Bool :=
  decide (qString ";pa" <:+: qString contentType)

/-- What an operation makes of the back canvas; `data` is what was loaded for the image of a `dI`. -/
def paintOperation (codec : PatchCodec) (data : List UInt8) (canvases : Canvases) :
    DisplayMessage → QPoint → CanvasPixel
  | .fR _ rect fillColor =>
      fillCanvasRect (fillColor.getD 0xFF000000) rect.x1 rect.y1 rect.width rect.height
        (clearRect rect.x1 rect.y1 rect.width rect.height canvases.canvas.pixel)
  | .mI _ rect dstPoint =>
      drawCanvasImage sourceOver canvases.frontCanvas rect.x1 rect.y1 rect.width rect.height
        dstPoint.x dstPoint.y
        (clearRect dstPoint.x dstPoint.y rect.width rect.height canvases.canvas.pixel)
  | .dI _ rect artefactMargin mimeType _ =>
      renderImage (codec.loadFromData data) (isPackedAlpha mimeType) rect.x1 rect.y1 rect.width
        rect.height artefactMargin canvases.canvas.pixel
  | .fullUpdate _ => canvases.canvas.pixel
  | .frameEnd _ => canvases.canvas.pixel

def flipToFront (canvases : Canvases) : Canvases :=
  let width := canvases.canvas.width
  let height := canvases.canvas.height
  { canvases with
    frontCanvas := ⟨width, height, drawCanvasImage sourceOver canvases.canvas 0 0 width height 0 0
      (clearRect 0 0 width height canvases.frontCanvas.pixel)⟩ }

/-- `_resizeCanvas`: the content is kept and new space is filled with 0. -/
def resizeCanvas (canvas : CanvasImage) (width height : Int) : CanvasImage :=
  ⟨width, height, drawCanvasImage sourceOver canvas 0 0 canvas.width canvas.height 0 0
    (fun _ => clear)⟩

/-- What the client does to its canvases; `loaded` is the data of the images. -/
def canvasEvent (codec : PatchCodec) (loaded : DisplayMessage → List UInt8) (canvases : Canvases) :
    CanvasEvent → Canvases
  | .painted operation =>
      { canvases with
        canvas := { canvases.canvas with
          pixel := paintOperation codec (loaded operation) canvases operation } }
  | .failed _ => canvases
  | .flipped _ => flipToFront canvases

def Covers : DisplayMessage → QPoint → Prop
  | .fR _ rect _, point => point ∈ rect
  | .mI _ rect dstPoint, point => point ∈ QRect.ofSize dstPoint.x dstPoint.y rect.width rect.height
  | .dI _ rect _ _ _, point => point ∈ rect
  | .fullUpdate _, _ => False
  | .frameEnd _, _ => False

/-- An image as a picture; its pixels of value 0 are taken to say nothing. -/
def pictureOf (image : QImage) : Picture QPoint QRgb := ⟨fun point => point ∈ image.rect, image.pixel⟩

def CanvasShows (canvas : CanvasImage) (picture : Picture QPoint QRgb) : Prop :=
  Shows 0 (fun pixel => some (canvasPixel pixel)) (pixelAt canvas) picture

def Fits (picture : Picture QPoint QRgb) (canvas : CanvasImage) : Prop :=
  ∀ point, picture.area point → point ∈ canvasRect canvas

section Canvas

variable {canvas : CanvasImage} {point : QPoint}

theorem pixel_at_inside (inside : point ∈ canvasRect canvas) :
    pixelAt canvas point = some (canvas.pixel point) := if_pos inside

theorem of_pixel_at {pixel : CanvasPixel} (seen : pixelAt canvas point = some pixel) :
    point ∈ canvasRect canvas ∧ canvas.pixel point = pixel := by
  unfold pixelAt at seen
  split_ifs at seen with inside
  exact ⟨inside, Option.some.inj seen⟩

theorem of_size_whole (rect : QRect) :
    QRect.ofSize rect.x1 rect.y1 rect.width rect.height = rect := by
  simp only [QRect.ofSize, QRect.width, QRect.height]
  congr 1 <;> omega

theorem unmoved (point : QPoint) : (⟨point.x - 0 + 0, point.y - 0 + 0⟩ : QPoint) = point := by
  rw [Int.sub_zero, Int.sub_zero, Int.add_zero, Int.add_zero]

theorem resize_pixel_at {width height : Int} (inside : point ∈ canvasRect canvas)
    (room : point ∈ canvasRect (resizeCanvas canvas width height)) :
    pixelAt (resizeCanvas canvas width height) point = pixelAt canvas point := by
  rw [pixel_at_inside inside, pixel_at_inside room]
  unfold resizeCanvas
  simp only
  rw [draw_inside inside (by rw [unmoved]; exact inside), unmoved, source_over_clear]

theorem flip_pixel_at (canvases : Canvases) (point : QPoint) :
    pixelAt (flipToFront canvases).frontCanvas point = pixelAt canvases.canvas point := by
  by_cases inside : point ∈ canvasRect canvases.canvas
  · have room : point ∈ canvasRect (flipToFront canvases).frontCanvas := inside
    rw [pixel_at_inside inside, pixel_at_inside room]
    unfold flipToFront
    simp only
    rw [draw_inside inside (by rw [unmoved]; exact inside), unmoved, clear_inside inside,
      source_over_clear]
  · have outside : point ∉ canvasRect (flipToFront canvases).frontCanvas := inside
    unfold pixelAt
    rw [if_neg inside, if_neg outside]

end Canvas

section Operations

variable {codec : PatchCodec} {data : List UInt8} {canvases : Canvases} {point : QPoint}

theorem fill_painted (frame : Nat) (rect : QRect) (fillColor : QColor) (point : QPoint) :
    paintOperation codec data canvases (.fR frame rect fillColor) point =
      if point ∈ rect then canvasPixel (fillColor.getD 0xFF000000)
      else canvases.canvas.pixel point := by
  simp only [paintOperation, fillCanvasRect]
  split_ifs with inside
  · rw [← of_size_whole rect] at inside
    rw [composite_covered (QRect.contains_iff.mpr inside), clear_inside inside, source_over_clear]
  · rw [← of_size_whole rect] at inside
    rw [composite_uncovered (Bool.eq_false_iff.mpr fun covered =>
      inside (QRect.contains_iff.mp covered)), clear_outside inside]

theorem move_painted (frame : Nat) {rect : QRect} {dstPoint : QPoint}
    (inside : point ∈ QRect.ofSize dstPoint.x dstPoint.y rect.width rect.height)
    (readable : point.add (rect.topLeft.sub dstPoint) ∈ canvasRect canvases.frontCanvas) :
    paintOperation codec data canvases (.mI frame rect dstPoint) point =
      canvases.frontCanvas.pixel (point.add (rect.topLeft.sub dstPoint)) := by
  have source : (⟨point.x - dstPoint.x + rect.x1, point.y - dstPoint.y + rect.y1⟩ : QPoint) =
      point.add (rect.topLeft.sub dstPoint) := by
    apply QPoint.ext_coordinates
    · simp only [QPoint.add, QPoint.sub, QRect.topLeft]
      omega
    · simp only [QPoint.add, QPoint.sub, QRect.topLeft]
      omega
  simp only [paintOperation]
  rw [draw_inside inside (by rw [source]; exact readable), source, clear_inside inside,
    source_over_clear]

theorem move_beside (frame : Nat) {rect : QRect} {dstPoint : QPoint}
    (outside : point ∉ QRect.ofSize dstPoint.x dstPoint.y rect.width rect.height) :
    paintOperation codec data canvases (.mI frame rect dstPoint) point =
      canvases.canvas.pixel point := by
  simp only [paintOperation]
  rw [draw_outside outside, clear_outside outside]

variable {encoder : PatchEncoder} {settings : EncoderSettings} {buffer : QImage} {rect : QRect}

/-- The pixel the image of a patch leaves, as far as the patch lies in the buffer. -/
theorem image_painted (lossless : LosslessCodec encoder codec) (finds : FindsAlpha encoder)
    (enabled : settings.alphaChannelEnabled = true) (filled : rect.isEmpty = false)
    (frame : Nat) (returnBinary : Bool) (payload : PatchPayload) (within : point ∈ buffer.rect) :
    paintOperation codec (createPatch encoder settings buffer rect).data canvases
        (.dI frame rect (createPatch encoder settings buffer rect).artefactMargin
          (announcedType settings returnBinary (createPatch encoder settings buffer rect)) payload)
        point =
      if point ∈ rect then canvasPixel (buffer.pixel point) else canvases.canvas.pixel point := by
  have packed := (@announced_type_read settings returnBinary _
    (create_patch_type encoder settings buffer rect)).1
  have content := @create_patch_content encoder codec lossless settings buffer rect filled
  simp only [paintOperation, isPackedAlpha]
  rw [packed, rendered_patch content]
  split_ifs with inside
  · rw [shown_rect finds enabled inside within]
  · rfl

end Operations

end Viridity.CanvasPainting
