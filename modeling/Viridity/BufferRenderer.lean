import Viridity.FrameDifference
import Viridity.LabelledRuns

/-!
# GraphicsSceneBufferRenderer

Two buffers of one size swap roles at every paint. Slots return the renderer and
whether `damagedRegionAvailable` was emitted. What an adapter shows is a scene,
and rendering it draws the scene's pixels on the requested rectangles.
-/

namespace Viridity.BufferRenderer

open Viridity.QtRectangle
open Viridity.ImageAux
open Viridity.TileOperations
open Viridity.ImageComparerOpTools
open Viridity.FrameComparison
open Viridity.FrameDifference
open Viridity.LabelledRuns
open UpdateOperationType

set_option autoImplicit false

/-- What Qt and the build fix for all renderers. -/
structure Platform where
  regionRects : RegionRects
  mappedReduced : MappedReduced
  useAreaFingerPrints : Bool

/-- One rectangle for each pixel, one thread, no fingerprints. -/
def Platform.reference : Platform := ⟨RegionRects.pixelwise, MappedReduced.sequential, false⟩

structure Scene where
  width : Int
  height : Int
  pixel : QPoint → QRgb

def nullImage : QImage := ⟨0, 0, fun _ => 0⟩

def blankImage (width height : Int) : QImage :=
  if 0 < width ∧ 0 < height then ⟨width.toNat, height.toNat, fun _ => 0⟩ else nullImage

/-- `copy(0, 0, width, height)`: new space is transparent. -/
def resizedCopy (image : QImage) (width height : Int) : QImage :=
  if 0 < width ∧ 0 < height then
    ⟨width.toNat, height.toNat, fun point => if point ∈ image.rect then image.pixel point else 0⟩
  else nullImage

def isNullImage (image : QImage) : Bool := image.width == 0 || image.height == 0

def resizeBuffer (buffer : QImage) (width height : Int) : QImage :=
  if width ≠ buffer.width ∨ height ≠ buffer.height then
    if isNullImage buffer then blankImage width height else resizedCopy buffer width height
  else buffer

/-- `eraseRect` with the transparent white background for each rectangle. -/
def eraseRects (image : QImage) (rects : List QRect) : QImage :=
  { image with
    pixel := fun point =>
      if rects.any fun rect => rect.contains point then 0x00FFFFFF else image.pixel point }

def Scene.render (scene : Scene) (image : QImage) (rects : List QRect) : QImage :=
  { image with
    pixel := fun point =>
      if rects.any fun rect => rect.contains point then scene.pixel point else image.pixel point }

/-- `drawImage(0, 0, frame)` with `CompositionMode_Source`. -/
def drawFrame (image frame : QImage) : QImage :=
  { image with
    pixel := fun point => if point ∈ frame.rect then frame.pixel point else image.pixel point }

variable {Adapter : Type}

structure GraphicsSceneBufferRenderer (Adapter : Type) where
  adapter : Option Adapter
  minimizeDamageRegion : Bool
  updatesAvailable : Bool
  workIsBuffer1 : Bool
  buffer1 : QImage
  buffer2 : QImage
  damageRegion : TiledRegion
  comparer : ImageComparer
  settings : ComparerSettings
  pushedFullFrame : QImage

namespace GraphicsSceneBufferRenderer

def create (platform : Platform) : GraphicsSceneBufferRenderer Adapter where
  adapter := none
  minimizeDamageRegion := true
  updatesAvailable := false
  workIsBuffer1 := true
  buffer1 := nullImage
  buffer2 := nullImage
  damageRegion := TiledRegion.create 20 20
  comparer := ImageComparer.setSettings platform.useAreaFingerPrints ComparerSettings.default nullImage
  settings := ComparerSettings.default
  pushedFullFrame := nullImage

def workBuffer (renderer : GraphicsSceneBufferRenderer Adapter) : QImage :=
  if renderer.workIsBuffer1 then renderer.buffer1 else renderer.buffer2

def otherBuffer (renderer : GraphicsSceneBufferRenderer Adapter) : QImage :=
  if renderer.workIsBuffer1 then renderer.buffer2 else renderer.buffer1

def setWorkBuffer (renderer : GraphicsSceneBufferRenderer Adapter) (image : QImage) :
    GraphicsSceneBufferRenderer Adapter :=
  if renderer.workIsBuffer1 then { renderer with buffer1 := image }
  else { renderer with buffer2 := image }

def setOtherBuffer (renderer : GraphicsSceneBufferRenderer Adapter) (image : QImage) :
    GraphicsSceneBufferRenderer Adapter :=
  if renderer.workIsBuffer1 then { renderer with buffer2 := image }
  else { renderer with buffer1 := image }

def emitUpdatesAvailable (renderer : GraphicsSceneBufferRenderer Adapter) :
    GraphicsSceneBufferRenderer Adapter × Bool :=
  ({ renderer with updatesAvailable := true }, true)

def initComparer (platform : Platform) (renderer : GraphicsSceneBufferRenderer Adapter) :
    GraphicsSceneBufferRenderer Adapter :=
  { renderer with
    comparer := ImageComparer.setSettings platform.useAreaFingerPrints renderer.settings
      renderer.otherBuffer }

def setMinimizeDamageRegion (renderer : GraphicsSceneBufferRenderer Adapter) (value : Bool) :
    GraphicsSceneBufferRenderer Adapter :=
  { renderer with minimizeDamageRegion := value }

def setSettings (platform : Platform) (renderer : GraphicsSceneBufferRenderer Adapter)
    (settings : ComparerSettings) : GraphicsSceneBufferRenderer Adapter :=
  initComparer platform { renderer with settings := settings }

def bufferRect (renderer : GraphicsSceneBufferRenderer Adapter) : QRect :=
  QRect.ofSize 0 0 renderer.workBuffer.width renderer.workBuffer.height

def addDamage (renderer : GraphicsSceneBufferRenderer Adapter) (rect : QRect) :
    GraphicsSceneBufferRenderer Adapter :=
  { renderer with damageRegion := renderer.damageRegion.add rect }

def clearDamage (renderer : GraphicsSceneBufferRenderer Adapter) :
    GraphicsSceneBufferRenderer Adapter :=
  { renderer with damageRegion := renderer.damageRegion.clear }

def fullUpdate (renderer : GraphicsSceneBufferRenderer Adapter) :
    GraphicsSceneBufferRenderer Adapter × Bool :=
  let cleared := renderer.setOtherBuffer (renderer.otherBuffer.fill 0xFFFFFFFF)
  let filled := cleared.setWorkBuffer (cleared.workBuffer.fill 0)
  (filled.addDamage filled.bufferRect).emitUpdatesAvailable

def setSize (platform : Platform) (renderer : GraphicsSceneBufferRenderer Adapter)
    (width height : Int) : GraphicsSceneBufferRenderer Adapter × Bool :=
  if width = 0 ∨ height = 0 then (renderer, false)
  else if (renderer.buffer1.width : Int) ≠ width ∨ (renderer.buffer1.height : Int) ≠ height then
    let resized := { renderer with
      buffer1 := resizeBuffer renderer.buffer1 width height
      buffer2 := resizeBuffer renderer.buffer2 width height }
    let cleared := (initComparer platform resized).clearDamage
    (cleared.addDamage cleared.bufferRect).emitUpdatesAvailable
  else (renderer, false)

def sceneDetached (renderer : GraphicsSceneBufferRenderer Adapter) :
    GraphicsSceneBufferRenderer Adapter :=
  { renderer with buffer1 := nullImage, buffer2 := nullImage }.clearDamage

def sceneDestroyed (renderer : GraphicsSceneBufferRenderer Adapter) :
    GraphicsSceneBufferRenderer Adapter :=
  { renderer with adapter := none }.sceneDetached

/-- `setTargetGraphicsSceneAdapter`; `sceneAttached` takes the size of the scene. -/
def setTargetGraphicsSceneAdapter [DecidableEq Adapter] (platform : Platform)
    (scenes : Adapter → Scene) (renderer : GraphicsSceneBufferRenderer Adapter)
    (adapter : Option Adapter) : GraphicsSceneBufferRenderer Adapter × Bool :=
  if adapter ≠ renderer.adapter then
    let detached := if renderer.adapter.isSome then renderer.sceneDetached else renderer
    let attached := { detached with adapter := adapter }
    match adapter with
    | some attachedAdapter =>
        attached.setSize platform (scenes attachedAdapter).width (scenes attachedAdapter).height
    | none => (attached, false)
  else (renderer, false)

/-- `sceneChanged`, with each `QRectF` given as its aligned rectangle. -/
def sceneChanged (renderer : GraphicsSceneBufferRenderer Adapter) (rects : List QRect) :
    GraphicsSceneBufferRenderer Adapter × Bool :=
  (rects.foldl (fun renderer rect =>
    renderer.addDamage ((rect.adjusted (-2) (-2) 2 2).intersected renderer.workBuffer.rect))
    renderer).emitUpdatesAvailable

def pushFullFrame (renderer : GraphicsSceneBufferRenderer Adapter) (image : QImage) :
    GraphicsSceneBufferRenderer Adapter × Bool :=
  if renderer.adapter.isNone then { renderer with pushedFullFrame := image }.emitUpdatesAvailable
  else (renderer, false)

def swapWorkBuffer (platform : Platform) (renderer : GraphicsSceneBufferRenderer Adapter) :
    GraphicsSceneBufferRenderer Adapter :=
  let swapped := { renderer with
    workIsBuffer1 := !renderer.workIsBuffer1
    comparer := renderer.comparer.swap platform.regionRects renderer.workBuffer }
  swapped.setWorkBuffer swapped.otherBuffer

/-- What is painted on the copied work buffer: the damaged part of the scene, or
the frame pushed by hand. -/
def paintedBuffer (platform : Platform) (scenes : Adapter → Scene)
    (renderer : GraphicsSceneBufferRenderer Adapter) (buffer : QImage) : QImage :=
  match renderer.adapter with
  | some adapter =>
      let rects := renderer.damageRegion.rects platform.regionRects
      (scenes adapter).render (eraseRects buffer rects) rects
  | none =>
      if isNullImage renderer.pushedFullFrame then buffer
      else drawFrame (eraseRects buffer [buffer.rect]) renderer.pushedFullFrame

def paintUpdatesToBuffer (platform : Platform) (scenes : Adapter → Scene)
    (renderer : GraphicsSceneBufferRenderer Adapter) :
    GraphicsSceneBufferRenderer Adapter × List QRect :=
  let swapped := renderer.swapWorkBuffer platform
  let painted := swapped.setWorkBuffer (swapped.paintedBuffer platform scenes swapped.workBuffer)
  let rects :=
    if painted.adapter.isSome || !isNullImage painted.pushedFullFrame then
      findDifferences platform.regionRects painted.comparer.settings painted.otherBuffer
        painted.workBuffer
    else []
  ({ painted.clearDamage with updatesAvailable := false }, rects)

def updateBufferAndGetUpdateOperations (platform : Platform) (scenes : Adapter → Scene)
    (renderer : GraphicsSceneBufferRenderer Adapter) :
    GraphicsSceneBufferRenderer Adapter × List UpdateOperation :=
  let (painted, rects) := renderer.paintUpdatesToBuffer platform scenes
  if painted.minimizeDamageRegion then
    let (ops, search) := updateOperationsOfRects platform.regionRects platform.mappedReduced
      painted.comparer painted.otherBuffer painted.workBuffer rects rects painted.comparer.search
    ({ painted with comparer := { painted.comparer with search := search } },
      optimizeUpdateOperations platform.regionRects ops)
  else
    (painted, rects.map fun rect => ⟨uotUpdate, rect, rect.topLeft, none⟩)

section Buffers

variable (renderer : GraphicsSceneBufferRenderer Adapter) (image : QImage)

@[simp] theorem work_set_work : (renderer.setWorkBuffer image).workBuffer = image := by
  cases work : renderer.workIsBuffer1 with
  | true => simp [setWorkBuffer, workBuffer, work]
  | false => simp [setWorkBuffer, workBuffer, work]

@[simp] theorem other_set_work :
    (renderer.setWorkBuffer image).otherBuffer = renderer.otherBuffer := by
  cases work : renderer.workIsBuffer1 with
  | true => simp [setWorkBuffer, otherBuffer, work]
  | false => simp [setWorkBuffer, otherBuffer, work]

@[simp] theorem work_set_other :
    (renderer.setOtherBuffer image).workBuffer = renderer.workBuffer := by
  cases work : renderer.workIsBuffer1 with
  | true => simp [setOtherBuffer, workBuffer, work]
  | false => simp [setOtherBuffer, workBuffer, work]

@[simp] theorem other_set_other : (renderer.setOtherBuffer image).otherBuffer = image := by
  cases work : renderer.workIsBuffer1 with
  | true => simp [setOtherBuffer, otherBuffer, work]
  | false => simp [setOtherBuffer, otherBuffer, work]

theorem set_work_rest : renderer.setWorkBuffer image =
    { renderer with
      buffer1 := (renderer.setWorkBuffer image).buffer1
      buffer2 := (renderer.setWorkBuffer image).buffer2 } := by
  unfold setWorkBuffer
  split_ifs
  · rfl
  · rfl

theorem set_other_rest : renderer.setOtherBuffer image =
    { renderer with
      buffer1 := (renderer.setOtherBuffer image).buffer1
      buffer2 := (renderer.setOtherBuffer image).buffer2 } := by
  unfold setOtherBuffer
  split_ifs
  · rfl
  · rfl

omit image in
/-- The roles of the buffers are exchanged and the new work buffer is a copy. -/
theorem swap_work_buffer_buffers (platform : Platform) :
    (renderer.swapWorkBuffer platform).workBuffer = renderer.workBuffer ∧
      (renderer.swapWorkBuffer platform).otherBuffer = renderer.workBuffer := by
  have exchanged : ∀ comparer : ImageComparer,
      ({ renderer with workIsBuffer1 := !renderer.workIsBuffer1, comparer := comparer } :
        GraphicsSceneBufferRenderer Adapter).otherBuffer = renderer.workBuffer := by
    intro comparer
    unfold otherBuffer workBuffer
    cases work : renderer.workIsBuffer1 with
    | true => simp
    | false => simp
  unfold swapWorkBuffer
  rw [work_set_work, other_set_work]
  exact ⟨exchanged _, exchanged _⟩

omit image in
theorem swap_work_buffer_rest (platform : Platform) : renderer.swapWorkBuffer platform =
    { renderer with
      workIsBuffer1 := !renderer.workIsBuffer1
      comparer := renderer.comparer.swap platform.regionRects renderer.workBuffer
      buffer1 := (renderer.swapWorkBuffer platform).buffer1
      buffer2 := (renderer.swapWorkBuffer platform).buffer2 } := by
  unfold swapWorkBuffer
  rw [set_work_rest]

end Buffers

end GraphicsSceneBufferRenderer

end Viridity.BufferRenderer
