import Mathlib.Data.List.Nodup
import Viridity.EventLogs
import Viridity.WorkBuffer

/-!
# GraphicsSceneDisplay

The state of one display, its slots and the frames it sends. Encoding a patch is
left to a codec; a patch is sent inline or announced under an identifier and kept
until it is taken. Frames are numbered by an int, and by natural numbers where no more
than the first 2^31 - 1 frames matter.
-/

namespace Viridity.SceneDisplay

open Viridity.QtRectangle
open Viridity.ImageAux
open Viridity.TileOperations
open Viridity.ImageComparerOpTools
open Viridity.FrameComparison
open Viridity.BufferRenderer
open Viridity.EventLogs
open GraphicsSceneBufferRenderer
open UpdateOperationType

set_option autoImplicit false

inductive EncodingFormat where
  | raw
  | png
  | jpeg
  | auto
deriving DecidableEq, Repr

structure EncoderSettings where
  useMultithreading : Bool
  patchEncodingFormat : EncodingFormat
  alphaChannelEnabled : Bool
  jpegQuality : Int
  compressionLevel : Int
  inlineMaxBytes : Int
deriving DecidableEq, Repr

def EncoderSettings.default : EncoderSettings where
  useMultithreading := true
  patchEncodingFormat := .auto
  alphaChannelEnabled := true
  jpegQuality := 94
  compressionLevel := 1
  inlineMaxBytes := 2048

structure GraphicsSceneFramePatch where
  id : String
  rect : QRect
  artefactMargin : Int
  data : List UInt8
  mimeType : String
  packedAlpha : Bool
deriving DecidableEq

/-- The data of a `dI` message: the patch itself, encoded as base64 unless binary
data was asked for, or `fb:` and the identifier to fetch it under. -/
inductive PatchPayload where
  | inline (data : List UInt8) (base64 : Bool)
  | fetch (patchId : String)
deriving DecidableEq

class FrameNumber (Number : Type) where
  zero : Number
  /-- `++`. -/
  next : Number → Number
  /-- `QString::number` and `arg`. -/
  text : Number → String

instance : FrameNumber Nat := ⟨0, Nat.succ, Nat.repr⟩

instance : FrameNumber Int32 := ⟨0, (· + 1), fun number => number.toInt.repr⟩

/-- The messages of a frame; `frameEnd` is `end(frame)`. -/
inductive DisplayMessage (Number : Type := Nat) where
  | fullUpdate (frame : Number)
  | dI (frame : Number) (rect : QRect) (artefactMargin : Int) (mimeType : String)
      (payload : PatchPayload)
  | mI (frame : Number) (rect : QRect) (dstPoint : QPoint)
  | fR (frame : Number) (rect : QRect) (fillColor : QColor)
  | frameEnd (frame : Number)
deriving DecidableEq

/-- `createPatch` for given settings and buffer, without the identifier. -/
structure DisplayPlatform extends Platform where
  createPatch : EncoderSettings → QImage → QRect → GraphicsSceneFramePatch

variable {Adapter Number : Type}

structure GraphicsSceneDisplay (Adapter : Type) (Number : Type := Nat) where
  id : String
  adapter : Option Adapter
  encoderSettings : EncoderSettings
  updateAvailable : Bool
  frame : Number
  updateCheckTimerActive : Bool
  renderer : GraphicsSceneBufferRenderer Adapter
  clientReady : Bool
  patches : List GraphicsSceneFramePatch
  fullUpdateRequested : Bool

namespace GraphicsSceneDisplay

def create [DecidableEq Adapter] [FrameNumber Number] (platform : DisplayPlatform)
    (scenes : Adapter → Scene) (id : String) (adapter : Option Adapter) :
    GraphicsSceneDisplay Adapter Number where
  id := id
  adapter := adapter
  encoderSettings := EncoderSettings.default
  updateAvailable := true
  frame := FrameNumber.zero
  updateCheckTimerActive := true
  renderer := ((GraphicsSceneBufferRenderer.create platform.toPlatform).setTargetGraphicsSceneAdapter
    platform.toPlatform scenes adapter).1
  clientReady := true
  patches := []
  fullUpdateRequested := true

def isUpdateAvailable (display : GraphicsSceneDisplay Adapter Number) : Bool :=
  if display.adapter.isSome then
    display.clientReady && display.patches.isEmpty && display.updateAvailable
  else true

def clearPatches (display : GraphicsSceneDisplay Adapter Number) : GraphicsSceneDisplay Adapter Number :=
  { display with patches := [] }

def triggerUpdateCheckTimer (display : GraphicsSceneDisplay Adapter Number) :
    GraphicsSceneDisplay Adapter Number :=
  { display with updateCheckTimerActive := true }

/-- `takePatch`; `none` is the null pointer. -/
def takePatch (display : GraphicsSceneDisplay Adapter Number) (patchId : String) :
    Option GraphicsSceneFramePatch × GraphicsSceneDisplay Adapter Number :=
  (display.patches.find? fun patch => patch.id == patchId,
    { display with patches := display.patches.filter fun patch => patch.id != patchId })

/-- A slot of the renderer, followed by `sceneDamagedRegionsAvailable` when it emits
`damagedRegionAvailable`. -/
def rendererSlot (display : GraphicsSceneDisplay Adapter Number)
    (outcome : GraphicsSceneBufferRenderer Adapter × Bool) : GraphicsSceneDisplay Adapter Number :=
  let updated := { display with renderer := outcome.1 }
  if outcome.2 then updated.triggerUpdateCheckTimer else updated

def handleClientReady (display : GraphicsSceneDisplay Adapter Number) : GraphicsSceneDisplay Adapter Number :=
  let ready := { display with clientReady := true, fullUpdateRequested := false }
  let cleared := if ready.patches.length ≠ 0 then ready.clearPatches else ready
  if cleared.renderer.updatesAvailable then cleared.triggerUpdateCheckTimer else cleared

def requestFullUpdate (display : GraphicsSceneDisplay Adapter Number) (forced : Bool) :
    GraphicsSceneDisplay Adapter Number :=
  if display.fullUpdateRequested then display
  else
    let cleared := if forced then display.clearPatches else display
    let damaged := cleared.rendererSlot cleared.renderer.fullUpdate
    let ready := if forced then damaged.handleClientReady else damaged
    { ready with fullUpdateRequested := true }

/-- `updateCheckTimerTimeout`; the second component tells whether `updateAvailable`
was emitted. -/
def updateCheckTimerTimeout (display : GraphicsSceneDisplay Adapter Number) :
    GraphicsSceneDisplay Adapter Number × Bool :=
  let stopped := { display with updateCheckTimerActive := false }
  if stopped.clientReady && stopped.patches.isEmpty then
    ({ stopped with updateAvailable := true }, true)
  else (stopped, false)

/-- The identifier of the patch for the operation `index` of a frame. -/
def patchId [FrameNumber Number] (displayId : String) (frame : Number) (index : Nat) : String :=
  displayId ++ "_" ++ FrameNumber.text frame ++ "_" ++ Nat.repr index

def isInline (settings : EncoderSettings) (patch : GraphicsSceneFramePatch) : Bool :=
  (patch.data.length : Int) < settings.inlineMaxBytes || settings.inlineMaxBytes == -1

def announcedType (settings : EncoderSettings) (returnBinary : Bool)
    (patch : GraphicsSceneFramePatch) : String :=
  let mimeType := patch.mimeType ++ if patch.packedAlpha then ";pa" else ""
  if isInline settings patch && !returnBinary then mimeType ++ ";base64" else mimeType

/-- The loop over the operations from `index` on: messages and patches kept. -/
def operationMessages [FrameNumber Number] (createPatch : QRect → GraphicsSceneFramePatch)
    (settings : EncoderSettings) (returnBinary : Bool) (displayId : String) (frame : Number) :
    Nat → List UpdateOperation → List (DisplayMessage Number) × List GraphicsSceneFramePatch
  | _, [] => ([], [])
  | index, op :: ops =>
      let remaining := operationMessages createPatch settings returnBinary displayId frame
        (index + 1) ops
      match op.type with
      | uotUpdate =>
          let patch := createPatch op.srcRect
          let mimeType := announcedType settings returnBinary patch
          if isInline settings patch then
            (.dI frame op.srcRect patch.artefactMargin mimeType (.inline patch.data !returnBinary) ::
              remaining.1, remaining.2)
          else
            let named := { patch with id := patchId displayId frame index }
            (.dI frame op.srcRect patch.artefactMargin mimeType (.fetch named.id) :: remaining.1,
              named :: remaining.2)
      | uotMove => (.mI frame op.srcRect op.dstPoint :: remaining.1, remaining.2)
      | uotFill => (.fR frame op.srcRect op.fillColor :: remaining.1, remaining.2)
      | uotNoOp => remaining

def insertPatch (patches : List GraphicsSceneFramePatch) (patch : GraphicsSceneFramePatch) :
    List GraphicsSceneFramePatch :=
  patches.filter (fun other => other.id != patch.id) ++ [patch]

def takePendingMessages [FrameNumber Number] (platform : DisplayPlatform)
    (scenes : Adapter → Scene) (returnBinary : Bool) (display : GraphicsSceneDisplay Adapter Number) :
    GraphicsSceneDisplay Adapter Number × List (DisplayMessage Number) :=
  if !display.isUpdateAvailable then (display, [])
  else
    let (renderer, ops) :=
      display.renderer.updateBufferAndGetUpdateOperations platform.toPlatform scenes
    let updated := { display with updateAvailable := false, renderer := renderer }
    let started :=
      if ops.length > 0 then
        { updated with clientReady := false, frame := FrameNumber.next updated.frame }
      else updated
    let (messages, kept) := operationMessages
      (platform.createPatch started.encoderSettings renderer.workBuffer) started.encoderSettings
      returnBinary started.id started.frame 0 ops
    ({ started with patches := kept.foldl insertPatch started.patches },
      (if started.fullUpdateRequested then [.fullUpdate started.frame] else []) ++ messages ++
        if ops.length > 0 then [.frameEnd started.frame] else [])

section Slots

variable (display : GraphicsSceneDisplay Adapter Number)

theorem renderer_slot_eq (outcome : GraphicsSceneBufferRenderer Adapter × Bool) :
    display.rendererSlot outcome =
      { display with
        renderer := outcome.1
        updateCheckTimerActive := display.updateCheckTimerActive || outcome.2 } := by
  unfold rendererSlot triggerUpdateCheckTimer
  cases outcome.2 with
  | true => simp
  | false => simp

theorem client_ready_eq :
    display.handleClientReady =
      { display with
        clientReady := true
        fullUpdateRequested := false
        patches := []
        updateCheckTimerActive :=
          display.updateCheckTimerActive || display.renderer.updatesAvailable } := by
  unfold handleClientReady clearPatches triggerUpdateCheckTimer
  cases kept : display.patches with
  | nil =>
      cases available : display.renderer.updatesAvailable with
      | true => simp [available]
      | false => simp [available]
  | cons patch patches =>
      cases available : display.renderer.updatesAvailable with
      | true => simp [available]
      | false => simp [available]

theorem request_full_update_eq (forced : Bool) :
    display.requestFullUpdate forced =
      if display.fullUpdateRequested then display
      else
        { display with
          renderer := display.renderer.fullUpdate.1
          updateCheckTimerActive := true
          clientReady := forced || display.clientReady
          patches := if forced then [] else display.patches
          fullUpdateRequested := true } := by
  have emitted : display.renderer.fullUpdate.2 = true := rfl
  unfold requestFullUpdate
  cases forced with
  | true =>
      simp only [client_ready_eq, renderer_slot_eq, clearPatches, emitted, if_true, Bool.or_true,
        Bool.true_or]
  | false =>
      simp only [renderer_slot_eq, emitted, Bool.false_eq_true, if_false, Bool.or_true,
        Bool.false_or]

end Slots

/-- A frame depends on how patches are created under the settings of the display. -/
theorem take_pending_congr [FrameNumber Number] {platform : DisplayPlatform}
    {createPatch : EncoderSettings → QImage → QRect → GraphicsSceneFramePatch}
    {display : GraphicsSceneDisplay Adapter Number}
    (same : createPatch display.encoderSettings = platform.createPatch display.encoderSettings)
    (scenes : Adapter → Scene) (returnBinary : Bool) :
    display.takePendingMessages { platform with createPatch := createPatch } scenes returnBinary =
      display.takePendingMessages platform scenes returnBinary := by
  unfold takePendingMessages
  by_cases framed :
      (display.renderer.updateBufferAndGetUpdateOperations platform.toPlatform scenes).2.length > 0
  · simp only [if_pos framed, same]
  · simp only [if_neg framed, same]

/-- What `takePendingMessages` sends and keeps when it is allowed to. -/
structure TakesFrame [FrameNumber Number] (platform : DisplayPlatform) (scenes : Adapter → Scene)
    (returnBinary : Bool) (display after : GraphicsSceneDisplay Adapter Number)
    (ops : List UpdateOperation) (messages : List (DisplayMessage Number)) : Prop where
  renderer : after.renderer =
    (display.renderer.updateBufferAndGetUpdateOperations platform.toPlatform scenes).1
  operations : ops =
    (display.renderer.updateBufferAndGetUpdateOperations platform.toPlatform scenes).2
  same : after =
    { display with
      updateAvailable := false
      renderer := after.renderer
      clientReady := if ops = [] then display.clientReady else false
      frame := if ops = [] then display.frame else FrameNumber.next display.frame
      patches := (operationMessages
        (platform.createPatch display.encoderSettings after.renderer.workBuffer)
        display.encoderSettings returnBinary display.id after.frame 0 ops).2.foldl insertPatch
          display.patches }
  sent : messages =
    (if display.fullUpdateRequested then [.fullUpdate after.frame] else []) ++
      (operationMessages
        (platform.createPatch display.encoderSettings after.renderer.workBuffer)
        display.encoderSettings returnBinary display.id after.frame 0 ops).1 ++
      if ops = [] then [] else [.frameEnd after.frame]

/-- Either nothing happens, or a frame is taken. -/
theorem take_pending_cases [FrameNumber Number] (platform : DisplayPlatform)
    (scenes : Adapter → Scene) (returnBinary : Bool) (display : GraphicsSceneDisplay Adapter Number) :
    (display.isUpdateAvailable = false ∧
      display.takePendingMessages platform scenes returnBinary = (display, [])) ∨
    (display.isUpdateAvailable = true ∧ ∃ ops,
      TakesFrame platform scenes returnBinary display
        (display.takePendingMessages platform scenes returnBinary).1 ops
        (display.takePendingMessages platform scenes returnBinary).2) := by
  unfold takePendingMessages
  cases available : display.isUpdateAvailable with
  | false => exact Or.inl ⟨rfl, by simp⟩
  | true =>
      right
      refine ⟨rfl, (display.renderer.updateBufferAndGetUpdateOperations platform.toPlatform scenes).2,
        ?_⟩
      simp only [Bool.not_true, Bool.false_eq_true, if_false]
      generalize outcome :
        display.renderer.updateBufferAndGetUpdateOperations platform.toPlatform scenes = taken
      rcases taken with ⟨renderer, ops⟩
      cases ops with
      | nil => exact ⟨congrArg Prod.fst outcome.symm, congrArg Prod.snd outcome.symm, rfl, by simp⟩
      | cons op ops =>
          exact ⟨congrArg Prod.fst outcome.symm, congrArg Prod.snd outcome.symm, rfl, by simp⟩

end GraphicsSceneDisplay

end Viridity.SceneDisplay
