import Mathlib.Logic.Function.Basic
import Viridity.LabelledRuns
import Viridity.SceneDisplay

/-!
# Sessions and display managers

A display manager handles the messages of the client and passes on the wake-ups of
its displays; the session keeps the displays that asked to be polled. Calls queued
for the session are delivered first in, first out. No display is removed here, so
a display is named by its identifier. Parsed messages stand for their text.
-/

namespace Viridity.DisplayDispatch

open Viridity.QtRectangle
open Viridity.ImageAux
open Viridity.FrameComparison
open Viridity.BufferRenderer
open Viridity.WorkBuffer
open Viridity.SceneDisplay
open Viridity.LabelledRuns
open GraphicsSceneDisplay (renderer_slot_eq client_ready_eq request_full_update_eq take_pending_cases)

set_option autoImplicit false

variable {Adapter : Type}

inductive ClientMessage where
  | done
  | frame (message : DisplayMessage)
deriving DecidableEq

structure TargetedMessage where
  targetId : String
  message : ClientMessage
deriving DecidableEq

/-- The messages a display manager handles; `input` stands for those of the command
interpreter, with its answer. -/
inductive DisplayCommand where
  | newDisplay (params : List String)
  | ready
  | requestFullUpdate (params : List Int)
  | resize (width height : Int)
  | keepAlive
  | input (handled : Bool)

/-- The two managers: one adapter for all displays, or one for each. -/
inductive DisplayManager (Adapter : Type) where
  | single (adapter : Option Adapter) (encoderSettings : EncoderSettings)
      (comparerSettings : ComparerSettings)
  | multi (getAdapter : String → List String → Option Adapter)

structure DisplayResource (Adapter : Type) where
  display : GraphicsSceneDisplay Adapter
  useCount : Int

/-- `queuedReady` and `queuedMessages` are the calls of `handlerIsReadyForDispatch` and
`sendMessageToClient` not delivered yet. -/
structure ViriditySession (Adapter : Type) where
  manager : DisplayManager Adapter
  scenes : Adapter → Scene
  displays : String → Option (DisplayResource Adapter)
  messages : List TargetedMessage
  messageHandlersRequestingMessageDispatch : List String
  updateCheckTimerActive : Bool
  queuedReady : List String
  queuedMessages : List TargetedMessage

namespace ViriditySession

def setDisplay (session : ViriditySession Adapter) (id : String)
    (resource : DisplayResource Adapter) : ViriditySession Adapter :=
  { session with displays := Function.update session.displays id (some resource) }

def acquireDisplay (session : ViriditySession Adapter) (id : String) : ViriditySession Adapter :=
  match session.displays id with
  | some resource => session.setDisplay id { resource with useCount := resource.useCount + 1 }
  | none => session

def releaseDisplay (session : ViriditySession Adapter) (id : String) : ViriditySession Adapter :=
  match session.displays id with
  | some resource => session.setDisplay id { resource with useCount := resource.useCount - 1 }
  | none => session

def onDisplay (session : ViriditySession Adapter) (id : String)
    (slot : GraphicsSceneDisplay Adapter → GraphicsSceneDisplay Adapter) : ViriditySession Adapter :=
  match session.displays id with
  | some resource => session.setDisplay id { resource with display := slot resource.display }
  | none => session

def createDisplayInstance [DecidableEq Adapter] (platform : DisplayPlatform)
    (session : ViriditySession Adapter) (id : String) (params : List String) :
    Option (GraphicsSceneDisplay Adapter) :=
  match session.manager with
  | .single adapter encoderSettings comparerSettings =>
      let display := GraphicsSceneDisplay.create platform session.scenes id adapter
      some { display with
        encoderSettings := encoderSettings
        renderer := GraphicsSceneBufferRenderer.setSettings platform.toPlatform display.renderer
          comparerSettings }
  | .multi getAdapter =>
      (getAdapter id params).map fun adapter =>
        GraphicsSceneDisplay.create platform session.scenes id (some adapter)

def displayHandleMessage (platform : DisplayPlatform) (display : GraphicsSceneDisplay Adapter) :
    DisplayCommand → GraphicsSceneDisplay Adapter × Bool
  | .ready => (display.handleClientReady, true)
  | .requestFullUpdate params => (display.requestFullUpdate (params == [1]), true)
  | .resize width height =>
      (display.rendererSlot (display.renderer.setSize platform.toPlatform width height), true)
  | .keepAlive => (display, true)
  | .newDisplay _ => (display, false)
  | .input handled => (display, handled)

/-- Creates a display for `newDisplay`; its `done()` is queued for the session. -/
def handleNewDisplay [DecidableEq Adapter] (platform : DisplayPlatform)
    (session : ViriditySession Adapter) (targetId : String) (params : List String) :
    ViriditySession Adapter × Bool :=
  match session.createDisplayInstance platform targetId params with
  | some display =>
      let created := session.setDisplay targetId ⟨display, 1⟩
      let announced := { created with
        queuedMessages := created.queuedMessages ++ [TargetedMessage.mk targetId .done] }
      (announced.releaseDisplay targetId, true)
  | none => (session, false)

def handleMessage [DecidableEq Adapter] (platform : DisplayPlatform)
    (session : ViriditySession Adapter) (targetId : String) (command : DisplayCommand) :
    ViriditySession Adapter × Bool :=
  match session.displays targetId, command with
  | none, .newDisplay params => session.handleNewDisplay platform targetId params
  | none, _ => (session, false)
  | some _, .newDisplay _ =>
      (((session.acquireDisplay targetId).onDisplay targetId fun display =>
        display.requestFullUpdate true).releaseDisplay targetId, true)
  | some resource, command =>
      (((session.acquireDisplay targetId).onDisplay targetId fun display =>
        (displayHandleMessage platform display command).1).releaseDisplay targetId,
        (displayHandleMessage platform resource.display command).2)

def triggerUpdateCheckTimer (session : ViriditySession Adapter) : ViriditySession Adapter :=
  { session with updateCheckTimerActive := true }

def handlerIsReadyForDispatch (session : ViriditySession Adapter) (handler : String) :
    ViriditySession Adapter :=
  { session with
    messageHandlersRequestingMessageDispatch :=
      if handler ∈ session.messageHandlersRequestingMessageDispatch then
        session.messageHandlersRequestingMessageDispatch
      else session.messageHandlersRequestingMessageDispatch ++ [handler] }.triggerUpdateCheckTimer

def sendMessageToClient (session : ViriditySession Adapter) (message : TargetedMessage) :
    ViriditySession Adapter :=
  { session with messages := session.messages ++ [message] }.triggerUpdateCheckTimer

def takeFromHandlers (platform : DisplayPlatform) (returnBinary : Bool) :
    ViriditySession Adapter → List String → ViriditySession Adapter × List TargetedMessage
  | session, [] => (session, [])
  | session, handler :: handlers =>
      match session.displays handler with
      | some resource =>
          let outcome := resource.display.takePendingMessages platform session.scenes returnBinary
          let remaining := takeFromHandlers platform returnBinary
            (session.setDisplay handler { resource with display := outcome.1 }) handlers
          (remaining.1, outcome.2.map (fun message => ⟨handler, .frame message⟩) ++ remaining.2)
      | none => takeFromHandlers platform returnBinary session handlers

def takePendingMessages (platform : DisplayPlatform) (returnBinary : Bool)
    (session : ViriditySession Adapter) : ViriditySession Adapter × List TargetedMessage :=
  let taken := takeFromHandlers platform returnBinary
    { session with messages := [], messageHandlersRequestingMessageDispatch := [] }
    session.messageHandlersRequestingMessageDispatch
  (taken.1, session.messages ++ taken.2)

/-- The tick of a display; `handleDisplayUpdateAvailable` queues the wake-up. -/
def displayTimeout (session : ViriditySession Adapter) (id : String) : ViriditySession Adapter :=
  match session.displays id with
  | some resource =>
      let outcome := resource.display.updateCheckTimerTimeout
      let ticked := session.setDisplay id { resource with display := outcome.1 }
      if outcome.2 then { ticked with queuedReady := ticked.queuedReady ++ [id] } else ticked
  | none => session

/-- Every display whose renderer shows the adapter gets the slot. -/
def onAdapter [DecidableEq Adapter] (session : ViriditySession Adapter) (adapter : Adapter)
    (slot : GraphicsSceneDisplay Adapter → GraphicsSceneDisplay Adapter) : ViriditySession Adapter :=
  { session with
    displays := fun id => (session.displays id).map fun resource =>
      if resource.display.renderer.adapter = some adapter then
        { resource with display := slot resource.display }
      else resource }

end ViriditySession

open ViriditySession

inductive DispatchAction (Adapter : Type) where
  | handleMessage (targetId : String) (command : DisplayCommand)
  | takePendingMessages (returnBinary : Bool)
  | takePatch (id patchId : String)
  | deliverReady
  | deliverMessage
  | displayTimeout (id : String)
  | updateCheckTimerTimeout
  | changeScene (adapter : Adapter) (scene : Scene) (rects : List QRect)
  | destroyAdapter (adapter : Adapter)
  | pushFullFrame (id : String) (image : QImage)
  | setEncoderSettings (id : String) (settings : EncoderSettings)
  | setComparerSettings (id : String) (settings : ComparerSettings)

def dispatch [DecidableEq Adapter] (platform : DisplayPlatform) (session : ViriditySession Adapter) :
    DispatchAction Adapter → ViriditySession Adapter
  | .handleMessage targetId command => (session.handleMessage platform targetId command).1
  | .takePendingMessages returnBinary => (session.takePendingMessages platform returnBinary).1
  | .takePatch id patchId => session.onDisplay id fun display => (display.takePatch patchId).2
  | .deliverReady =>
      match session.queuedReady with
      | handler :: remaining =>
          { session with queuedReady := remaining }.handlerIsReadyForDispatch handler
      | [] => session
  | .deliverMessage =>
      match session.queuedMessages with
      | message :: remaining =>
          { session with queuedMessages := remaining }.sendMessageToClient message
      | [] => session
  | .displayTimeout id => session.displayTimeout id
  | .updateCheckTimerTimeout => { session with updateCheckTimerActive := false }
  | .changeScene adapter scene rects =>
      { session with scenes := Function.update session.scenes adapter scene }.onAdapter adapter
        fun display => display.rendererSlot (display.renderer.sceneChanged rects)
  | .destroyAdapter adapter =>
      session.onAdapter adapter fun display =>
        display.rendererSlot (display.renderer.sceneDestroyed, false)
  | .pushFullFrame id image =>
      session.onDisplay id fun display => display.rendererSlot (display.renderer.pushFullFrame image)
  | .setEncoderSettings id settings =>
      session.onDisplay id fun display => { display with encoderSettings := settings }
  | .setComparerSettings id settings =>
      session.onDisplay id fun display => display.rendererSlot
        (GraphicsSceneBufferRenderer.setSettings platform.toPlatform display.renderer settings, false)

def DispatchStep [DecidableEq Adapter] (platform : DisplayPlatform) (session : ViriditySession Adapter)
    (action : DispatchAction Adapter) (after : ViriditySession Adapter) : Prop :=
  after = dispatch platform session action

def NewSession (session : ViriditySession Adapter) : Prop :=
  (∀ id, session.displays id = none) ∧ session.queuedReady = [] ∧ session.queuedMessages = [] ∧
    session.messageHandlersRequestingMessageDispatch = []

/-- The wake-up of a display is queued for the session or already noted there. -/
def Woken (session : ViriditySession Adapter) (id : String) : Prop :=
  id ∈ session.queuedReady ∨ id ∈ session.messageHandlersRequestingMessageDispatch

/-- A display that could send damage has its timer running or is about to be polled. -/
structure DisplayKept (display : GraphicsSceneDisplay Adapter) (woken : Prop) : Prop where
  formed : WellFormed display.renderer
  backPressure : display.clientReady = true → display.patches = []
  awake : display.renderer.updatesAvailable = true → display.clientReady = true →
    display.updateCheckTimerActive = true ∨ (display.updateAvailable = true ∧ woken)

def SessionKept (session : ViriditySession Adapter) : Prop :=
  ∀ id resource, session.displays id = some resource →
    DisplayKept resource.display (Woken session id)

/-- The outcome of a slot of the renderer: only an emission makes updates available. -/
structure Announced (renderer : GraphicsSceneBufferRenderer Adapter)
    (outcome : GraphicsSceneBufferRenderer Adapter × Bool) : Prop where
  formed : WellFormed outcome.1
  silent : outcome.2 = false → outcome.1.updatesAvailable = true → renderer.updatesAvailable = true

theorem announced_emission {renderer after : GraphicsSceneBufferRenderer Adapter}
    (formed : WellFormed after.emitUpdatesAvailable.1) :
    Announced renderer after.emitUpdatesAvailable := by
  refine ⟨formed, ?_⟩
  intro silent
  cases silent

theorem update_buffer_clears (platform : Platform) (scenes : Adapter → Scene)
    (renderer : GraphicsSceneBufferRenderer Adapter) :
    (renderer.updateBufferAndGetUpdateOperations platform scenes).1.updatesAvailable = false := by
  unfold GraphicsSceneBufferRenderer.updateBufferAndGetUpdateOperations
  simp only
  split_ifs
  · rfl
  · rfl

section Renderer

variable {renderer : GraphicsSceneBufferRenderer Adapter} (formed : WellFormed renderer)

include formed

theorem announced_full_update : Announced renderer renderer.fullUpdate :=
  announced_emission (well_formed_full_update formed).1

theorem announced_set_size (platform : DisplayPlatform) (width height : Int) :
    Announced renderer (renderer.setSize platform.toPlatform width height) := by
  have after : WellFormed (renderer.setSize platform.toPlatform width height).1 := by
    rcases set_size_cases platform.toPlatform formed width height with ⟨_, same⟩ | ⟨resized, _⟩
    · rw [same]
      exact formed
    · exact resized
  unfold GraphicsSceneBufferRenderer.setSize at after ⊢
  split_ifs at after ⊢
  · exact ⟨formed, fun _ available => available⟩
  · exact announced_emission after
  · exact ⟨formed, fun _ available => available⟩

theorem announced_scene_changed (rects : List QRect) :
    Announced renderer (renderer.sceneChanged rects) :=
  announced_emission (scene_changed_reports formed rects).formed

theorem announced_push_full_frame (image : QImage) :
    Announced renderer (renderer.pushFullFrame image) := by
  unfold GraphicsSceneBufferRenderer.pushFullFrame
  split_ifs
  · exact announced_emission ⟨formed.sameSize, formed.wide, formed.high⟩
  · exact ⟨formed, fun _ available => available⟩

theorem announced_destroyed : Announced renderer (renderer.sceneDestroyed, false) := by
  have detached := (well_formed_detached formed).1
  exact ⟨⟨detached.sameSize, detached.wide, detached.high⟩, fun _ available => available⟩

theorem announced_settings (platform : DisplayPlatform) (settings : ComparerSettings) :
    Announced renderer
      (GraphicsSceneBufferRenderer.setSettings platform.toPlatform renderer settings, false) :=
  ⟨⟨formed.sameSize, formed.wide, formed.high⟩, fun _ available => available⟩

end Renderer

theorem DisplayKept.mono {display : GraphicsSceneDisplay Adapter} {woken after : Prop}
    (kept : DisplayKept display woken) (implied : woken → after) : DisplayKept display after := by
  refine ⟨kept.formed, kept.backPressure, ?_⟩
  intro damaged ready
  rcases kept.awake damaged ready with active | ⟨noted, listed⟩
  · exact Or.inl active
  · exact Or.inr ⟨noted, implied listed⟩

section Slots

variable {display : GraphicsSceneDisplay Adapter} {woken : Prop} (kept : DisplayKept display woken)

include kept

theorem kept_renderer_slot {outcome : GraphicsSceneBufferRenderer Adapter × Bool}
    (announced : Announced display.renderer outcome) :
    DisplayKept (display.rendererSlot outcome) woken := by
  rw [renderer_slot_eq]
  refine ⟨announced.formed, kept.backPressure, ?_⟩
  intro available ready
  cases emitted : outcome.2 with
  | true => exact Or.inl (by simp)
  | false =>
      rcases kept.awake (announced.silent emitted available) ready with active | polled
      · exact Or.inl (by simp [active])
      · exact Or.inr polled

theorem kept_client_ready : DisplayKept display.handleClientReady woken := by
  rw [client_ready_eq]
  refine ⟨kept.formed, fun _ => rfl, ?_⟩
  intro available _
  change display.renderer.updatesAvailable = true at available
  exact Or.inl (by simp [available])

theorem kept_request_full_update (forced : Bool) :
    DisplayKept (display.requestFullUpdate forced) woken := by
  rw [request_full_update_eq]
  split_ifs with requested cleared
  · exact kept
  · exact ⟨(announced_full_update kept.formed).formed, fun _ => rfl, fun _ _ => Or.inl rfl⟩
  · refine ⟨(announced_full_update kept.formed).formed, ?_, fun _ _ => Or.inl rfl⟩
    intro ready
    apply kept.backPressure
    simpa [cleared] using ready

theorem kept_take_patch (patchId : String) : DisplayKept (display.takePatch patchId).2 woken := by
  refine ⟨kept.formed, ?_, kept.awake⟩
  intro ready
  have empty := kept.backPressure ready
  simp [GraphicsSceneDisplay.takePatch, empty]

theorem kept_command (platform : DisplayPlatform) (command : DisplayCommand) :
    DisplayKept (displayHandleMessage platform display command).1 woken := by
  cases command with
  | ready => exact kept_client_ready kept
  | requestFullUpdate params => exact kept_request_full_update kept _
  | resize width height =>
      exact kept_renderer_slot kept (announced_set_size kept.formed platform width height)
  | keepAlive => exact kept
  | newDisplay params => exact kept
  | input handled => exact kept

/-- A tick that fires wakes the session; one that does not finds the client busy. -/
theorem kept_timeout {after : Prop} (fires : display.updateCheckTimerTimeout.2 = true → after) :
    DisplayKept display.updateCheckTimerTimeout.1 after := by
  cases ready : display.clientReady with
  | true =>
      have empty := kept.backPressure ready
      have fired : display.updateCheckTimerTimeout =
          ({ display with updateCheckTimerActive := false, updateAvailable := true }, true) := by
        simp [GraphicsSceneDisplay.updateCheckTimerTimeout, ready, empty]
      rw [fired] at fires ⊢
      exact ⟨kept.formed, kept.backPressure, fun _ _ => Or.inr ⟨rfl, fires rfl⟩⟩
  | false =>
      have silent : display.updateCheckTimerTimeout =
          ({ display with updateCheckTimerActive := false }, false) := by
        simp [GraphicsSceneDisplay.updateCheckTimerTimeout, ready]
      rw [silent]
      refine ⟨kept.formed, kept.backPressure, ?_⟩
      intro _ impossible
      exact absurd (impossible.symm.trans ready) (by decide)

/-- Whether or not a poll takes a frame, the display does not wait for another one. -/
theorem kept_take_pending (platform : DisplayPlatform) (scenes : Adapter → Scene)
    (returnBinary : Bool) (after : Prop) :
    DisplayKept (display.takePendingMessages platform scenes returnBinary).1 after := by
  rcases take_pending_cases platform scenes returnBinary display with
    ⟨unavailable, same⟩ | ⟨available, ops, takes⟩
  · rw [same]
    refine ⟨kept.formed, kept.backPressure, ?_⟩
    intro damaged ready
    rcases kept.awake damaged ready with active | ⟨noted, _⟩
    · exact Or.inl active
    · have empty := kept.backPressure ready
      unfold GraphicsSceneDisplay.isUpdateAvailable at unavailable
      rw [ready, empty, noted] at unavailable
      simp at unavailable
  · have painted := (update_buffer_paints platform.toPlatform scenes kept.formed).formed
    rw [← takes.renderer] at painted
    refine ⟨painted, ?_, ?_⟩
    · intro ready
      have same := takes.same
      cases ops with
      | nil =>
          rw [same] at ready ⊢
          simpa [GraphicsSceneDisplay.operationMessages] using kept.backPressure (by simpa using ready)
      | cons op ops =>
          rw [same] at ready
          simp at ready
    · intro damaged _
      rw [takes.renderer, update_buffer_clears] at damaged
      exact absurd damaged (by decide)

end Slots

section Sessions

variable {session : ViriditySession Adapter} (kept : SessionKept session)

include kept

theorem kept_set_display {id : String} {resource : DisplayResource Adapter}
    (good : DisplayKept resource.display (Woken session id)) :
    SessionKept (session.setDisplay id resource) := by
  intro other found present
  by_cases same : other = id
  · subst same
    simp only [setDisplay, Function.update_self, Option.some.injEq] at present
    exact present ▸ good
  · simp only [setDisplay, Function.update_of_ne same] at present
    exact kept other found present

theorem kept_on_display {id : String}
    {slot : GraphicsSceneDisplay Adapter → GraphicsSceneDisplay Adapter}
    (preserves : ∀ display, DisplayKept display (Woken session id) →
      DisplayKept (slot display) (Woken session id)) : SessionKept (session.onDisplay id slot) := by
  unfold onDisplay
  cases present : session.displays id with
  | none => exact kept
  | some resource => exact kept_set_display kept (preserves _ (kept id resource present))

theorem kept_acquire (id : String) : SessionKept (session.acquireDisplay id) := by
  unfold acquireDisplay
  cases present : session.displays id with
  | none => exact kept
  | some resource => exact kept_set_display kept (kept id resource present)

theorem kept_release (id : String) : SessionKept (session.releaseDisplay id) := by
  unfold releaseDisplay
  cases present : session.displays id with
  | none => exact kept
  | some resource => exact kept_set_display kept (kept id resource present)

theorem kept_on_adapter [DecidableEq Adapter] {adapter : Adapter}
    {slot : GraphicsSceneDisplay Adapter → GraphicsSceneDisplay Adapter}
    (preserves : ∀ display woken, DisplayKept display woken → DisplayKept (slot display) woken) :
    SessionKept (session.onAdapter adapter slot) := by
  intro id resource present
  simp only [onAdapter, Option.map_eq_some_iff] at present
  obtain ⟨before, found, same⟩ := present
  have good := kept id before found
  rw [← same]
  split_ifs
  · exact preserves _ _ good
  · exact good

theorem kept_woken {after : ViriditySession Adapter} (sameDisplays : after.displays = session.displays)
    (woken : ∀ id, Woken session id → Woken after id) : SessionKept after := by
  intro id resource present
  rw [sameDisplays] at present
  exact (kept id resource present).mono (woken id)

theorem kept_display_timeout (id : String) : SessionKept (session.displayTimeout id) := by
  unfold displayTimeout
  cases present : session.displays id with
  | none => exact kept
  | some resource =>
      have good := kept id resource present
      simp only
      split_ifs with fired
      · have queued : SessionKept { session with queuedReady := session.queuedReady ++ [id] } := by
          apply @kept_woken _ _ kept { session with queuedReady := session.queuedReady ++ [id] } rfl
          intro other woken
          rcases woken with waiting | listed
          · exact Or.inl (List.mem_append_left _ waiting)
          · exact Or.inr listed
        apply kept_set_display queued
        apply kept_timeout good
        intro _
        exact Or.inl (List.mem_append_right _ List.mem_cons_self)
      · apply kept_set_display kept
        apply kept_timeout good
        intro impossible
        exact absurd impossible fired

end Sessions

theorem kept_take_from_handlers (platform : DisplayPlatform) (returnBinary : Bool)
    (handlers : List String) {session : ViriditySession Adapter}
    (waiting : ∀ id resource, session.displays id = some resource →
      DisplayKept resource.display (Woken session id ∨ id ∈ handlers)) :
    SessionKept (takeFromHandlers platform returnBinary session handlers).1 := by
  induction handlers generalizing session with
  | nil =>
      intro id resource present
      apply (waiting id resource present).mono
      rintro (woken | impossible)
      · exact woken
      · exact absurd impossible List.not_mem_nil
  | cons handler handlers induction =>
      simp only [takeFromHandlers]
      cases found : session.displays handler with
      | none =>
          apply induction
          intro id resource present
          apply (waiting id resource present).mono
          rintro (woken | listed)
          · exact Or.inl woken
          · rcases List.mem_cons.mp listed with same | later
            · rw [same, found] at present
              cases present
            · exact Or.inr later
      | some resource =>
          apply induction
          intro id other present
          by_cases same : id = handler
          · subst same
            simp only [setDisplay, Function.update_self, Option.some.injEq] at present
            subst present
            exact kept_take_pending (waiting id resource found) platform session.scenes
              returnBinary _
          · simp only [setDisplay, Function.update_of_ne same] at present
            apply (waiting id other present).mono
            rintro (woken | listed)
            · exact Or.inl woken
            · exact Or.inr (List.mem_of_ne_of_mem same listed)

theorem kept_take_pending_messages (platform : DisplayPlatform) (returnBinary : Bool)
    {session : ViriditySession Adapter} (kept : SessionKept session) :
    SessionKept (session.takePendingMessages platform returnBinary).1 := by
  unfold takePendingMessages
  apply kept_take_from_handlers
  intro id resource present
  apply (kept id resource present).mono
  rintro (queued | listed)
  · exact Or.inl (Or.inl queued)
  · exact Or.inr listed

section Dispatch

variable [DecidableEq Adapter] (platform : DisplayPlatform)

theorem kept_create (scenes : Adapter → Scene) (id : String) (adapter : Option Adapter)
    (woken : Prop) : DisplayKept (GraphicsSceneDisplay.create platform scenes id adapter) woken := by
  have fresh : WellFormed (GraphicsSceneBufferRenderer.create platform.toPlatform :
      GraphicsSceneBufferRenderer Adapter) :=
    @well_formed_fresh Adapter platform.toPlatform
      ⟨GraphicsSceneBufferRenderer.create platform.toPlatform, scenes⟩ rfl
  have formed := @well_formed_act Adapter _ platform.toPlatform
    ⟨GraphicsSceneBufferRenderer.create platform.toPlatform, scenes⟩ fresh (.setTarget adapter)
  exact ⟨formed, fun _ => rfl, fun _ _ => Or.inl rfl⟩

variable {session : ViriditySession Adapter} (kept : SessionKept session)

include kept

theorem kept_handle_new_display (targetId : String) (params : List String) :
    SessionKept (session.handleNewDisplay platform targetId params).1 := by
  unfold handleNewDisplay
  cases created : session.createDisplayInstance platform targetId params with
  | none => exact kept
  | some display =>
      apply kept_release
      have good : DisplayKept display (Woken session targetId) := by
        unfold createDisplayInstance at created
        cases managed : session.manager with
        | single adapter encoderSettings comparerSettings =>
            rw [managed] at created
            simp only [Option.some.injEq] at created
            have fresh := kept_create platform session.scenes targetId adapter
              (Woken session targetId)
            have settings := announced_settings fresh.formed platform comparerSettings
            rw [← created]
            exact ⟨settings.formed, fresh.backPressure, fun _ _ => Or.inl rfl⟩
        | multi getAdapter =>
            rw [managed] at created
            simp only [Option.map_eq_some_iff] at created
            obtain ⟨adapter, _, same⟩ := created
            exact same ▸ kept_create platform session.scenes targetId (some adapter) _
      have inserted : SessionKept (session.setDisplay targetId ⟨display, 1⟩) :=
        kept_set_display kept good
      exact kept_woken inserted rfl (fun _ woken => woken)

theorem kept_handle_message (targetId : String) (command : DisplayCommand) :
    SessionKept (session.handleMessage platform targetId command).1 := by
  unfold handleMessage
  have acquired := kept_acquire kept targetId
  cases present : session.displays targetId with
  | none =>
      cases command with
      | newDisplay params => exact kept_handle_new_display platform kept targetId params
      | ready => exact kept
      | requestFullUpdate params => exact kept
      | resize width height => exact kept
      | keepAlive => exact kept
      | input handled => exact kept
  | some resource =>
      have commanded : ∀ command, SessionKept (((session.acquireDisplay targetId).onDisplay targetId
          fun display => (displayHandleMessage platform display command).1).releaseDisplay
            targetId) := by
        intro command
        apply kept_release
        apply kept_on_display acquired
        intro display good
        exact kept_command good platform command
      cases command with
      | newDisplay params =>
          apply kept_release
          apply kept_on_display acquired
          intro display good
          exact kept_request_full_update good true
      | ready => exact commanded _
      | requestFullUpdate params => exact commanded _
      | resize width height => exact commanded _
      | keepAlive => exact commanded _
      | input handled => exact commanded _

theorem kept_dispatch (action : DispatchAction Adapter) :
    SessionKept (dispatch platform session action) := by
  unfold dispatch
  cases action with
  | handleMessage targetId command => exact kept_handle_message platform kept targetId command
  | takePendingMessages returnBinary => exact kept_take_pending_messages platform returnBinary kept
  | takePatch id patchId =>
      apply kept_on_display kept
      intro display good
      exact kept_take_patch good patchId
  | deliverReady =>
      cases queue : session.queuedReady with
      | nil => exact kept
      | cons handler remaining =>
          simp only
          apply kept_woken kept
          · rfl
          intro id woken
          unfold Woken at woken ⊢
          rw [queue] at woken
          simp only [handlerIsReadyForDispatch, triggerUpdateCheckTimer]
          rcases woken with queued | listed
          · rcases List.mem_cons.mp queued with same | later
            · right
              split_ifs with already
              · exact same ▸ already
              · exact List.mem_append_right _ (same ▸ List.mem_cons_self)
            · exact Or.inl later
          · right
            split_ifs
            · exact listed
            · exact List.mem_append_left _ listed
  | deliverMessage =>
      cases queue : session.queuedMessages with
      | nil => exact kept
      | cons message remaining => exact kept_woken kept rfl (fun _ woken => woken)
  | displayTimeout id => exact kept_display_timeout kept id
  | updateCheckTimerTimeout => exact kept_woken kept rfl (fun _ woken => woken)
  | changeScene adapter scene rects =>
      apply kept_on_adapter
      · exact kept_woken kept rfl (fun _ woken => woken)
      · intro display woken good
        exact kept_renderer_slot good (announced_scene_changed good.formed rects)
  | destroyAdapter adapter =>
      apply kept_on_adapter kept
      intro display woken good
      exact kept_renderer_slot good (announced_destroyed good.formed)
  | pushFullFrame id image =>
      apply kept_on_display kept
      intro display good
      exact kept_renderer_slot good (announced_push_full_frame good.formed image)
  | setEncoderSettings id settings =>
      apply kept_on_display kept
      intro display good
      exact ⟨good.formed, good.backPressure, good.awake⟩
  | setComparerSettings id settings =>
      apply kept_on_display kept
      intro display good
      exact kept_renderer_slot good (announced_settings good.formed platform settings)

omit kept in
theorem reach_session_kept (reached : Reach (DispatchStep platform) always NewSession session) :
    SessionKept session := by
  apply Reach.invariant _ _ reached
  · intro start begins id resource present
    rw [begins.1 id] at present
    cases present
  · intro before action after kept _ taken
    unfold DispatchStep at taken
    subst taken
    exact kept_dispatch platform kept action

end Dispatch

/-- In every reachable session a display that has damage to send to a ready client
runs its timer, has queued its wake-up, or waits to be polled. -/
theorem damage_always_scheduled [DecidableEq Adapter] (platform : DisplayPlatform)
    {session : ViriditySession Adapter}
    (reached : Reach (DispatchStep platform) always NewSession session) {id : String}
    {resource : DisplayResource Adapter} (present : session.displays id = some resource)
    (damaged : resource.display.renderer.updatesAvailable = true)
    (ready : resource.display.clientReady = true) :
    resource.display.updateCheckTimerActive = true ∨ id ∈ session.queuedReady ∨
      id ∈ session.messageHandlersRequestingMessageDispatch := by
  have kept := reach_session_kept platform reached id resource present
  rcases kept.awake damaged ready with active | ⟨_, woken⟩
  · exact Or.inl active
  · exact Or.inr woken

theorem reach_dispatch [DecidableEq Adapter] {platform : DisplayPlatform}
    {session : ViriditySession Adapter}
    (reached : Reach (DispatchStep platform) always NewSession session)
    (actions : List (DispatchAction Adapter)) :
    Reach (DispatchStep platform) always NewSession (actions.foldl (dispatch platform) session) := by
  induction actions generalizing session with
  | nil => exact reached
  | cons action actions induction => exact induction (Reach.next reached trivial rfl)

def whiteSession : ViriditySession Unit where
  manager := .single (some ()) EncoderSettings.default
    { ComparerSettings.default with tileWidth := 1 }
  scenes := fun _ => ⟨1, 1, fun _ => 0xFFFFFFFF⟩
  displays := fun _ => none
  messages := []
  messageHandlersRequestingMessageDispatch := []
  updateCheckTimerActive := false
  queuedReady := []
  queuedMessages := []

theorem white_session_reached (platform : DisplayPlatform) (actions : List (DispatchAction Unit)) :
    Reach (DispatchStep platform) always NewSession
      (actions.foldl (dispatch platform) whiteSession) :=
  reach_dispatch (Reach.start ⟨fun _ => rfl, rfl, rfl, rfl⟩) actions

/-- No patch is compressed, nor its data kept. -/
def bareDisplayPlatform : DisplayPlatform :=
  { Platform.reference with
    createPatch := fun _ _ rect => ⟨"", rect, 0, [], "image/bmp", false⟩ }

def wokenSession : ViriditySession Unit :=
  [.handleMessage "d" (.newDisplay []), .displayTimeout "d"].foldl (dispatch bareDisplayPlatform)
    whiteSession

theorem damage_always_scheduled_woken :
    ∃ resource, wokenSession.displays "d" = some resource ∧
      (resource.display.updateCheckTimerActive = true ∨ "d" ∈ wokenSession.queuedReady ∨
        "d" ∈ wokenSession.messageHandlersRequestingMessageDispatch) := by
  have flags : (wokenSession.displays "d").map (fun resource =>
      resource.display.renderer.updatesAvailable && resource.display.clientReady) = some true := by
    decide +kernel
  cases present : wokenSession.displays "d" with
  | none =>
      rw [present] at flags
      cases flags
  | some resource =>
      rw [present] at flags
      simp only [Option.map_some, Option.some.injEq, Bool.and_eq_true] at flags
      exact ⟨resource, rfl, damage_always_scheduled bareDisplayPlatform
        (white_session_reached bareDisplayPlatform _) present flags.1 flags.2⟩

/-- The display has an update scheduled: its timer runs, or it is about to be polled. -/
def UpdateScheduled (session : ViriditySession Adapter) (id : String)
    (display : GraphicsSceneDisplay Adapter) : Prop :=
  display.updateCheckTimerActive = true ∨ (display.updateAvailable = true ∧ Woken session id)

structure Reattached (platform : DisplayPlatform) (session : ViriditySession Adapter) (id : String)
    (display : GraphicsSceneDisplay Adapter) : Prop where
  ready : display.clientReady = true
  empty : display.patches = []
  damaged : WholeDamaged display.renderer
  requested : display.fullUpdateRequested = true
  scheduled : UpdateScheduled session id display
  nextFrame : ∀ scenes returnBinary, ∃ frame messages,
    (display.updateCheckTimerTimeout.1.takePendingMessages platform scenes returnBinary).2 =
      .fullUpdate frame :: messages

/-- A pending full update whose frame has not been taken yet. -/
def StillPending (session : ViriditySession Adapter) (id : String)
    (display : GraphicsSceneDisplay Adapter) : Prop :=
  display.clientReady = true ∧ WholeDamaged display.renderer ∧
    (display.renderer.updatesAvailable = true ∨ UpdateScheduled session id display)

theorem next_frame_full_update (platform : DisplayPlatform)
    {display : GraphicsSceneDisplay Adapter} (ready : display.clientReady = true)
    (empty : display.patches = []) (requested : display.fullUpdateRequested = true)
    (scenes : Adapter → Scene) (returnBinary : Bool) : ∃ frame messages,
      (display.updateCheckTimerTimeout.1.takePendingMessages platform scenes returnBinary).2 =
        .fullUpdate frame :: messages := by
  have ticked : display.updateCheckTimerTimeout.1 =
      { display with updateCheckTimerActive := false, updateAvailable := true } := by
    simp [GraphicsSceneDisplay.updateCheckTimerTimeout, ready, empty]
  rw [ticked]
  rcases take_pending_cases platform scenes returnBinary
      ({ display with updateCheckTimerActive := false, updateAvailable := true } :
        GraphicsSceneDisplay Adapter) with ⟨unavailable, _⟩ | ⟨_, ops, takes⟩
  · simp [GraphicsSceneDisplay.isUpdateAvailable, ready, empty] at unavailable
  · have sent := takes.sent
    rw [if_pos (show ({ display with updateCheckTimerActive := false, updateAvailable := true } :
      GraphicsSceneDisplay Adapter).fullUpdateRequested = true from requested)] at sent
    exact ⟨_, _, sent⟩

section Reattach

variable [DecidableEq Adapter] (platform : DisplayPlatform) {session : ViriditySession Adapter}
variable {id : String} {resource : DisplayResource Adapter}

theorem handle_new_display_existing (present : session.displays id = some resource)
    (params : List String) :
    (session.handleMessage platform id (.newDisplay params)).1 =
      session.setDisplay id { resource with display := resource.display.requestFullUpdate true } := by
  simp [handleMessage, present, acquireDisplay, onDisplay, releaseDisplay, setDisplay]

theorem handle_message_existing (present : session.displays id = some resource)
    {command : DisplayCommand} (other : ∀ params, command ≠ .newDisplay params) :
    (session.handleMessage platform id command).1 = session.setDisplay id
      { resource with display := (displayHandleMessage platform resource.display command).1 } := by
  cases command with
  | newDisplay params => exact absurd rfl (other params)
  | ready => simp [handleMessage, present, acquireDisplay, onDisplay, releaseDisplay, setDisplay]
  | requestFullUpdate params =>
      simp [handleMessage, present, acquireDisplay, onDisplay, releaseDisplay, setDisplay]
  | resize width height =>
      simp [handleMessage, present, acquireDisplay, onDisplay, releaseDisplay, setDisplay]
  | keepAlive => simp [handleMessage, present, acquireDisplay, onDisplay, releaseDisplay, setDisplay]
  | input handled =>
      simp [handleMessage, present, acquireDisplay, onDisplay, releaseDisplay, setDisplay]

/-- A client that reattaches finds the display reset, exactly when no full update is
pending or the pending one has not been taken. -/
theorem reattaching_gets_full_update
    (reached : Reach (DispatchStep platform) always NewSession session)
    (present : session.displays id = some resource) (params : List String) :
    (∃ after, (session.handleMessage platform id (.newDisplay params)).1.displays id = some after ∧
      Reattached platform (session.handleMessage platform id (.newDisplay params)).1 id
        after.display) ↔
      resource.display.fullUpdateRequested = false ∨ StillPending session id resource.display := by
  have kept := reach_session_kept platform reached id resource present
  rw [handle_new_display_existing platform present params]
  simp only [setDisplay, Function.update_self, Option.some.injEq, exists_eq_left']
  rw [request_full_update_eq]
  constructor
  · intro reattached
    cases requested : resource.display.fullUpdateRequested with
    | false => exact Or.inl rfl
    | true =>
        rw [requested, if_pos rfl] at reattached
        exact Or.inr ⟨reattached.ready, reattached.damaged, Or.inr reattached.scheduled⟩
  · intro condition
    cases requested : resource.display.fullUpdateRequested with
    | false =>
        rw [if_neg (by decide)]
        exact
          { ready := rfl
            empty := rfl
            damaged := (well_formed_full_update kept.formed).2
            requested := rfl
            scheduled := Or.inl rfl
            nextFrame := next_frame_full_update platform rfl rfl rfl }
    | true =>
        rw [if_pos rfl]
        rcases condition with impossible | ⟨ready, damaged, pending⟩
        · exact absurd (requested.symm.trans impossible) (by decide)
        · have scheduled : UpdateScheduled session id resource.display := by
            rcases pending with available | scheduled
            · exact kept.awake available ready
            · exact scheduled
          exact
            { ready := ready
              empty := kept.backPressure ready
              damaged := damaged
              requested := requested
              scheduled := scheduled
              nextFrame := next_frame_full_update platform ready (kept.backPressure ready) requested }

end Reattach

/-- One frame was sent and the client was ready for the next. -/
def answeredSession : ViriditySession Unit :=
  [.handleMessage "d" (.newDisplay []), .displayTimeout "d", .deliverReady,
    .takePendingMessages false, .handleMessage "d" .ready].foldl (dispatch bareDisplayPlatform)
    whiteSession

theorem reattaching_gets_full_update_answered :
    ∃ after, (answeredSession.handleMessage bareDisplayPlatform "d" (.newDisplay [])).1.displays
        "d" = some after ∧
      Reattached bareDisplayPlatform
        (answeredSession.handleMessage bareDisplayPlatform "d" (.newDisplay [])).1 "d"
        after.display := by
  have flag : (answeredSession.displays "d").map (fun resource =>
      resource.display.fullUpdateRequested) = some false := by decide +kernel
  cases present : answeredSession.displays "d" with
  | none =>
      rw [present] at flag
      cases flag
  | some resource =>
      rw [present, Option.map_some, Option.some.injEq] at flag
      exact (reattaching_gets_full_update bareDisplayPlatform
        (white_session_reached bareDisplayPlatform _) present []).mpr (Or.inl flag)

/-- One frame was sent and its connection was lost before `ready()` arrived. -/
def abandonedSession : ViriditySession Unit :=
  [.handleMessage "d" (.newDisplay []), .displayTimeout "d", .deliverReady,
    .takePendingMessages false].foldl (dispatch bareDisplayPlatform) whiteSession

theorem reattaching_gets_no_frame :
    ¬∀ (session : ViriditySession Unit) (id : String) (resource : DisplayResource Unit)
      (params : List String),
      Reach (DispatchStep bareDisplayPlatform) always NewSession session →
      session.displays id = some resource → resource.display.adapter.isSome = true →
      ∃ after, (session.handleMessage bareDisplayPlatform id (.newDisplay params)).1.displays id =
          some after ∧
        Reattached bareDisplayPlatform
          (session.handleMessage bareDisplayPlatform id (.newDisplay params)).1 id
          after.display := by
  intro claim
  have reached : Reach (DispatchStep bareDisplayPlatform) always NewSession abandonedSession :=
    white_session_reached bareDisplayPlatform _
  have attached : (abandonedSession.displays "d").map (fun resource =>
      resource.display.adapter.isSome) = some true := by decide +kernel
  have stuck : ((abandonedSession.handleMessage bareDisplayPlatform "d"
      (.newDisplay [])).1.displays "d").map (fun after => after.display.clientReady) =
      some false := by decide +kernel
  cases present : abandonedSession.displays "d" with
  | none =>
      rw [present] at attached
      cases attached
  | some resource =>
      rw [present, Option.map_some, Option.some.injEq] at attached
      obtain ⟨after, found, reattached⟩ := claim abandonedSession "d" resource [] reached present
        attached
      rw [found, Option.map_some, Option.some.injEq, reattached.ready] at stuck
      cases stuck

end Viridity.DisplayDispatch
