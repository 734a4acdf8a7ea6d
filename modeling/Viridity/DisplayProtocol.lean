import Viridity.DisplayClient
import Viridity.FrameFlow

/-!
# A display and its client

The server's display and the client's renderer, joined by two channels that deliver
first in, first out. Images finish loading in any order, and the client may ask for
a full update or reattach at any moment.
-/

namespace Viridity.DisplayProtocol

open Viridity.QtRectangle
open Viridity.ImageAux
open Viridity.ImageComparerOpTools
open Viridity.FrameComparison
open Viridity.BufferRenderer
open Viridity.SceneDisplay
open Viridity.FrameFlow
open Viridity.DisplayDispatch
open Viridity.DisplayClient
open GraphicsSceneDisplay (renderer_slot_eq client_ready_eq request_full_update_eq
  take_pending_cases TakesFrame operationMessages)
open UpdateOperationType

set_option autoImplicit false

variable {Adapter : Type}

/-- `received` are the messages delivered to the client and `events` what it did to its
canvases, both from the beginning. -/
structure ProtocolState (Adapter : Type) where
  server : DisplayRun Adapter
  toClient : List ClientMessage
  toServer : List DisplayCommand
  client : DisplayRenderer
  received : List ClientMessage
  events : List CanvasEvent

inductive ProtocolAction (Adapter : Type) where
  | server (action : DisplayAction Adapter)
  | deliverToServer
  | deliverToClient
  | imageDone (index : Nat) (loaded : Bool)
  | requestFullUpdate (forced : Bool)
  | reconnectDisplay (params : List String) (width height : Int)
  | resize (width height : Int)

def isSpontaneous : DisplayAction Adapter → Bool
  | .takePendingMessages _ => true
  | .takePatch _ => true
  | .clientReady => false
  | .requestFullUpdate _ => false
  | .updateCheckTimerTimeout => true
  | .changeScene _ _ _ => true
  | .resize _ _ => false
  | .pushFullFrame _ => true
  | .destroyAdapter => true
  | .setEncoderSettings _ => true
  | .setComparerSettings _ => true

/-- What the display does about a message; `newDisplay` finds it existing. -/
def commandAction : DisplayCommand → Option (DisplayAction Adapter)
  | .newDisplay _ => some (.requestFullUpdate true)
  | .ready => some .clientReady
  | .requestFullUpdate params => some (.requestFullUpdate (params == [1]))
  | .resize width height => some (.resize width height)
  | .keepAlive => none
  | .input _ => none

def sentBy (platform : DisplayPlatform) (run : DisplayRun Adapter) :
    DisplayAction Adapter → List DisplayMessage
  | .takePendingMessages returnBinary =>
      (run.display.takePendingMessages platform run.scenes returnBinary).2
  | _ => []

namespace ProtocolState

def serverActs [DecidableEq Adapter] (platform : DisplayPlatform) (state : ProtocolState Adapter)
    (action : DisplayAction Adapter) : ProtocolState Adapter :=
  { state with
    server := perform platform state.server action
    toClient := state.toClient ++ (sentBy platform state.server action).map .frame }

def clientActs (state : ProtocolState Adapter) (outcome : ClientOutcome) : ProtocolState Adapter :=
  { state with
    client := outcome.renderer
    toServer := state.toServer ++ outcome.sent
    events := state.events ++ outcome.events }

def deliverToServer [DecidableEq Adapter] (platform : DisplayPlatform)
    (state : ProtocolState Adapter) : Option (ProtocolState Adapter) :=
  match state.toServer with
  | [] => none
  | command :: remaining =>
      let consumed := { state with toServer := remaining }
      match commandAction command with
      | some action => some (consumed.serverActs platform action)
      | none => some consumed

def deliverToClient (state : ProtocolState Adapter) : Option (ProtocolState Adapter) :=
  match state.toClient with
  | [] => none
  | message :: remaining =>
      some ({ state with
        toClient := remaining
        received := state.received ++ [message] }.clientActs (state.client.messageCallback message))

end ProtocolState

def protocolStep [DecidableEq Adapter] (platform : DisplayPlatform) (state : ProtocolState Adapter) :
    ProtocolAction Adapter → Option (ProtocolState Adapter)
  | .server action => if isSpontaneous action then some (state.serverActs platform action) else none
  | .deliverToServer => state.deliverToServer platform
  | .deliverToClient => state.deliverToClient
  | .imageDone index loaded =>
      if index < state.client.loading.length then
        some (state.clientActs (state.client.imageDone index loaded))
      else none
  | .requestFullUpdate forced => some (state.clientActs (state.client.requestFullUpdate forced))
  | .reconnectDisplay params width height =>
      some (state.clientActs (state.client.reconnectDisplay params width height))
  | .resize width height => some (state.clientActs (state.client.resize width height))

def ProtocolStep [DecidableEq Adapter] (platform : DisplayPlatform) (state : ProtocolState Adapter)
    (action : ProtocolAction Adapter) (after : ProtocolState Adapter) : Prop :=
  protocolStep platform state action = some after

/-- What a step does. A message of the client is obeyed, or it means nothing to the display. -/
inductive ProtocolMove [DecidableEq Adapter] (platform : DisplayPlatform)
    (state : ProtocolState Adapter) : ProtocolAction Adapter → ProtocolState Adapter → Prop where
  | serverActs {action : DisplayAction Adapter} (spontaneous : isSpontaneous action = true) :
      ProtocolMove platform state (.server action) (state.serverActs platform action)
  | obeys {command : DisplayCommand} {remaining : List DisplayCommand}
      {action : DisplayAction Adapter} (pending : state.toServer = command :: remaining)
      (meaning : commandAction command = some action) :
      ProtocolMove platform state .deliverToServer
        (({ state with toServer := remaining } : ProtocolState Adapter).serverActs platform action)
  | ignores {command : DisplayCommand} {remaining : List DisplayCommand}
      (pending : state.toServer = command :: remaining)
      (meaningless : (commandAction command : Option (DisplayAction Adapter)) = none) :
      ProtocolMove platform state .deliverToServer { state with toServer := remaining }
  | receives {message : ClientMessage} {remaining : List ClientMessage}
      (pending : state.toClient = message :: remaining) :
      ProtocolMove platform state .deliverToClient
        (({ state with
          toClient := remaining
          received := state.received ++ [message] } : ProtocolState Adapter).clientActs
            (state.client.messageCallback message))
  | imageDone {index : Nat} {loaded : Bool} (inside : index < state.client.loading.length) :
      ProtocolMove platform state (.imageDone index loaded)
        (state.clientActs (state.client.imageDone index loaded))
  | requestFullUpdate {forced : Bool} : ProtocolMove platform state (.requestFullUpdate forced)
      (state.clientActs (state.client.requestFullUpdate forced))
  | reconnectDisplay {params : List String} {width height : Int} :
      ProtocolMove platform state (.reconnectDisplay params width height)
        (state.clientActs (state.client.reconnectDisplay params width height))
  | resize {width height : Int} : ProtocolMove platform state (.resize width height)
      (state.clientActs (state.client.resize width height))

theorem protocol_move [DecidableEq Adapter] {platform : DisplayPlatform}
    {state after : ProtocolState Adapter} {action : ProtocolAction Adapter}
    (taken : ProtocolStep platform state action after) :
    ProtocolMove platform state action after := by
  unfold ProtocolStep at taken
  cases action with
  | server action =>
      simp only [protocolStep] at taken
      split_ifs at taken with spontaneous
      cases taken
      exact .serverActs spontaneous
  | deliverToServer =>
      simp only [protocolStep, ProtocolState.deliverToServer] at taken
      cases pending : state.toServer with
      | nil =>
          rw [pending] at taken
          cases taken
      | cons command remaining =>
          rw [pending] at taken
          cases meaning : (commandAction command : Option (DisplayAction Adapter)) with
          | some action =>
              simp only [meaning] at taken
              cases taken
              exact .obeys pending meaning
          | none =>
              simp only [meaning] at taken
              cases taken
              exact .ignores pending meaning
  | deliverToClient =>
      simp only [protocolStep, ProtocolState.deliverToClient] at taken
      cases pending : state.toClient with
      | nil =>
          rw [pending] at taken
          cases taken
      | cons message remaining =>
          rw [pending] at taken
          cases taken
          exact .receives pending
  | imageDone index loaded =>
      simp only [protocolStep] at taken
      split_ifs at taken with inside
      cases taken
      exact .imageDone inside
  | requestFullUpdate forced =>
      cases taken
      exact .requestFullUpdate
  | reconnectDisplay params width height =>
      cases taken
      exact .reconnectDisplay
  | resize width height =>
      cases taken
      exact .resize

/-- The display was just created for the client; its `done()` is on the way. -/
def Created [DecidableEq Adapter] (platform : DisplayPlatform) (state : ProtocolState Adapter) :
    Prop :=
  Constructed platform state.server ∧ state.toClient = [.done] ∧ state.toServer = [] ∧
    state.client = DisplayRenderer.initial ∧ state.received = [] ∧ state.events = []

/-- The next message is not a full update that finds images loading. -/
def FindsImagesLoaded (state : ProtocolState Adapter) : Prop :=
  ∀ message remaining, state.toClient = message :: remaining → isFullUpdate message = true →
    state.client.loading = []

def sentIn : DisplayEvent → Option DisplayMessage
  | .sent message => some message
  | .tookPatch _ _ => none
  | .ready => none
  | .forcedFullUpdate => none

theorem perform_sent [DecidableEq Adapter] (platform : DisplayPlatform) (run : DisplayRun Adapter)
    (action : DisplayAction Adapter) :
    (perform platform run action).log.filterMap sentIn =
      run.log.filterMap sentIn ++ sentBy platform run action := by
  have mapped : ∀ messages : List DisplayMessage,
      (messages.map DisplayEvent.sent).filterMap sentIn = messages := by
    intro messages
    rw [List.filterMap_map]
    exact List.filterMap_some
  cases action with
  | takePendingMessages returnBinary =>
      simp only [perform, DisplayRun.continue, List.filterMap_append, mapped, sentBy]
  | takePatch patchId => simp [perform, DisplayRun.continue, sentBy, sentIn]
  | clientReady => simp [perform, DisplayRun.continue, sentBy, sentIn]
  | requestFullUpdate forced =>
      simp only [perform, DisplayRun.continue, sentBy, List.append_nil]
      split_ifs
      · simp [sentIn]
      · simp
  | updateCheckTimerTimeout => simp [perform, DisplayRun.continue, sentBy]
  | changeScene adapter scene rects =>
      simp only [perform, sentBy, List.append_nil]
      split_ifs
      · simp [DisplayRun.continue]
      · rfl
  | resize width height => simp [perform, DisplayRun.continue, sentBy]
  | pushFullFrame image => simp [perform, DisplayRun.continue, sentBy]
  | destroyAdapter => simp [perform, DisplayRun.continue, sentBy]
  | setEncoderSettings settings => simp [perform, DisplayRun.continue, sentBy]
  | setComparerSettings settings => simp [perform, DisplayRun.continue, sentBy]

/-- What an action does to the flags and the frame number, with the messages it sends. -/
inductive ServerMove (before after : GraphicsSceneDisplay Adapter) : List DisplayMessage → Prop
  | still (ready : after.clientReady = before.clientReady)
      (requested : after.fullUpdateRequested = before.fullUpdateRequested)
      (frame : after.frame = before.frame) : ServerMove before after []
  | unchanged (available : before.clientReady = true) (ready : after.clientReady = true)
      (requested : after.fullUpdateRequested = before.fullUpdateRequested)
      (frame : after.frame = before.frame) :
      ServerMove before after
        (if before.fullUpdateRequested then [.fullUpdate before.frame] else [])
  | framed (body : List DisplayMessage) (available : before.clientReady = true)
      (ready : after.clientReady = false)
      (requested : after.fullUpdateRequested = before.fullUpdateRequested)
      (frame : after.frame = before.frame + 1)
      (operations : ∀ message ∈ body, isOperation message = true ∧ frameOf message = after.frame) :
      ServerMove before after
        ((if before.fullUpdateRequested then [.fullUpdate after.frame] else []) ++ body ++
          [.frameEnd after.frame])

theorem operation_messages_of_frame (createPatch : QRect → GraphicsSceneFramePatch)
    (settings : EncoderSettings) (returnBinary : Bool) (displayId : String) (frame index : Nat)
    (ops : List UpdateOperation) :
    ∀ message ∈ (operationMessages createPatch settings returnBinary displayId frame index ops).1,
      isOperation message = true ∧ frameOf message = frame := by
  induction ops generalizing index with
  | nil =>
      intro message member
      exact absurd member List.not_mem_nil
  | cons op ops induction =>
      have remaining := induction (index + 1)
      have added : ∀ first : DisplayMessage, isOperation first = true ∧ frameOf first = frame →
          ∀ message ∈ first :: (operationMessages createPatch settings returnBinary displayId frame
            (index + 1) ops).1, isOperation message = true ∧ frameOf message = frame := by
        intro first proper message member
        rcases List.mem_cons.mp member with same | later
        · rw [same]
          exact proper
        · exact remaining message later
      cases kind : op.type with
      | uotUpdate =>
          simp only [operationMessages, kind]
          split_ifs
          · exact added _ ⟨rfl, rfl⟩
          · exact added _ ⟨rfl, rfl⟩
      | uotMove =>
          simp only [operationMessages, kind]
          exact added _ ⟨rfl, rfl⟩
      | uotFill =>
          simp only [operationMessages, kind]
          exact added _ ⟨rfl, rfl⟩
      | uotNoOp =>
          simp only [operationMessages, kind]
          exact remaining

theorem take_pending_move (platform : DisplayPlatform) (scenes : Adapter → Scene)
    (returnBinary : Bool) {display : GraphicsSceneDisplay Adapter}
    (attached : display.adapter.isSome = true) :
    ServerMove display (display.takePendingMessages platform scenes returnBinary).1
      (display.takePendingMessages platform scenes returnBinary).2 := by
  rcases take_pending_cases platform scenes returnBinary display with
    ⟨_, same⟩ | ⟨available, ops, takes⟩
  · rw [same]
    exact ServerMove.still rfl rfl rfl
  · have ready : display.clientReady = true := by
      unfold GraphicsSceneDisplay.isUpdateAvailable at available
      rw [if_pos attached] at available
      simp only [Bool.and_eq_true] at available
      exact available.1.1
    have same := takes.same
    have sent := takes.sent
    generalize (display.takePendingMessages platform scenes returnBinary).1 = after at *
    rw [sent]
    have requested : after.fullUpdateRequested = display.fullUpdateRequested := by rw [same]
    cases ops with
    | nil =>
        have frame : after.frame = display.frame := by rw [same]; rfl
        have stays : after.clientReady = true := by rw [same]; exact ready
        simp only [operationMessages, if_true, List.append_nil, frame]
        exact ServerMove.unchanged ready stays requested frame
    | cons op ops =>
        have frame : after.frame = display.frame + 1 := by rw [same]; rfl
        have busy : after.clientReady = false := by rw [same]; rfl
        exact ServerMove.framed _ ready busy requested frame
          (operation_messages_of_frame _ _ _ _ _ _ _)

theorem spontaneous_move [DecidableEq Adapter] (platform : DisplayPlatform)
    {run : DisplayRun Adapter} {action : DisplayAction Adapter}
    (spontaneous : isSpontaneous action = true ∨ ∃ width height, action = .resize width height)
    (attached : run.display.adapter.isSome = true) :
    ServerMove run.display (perform platform run action).display (sentBy platform run action) := by
  have slot : ∀ outcome : GraphicsSceneBufferRenderer Adapter × Bool,
      ServerMove run.display (run.display.rendererSlot outcome) [] := by
    intro outcome
    rw [renderer_slot_eq]
    exact ServerMove.still rfl rfl rfl
  cases action with
  | takePendingMessages returnBinary =>
      exact take_pending_move platform run.scenes returnBinary attached
  | takePatch patchId => exact ServerMove.still rfl rfl rfl
  | clientReady => simp [isSpontaneous] at spontaneous
  | requestFullUpdate forced => simp [isSpontaneous] at spontaneous
  | updateCheckTimerTimeout =>
      simp only [perform, GraphicsSceneDisplay.updateCheckTimerTimeout, sentBy]
      split_ifs
      · exact ServerMove.still rfl rfl rfl
      · exact ServerMove.still rfl rfl rfl
  | changeScene adapter scene rects =>
      simp only [perform, sentBy]
      split_ifs
      · exact slot (run.display.renderer.sceneChanged rects)
      · exact ServerMove.still rfl rfl rfl
  | resize width height => exact slot (run.display.renderer.setSize platform.toPlatform width height)
  | pushFullFrame image => exact slot (run.display.renderer.pushFullFrame image)
  | destroyAdapter => exact slot (run.display.renderer.sceneDestroyed, false)
  | setEncoderSettings settings => exact ServerMove.still rfl rfl rfl
  | setComparerSettings settings =>
      exact slot
        (GraphicsSceneBufferRenderer.setSettings platform.toPlatform run.display.renderer settings, false)

theorem command_action_session [DecidableEq Adapter] (platform : DisplayPlatform)
    (session : ViriditySession Adapter) {id : String} {resource : DisplayResource Adapter}
    (present : session.displays id = some resource) (log : List DisplayEvent)
    (command : DisplayCommand) :
    ∃ after, (session.handleMessage platform id command).1.displays id = some after ∧
      after.display = match commandAction command with
        | some action => (perform platform ⟨resource.display, session.scenes, log⟩ action).display
        | none => resource.display := by
  have handled : (∀ params, command ≠ .newDisplay params) →
      ∃ after, (session.handleMessage platform id command).1.displays id = some after ∧
        after.display = (ViriditySession.displayHandleMessage platform resource.display command).1 := by
    intro other
    rw [handle_message_existing platform present other]
    exact ⟨_, Function.update_self _ _ _, rfl⟩
  cases command with
  | newDisplay params =>
      rw [handle_new_display_existing platform present params]
      exact ⟨_, Function.update_self _ _ _, rfl⟩
  | ready => exact handled (by simp)
  | requestFullUpdate params => exact handled (by simp)
  | resize width height => exact handled (by simp)
  | keepAlive => exact handled (by simp)
  | input answer => exact handled (by simp)

section Sample

def whitePixel : Scene := ⟨1, 1, fun _ => 0xFFFFFFFF⟩

def blackPixel : Scene := ⟨1, 1, fun _ => 0xFF000000⟩

/-- A display of one white pixel, just created for its client. -/
def pixelProtocol : ProtocolState Unit where
  server := ⟨GraphicsSceneDisplay.create bareDisplayPlatform (fun _ => whitePixel) "d" (some ()),
    fun _ => whitePixel, []⟩
  toClient := [.done]
  toServer := []
  client := DisplayRenderer.initial
  received := []
  events := []

theorem pixel_protocol_created : Created bareDisplayPlatform pixelProtocol :=
  ⟨⟨"d", (), rfl, rfl⟩, rfl, rfl, rfl, rfl, rfl⟩

/-- Frame 1 is acknowledged; the client reattaches while the image of frame 2 loads, and
that image completes frame 3 in the place of its own. -/
def reattachActions : List (ProtocolAction Unit) :=
  [.server (.setComparerSettings
      { ComparerSettings.default with tileWidth := 1, analyzeFills := false }),
    .server (.takePendingMessages false), .deliverToClient, .deliverToClient, .deliverToClient,
    .deliverToClient, .imageDone 0 true, .deliverToServer,
    .server (.changeScene () blackPixel [⟨0, 0, 0, 0⟩]), .server .updateCheckTimerTimeout,
    .server (.takePendingMessages false), .deliverToClient, .deliverToClient,
    .reconnectDisplay [] 1 1, .deliverToServer, .deliverToServer,
    .server .updateCheckTimerTimeout, .server (.takePendingMessages false),
    .deliverToClient, .deliverToClient, .deliverToClient, .imageDone 0 true]

/-- The image of frame 3 spoils the counter for frame 4, which the client gives up; the
display leaves its request for later. -/
def wedgeActions : List (ProtocolAction Unit) :=
  reattachActions ++
    [.deliverToServer, .imageDone 0 true, .server (.changeScene () whitePixel [⟨0, 0, 0, 0⟩]),
      .server .updateCheckTimerTimeout, .server (.takePendingMessages false), .deliverToClient,
      .deliverToServer, .deliverToClient]

end Sample

end Viridity.DisplayProtocol
