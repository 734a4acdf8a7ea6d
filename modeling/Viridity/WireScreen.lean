import Viridity.WireCallbacks

/-!
# The screen behind a connection

A display and its client that exchange bytes and texts. Whatever the two do, and in whichever
form each poll asks for the messages, the canvases become what they become when the two exchange
parsed messages, so that the screen mirrors the scene here as well.
-/

namespace Viridity.WireScreen

open Viridity.QtRectangle
open Viridity.ImageAux
open Viridity.ImageComparerOpTools
open Viridity.TextEncoding
open Viridity.ServerMessages
open Viridity.ClientMessages
open Viridity.BufferRenderer
open Viridity.WorkBuffer
open Viridity.SceneDisplay
open Viridity.FrameFlow
open Viridity.LabelledRuns
open Viridity.DisplayDispatch
open Viridity.DisplayClient
open Viridity.DisplayProtocol
open Viridity.FrameCompletion
open Viridity.PlayerPainting
open Viridity.PatchRequests
open Viridity.PatchEncoding
open Viridity.PatchGeometry
open Viridity.NumberText
open Viridity.DisplayMessageText
open Viridity.CanvasPainting
open Viridity.PictureStream
open Viridity.CanvasPhases
open Viridity.ScreenMirror
open Viridity.RendererMessages
open Viridity.WireCallbacks
open GraphicsSceneDisplay (announcedType isInline operationMessages TakesFrame take_pending_cases)
open UpdateOperationType

set_option autoImplicit false

variable {Adapter : Type}

/-- `pictures` are the work buffers of the frames sent, from the beginning. -/
structure WireState (Adapter : Type) where
  server : DisplayRun Adapter
  toClient : List ServerFrame
  toServer : List Text
  client : WireRenderer
  events : List RendererEvent
  canvases : Canvases
  pictures : List QImage

/-- What a connection asks for when it takes the pending messages. -/
def asksBinary : DisplayAction Adapter → Bool
  | .takePendingMessages returnBinary => returnBinary
  | _ => false

namespace WireState

variable (setup : ClientSetup)

def serverActs [DecidableEq Adapter] (platform : DisplayPlatform) (state : WireState Adapter)
    (action : DisplayAction Adapter) : WireState Adapter :=
  { state with
    server := perform platform state.server action
    toClient := state.toClient ++ (sentBy platform state.server action).map fun message =>
      .ofMessage (asksBinary action)
        (messageBytes setup.serverDecoder state.server.display.id message)
    pictures := recordPicture state.pictures state.server (perform platform state.server action) }

def imageBytes (state : WireState Adapter) (image : PatchImage) : Option Bytes :=
  image.src.loaded setup.serverDecoder state.server.log

def clientActs (codec : PatchCodec) (state : WireState Adapter) (outcome : WireOutcome) :
    WireState Adapter :=
  { state with
    client := outcome.renderer
    toServer := state.toServer ++ outcome.sent
    events := state.events ++ outcome.events
    canvases := outcome.events.foldl
      (rendererEvent codec fun image => (state.imageBytes setup image).getD []) state.canvases }

/-- A text is dispatched to the display if it is addressed to it. -/
def deliverToServer [DecidableEq Adapter] (platform : DisplayPlatform) (state : WireState Adapter) :
    Option (WireState Adapter) :=
  match state.toServer with
  | [] => none
  | text :: remaining =>
      let consumed := { state with toServer := remaining }
      let taken := takeTargetFromMessage setup.serverDecoder (utf8.encode text)
      if taken.1 = some (qString state.server.display.id) then
        match (readCommand setup.serverDecoder taken.2).bind commandAction with
        | some action => some (consumed.serverActs setup platform action)
        | none => some consumed
      else some consumed

def deliverToClient (codec : PatchCodec) (state : WireState Adapter) : Option (WireState Adapter) :=
  match state.toClient with
  | [] => none
  | frame :: remaining =>
      some (({ state with toClient := remaining } : WireState Adapter).clientActs setup codec
        (state.client.processMessage setup (parseMessage setup.clientDecoder frame)))

def contain (state : WireState Adapter) (width height : Int) : WireState Adapter :=
  { state with canvases := resized state.canvases width height }

end WireState

def wireStep [DecidableEq Adapter] (setup : ClientSetup) (codec : PatchCodec)
    (platform : DisplayPlatform) (state : WireState Adapter) :
    ProtocolAction Adapter → Option (WireState Adapter)
  | .server action =>
      if isSpontaneous action then some (state.serverActs setup platform action) else none
  | .deliverToServer => state.deliverToServer setup platform
  | .deliverToClient => state.deliverToClient setup codec
  | .imageDone index loaded =>
      -- an image is loaded only when there is data for it
      if index < state.client.loading.length ∧
          (loaded = true → (state.client.loading[index]?.bind (state.imageBytes setup)).isSome) then
        some (state.clientActs setup codec (state.client.imageDone setup index loaded))
      else none
  | .requestFullUpdate forced =>
      some (state.clientActs setup codec (state.client.requestFullUpdate setup forced))
  | .reconnectDisplay params width height =>
      some ((state.contain width height).clientActs setup codec
        (state.client.reconnectDisplay setup params width height))
  | .resize width height =>
      some ((state.contain width height).clientActs setup codec
        (state.client.resize setup width height))

def WireStep [DecidableEq Adapter] (setup : ClientSetup) (codec : PatchCodec)
    (platform : DisplayPlatform) (state : WireState Adapter) (action : ProtocolAction Adapter)
    (after : WireState Adapter) : Prop :=
  wireStep setup codec platform state action = some after

/-- A new display, whose announcement is on the way in either form, with a client that has
canvases of any size and content. -/
structure WireStarted [DecidableEq Adapter] (setup : ClientSetup) (platform : DisplayPlatform)
    (state : WireState Adapter) : Prop where
  constructed : Constructed platform state.server
  named : state.server.display.id = setup.displayId
  toClient : ∃ returnBinary, state.toClient = [.ofMessage returnBinary
    (utf8.encode (addressed setup.displayId.toList "done()".toList))]
  toServer : state.toServer = []
  client : state.client = WireRenderer.initial
  events : state.events = []
  pictures : state.pictures = []

/-- The display and client that exchange what the bytes and texts are read as. -/
structure Corresponds (setup : ClientSetup) (wire : WireState Adapter) (state : ScreenState Adapter) :
    Prop where
  server : wire.server = state.protocol.server
  named : wire.server.display.id = setup.displayId
  toClient : List.Forall₂ (FrameTells setup) wire.toClient state.protocol.toClient
  toServer : List.Forall₂ (Says setup) wire.toServer state.protocol.toServer
  client : RendererReads setup wire.client state.protocol.client
  events : List.Forall₂ (EventReads setup) wire.events state.protocol.events
  canvases : wire.canvases = state.canvases
  pictures : wire.pictures = state.pictures

def signature : PatchFormat → UInt8
  | .png => 0x89
  | .jpeg => 0xFF
  | .bmp => 0x42

/-- Images begin as their formats do. -/
def Signed (encoder : PatchEncoder) : Prop :=
  ∀ format image, ∀ byte ∈ (encoder.save format image).head?, byte = signature format

section Sending

variable {encoder : PatchEncoder}

theorem created_proper (signed : Signed encoder) (settings : EncoderSettings) (buffer : QImage)
    (rect : QRect) : ProperPatch (PatchEncoding.createPatch encoder settings buffer rect) := by
  unfold PatchEncoding.createPatch
  by_cases png : sentAsPng encoder settings buffer rect = true
  · rw [if_pos png]
    exact ⟨Or.inl rfl, fun byte head => Or.inl (signed .png _ byte head)⟩
  · rw [if_neg png]
    by_cases jpeg : sentAsJpeg encoder settings buffer rect = true
    · rw [if_pos jpeg]
      exact ⟨Or.inr (Or.inl rfl), fun byte head => Or.inr (Or.inl (signed .jpeg _ byte head))⟩
    · rw [if_neg jpeg]
      exact ⟨Or.inr (Or.inr rfl), fun byte head => Or.inr (Or.inr (signed .bmp _ byte head))⟩

theorem operation_messages_announced {createPatch : QRect → GraphicsSceneFramePatch}
    (proper : ∀ rect, ProperPatch (createPatch rect)) (settings : EncoderSettings)
    (returnBinary : Bool) (displayId : String) (frame index : Nat) (ops : List UpdateOperation) :
    ∀ message ∈ (operationMessages createPatch settings returnBinary displayId frame index ops).1,
      Announced displayId returnBinary message := by
  induction ops generalizing index with
  | nil =>
      intro message member
      exact absurd member List.not_mem_nil
  | cons op ops induction =>
      have remaining := induction (index + 1)
      have added : ∀ first : DisplayMessage, Announced displayId returnBinary first →
          ∀ message ∈ first :: (operationMessages createPatch settings returnBinary displayId frame
            (index + 1) ops).1, Announced displayId returnBinary message := by
        intro first announced message member
        rcases List.mem_cons.mp member with same | later
        · rw [same]
          exact announced
        · exact remaining message later
      cases kind : op.type with
      | uotUpdate =>
          simp only [operationMessages, kind]
          split_ifs with inline
          · exact added _ ⟨settings, createPatch op.srcRect, index, proper _, rfl, (if_pos inline).symm⟩
          · exact added _ ⟨settings, createPatch op.srcRect, index, proper _, rfl, (if_neg inline).symm⟩
      | uotMove =>
          simp only [operationMessages, kind]
          exact added _ trivial
      | uotFill =>
          simp only [operationMessages, kind]
          exact added _ trivial
      | uotNoOp =>
          simp only [operationMessages, kind]
          exact remaining

theorem sent_announced (signed : Signed encoder) {platform : DisplayPlatform}
    (encodes : platform.createPatch = PatchEncoding.createPatch encoder) (run : DisplayRun Adapter)
    (action : DisplayAction Adapter) :
    ∀ message ∈ sentBy platform run action,
      Announced run.display.id (asksBinary action) message := by
  intro message member
  cases action with
  | takePendingMessages returnBinary =>
      have member' : message ∈
          (run.display.takePendingMessages platform run.scenes returnBinary).2 := member
      rcases take_pending_cases platform run.scenes returnBinary run.display with
        ⟨_, same⟩ | ⟨_, ops, takes⟩
      · rw [same] at member'
        exact absurd member' List.not_mem_nil
      · have proper : ∀ rect, ProperPatch (platform.createPatch run.display.encoderSettings
            (run.display.takePendingMessages platform run.scenes returnBinary).1.renderer.workBuffer
            rect) := by
          rw [encodes]
          exact created_proper signed _ _
        rw [takes.sent] at member'
        rcases List.mem_append.mp member' with front | last
        · rcases List.mem_append.mp front with full | operation
          · split_ifs at full with requested
            · rw [List.mem_singleton.mp full]
              trivial
            · exact absurd full List.not_mem_nil
          · exact operation_messages_announced proper _ _ _ _ _ _ message operation
        · split_ifs at last with none
          · exact absurd last List.not_mem_nil
          · rw [List.mem_singleton.mp last]
            trivial
  | takePatch patchId => exact absurd member List.not_mem_nil
  | clientReady => exact absurd member List.not_mem_nil
  | requestFullUpdate forced => exact absurd member List.not_mem_nil
  | updateCheckTimerTimeout => exact absurd member List.not_mem_nil
  | changeScene adapter scene rects => exact absurd member List.not_mem_nil
  | resize width height => exact absurd member List.not_mem_nil
  | pushFullFrame image => exact absurd member List.not_mem_nil
  | destroyAdapter => exact absurd member List.not_mem_nil
  | setEncoderSettings settings => exact absurd member List.not_mem_nil
  | setComparerSettings settings => exact absurd member List.not_mem_nil

theorem perform_named [DecidableEq Adapter] (platform : DisplayPlatform) (run : DisplayRun Adapter)
    (action : DisplayAction Adapter) : (perform platform run action).display.id = run.display.id := by
  have named : GraphicsSceneDisplay.patchId run.display.id run.display.frame 0 =
      GraphicsSceneDisplay.patchId run.display.id run.display.frame 0 := rfl
  exact (patch_step_perform platform run action named (Nat.le_refl _)).id

end Sending

section Simulation

variable {setup : ClientSetup} {codec : PatchCodec} {platform : DisplayPlatform}
variable {wire : WireState Adapter} {state : ScreenState Adapter}

theorem events_canvases {events : List RendererEvent} {others : List CanvasEvent}
    (same : List.Forall₂ (EventReads setup) events others) (log : List DisplayEvent)
    (canvases : Canvases) :
    events.foldl (rendererEvent codec fun image =>
        (image.src.loaded setup.serverDecoder log).getD []) canvases =
      canvasEvents codec (fun operation => (imageData log operation).getD []) canvases others := by
  induction same generalizing canvases with
  | nil => rfl
  | @cons event other events others first rest induction =>
      have step : rendererEvent codec (fun image =>
            (image.src.loaded setup.serverDecoder log).getD []) canvases event =
          canvasEvent codec (fun operation => (imageData log operation).getD []) canvases other := by
        cases other with
        | painted operation => exact first.2 codec log canvases
        | failed operation =>
            obtain ⟨image, same, _⟩ := first
            rw [same]
            rfl
        | flipped param =>
            rw [show event = .flipped (frameText param) from first]
            rfl
      rw [List.foldl_cons, step]
      exact induction _

theorem image_loadable (same : Corresponds setup wire state) (index : Nat) :
    (wire.client.loading[index]?.bind (wire.imageBytes setup)).isSome =
      (state.protocol.client.loading[index]?.bind (imageData state.protocol.server.log)).isSome := by
  rcases forall_two_at same.client.loading index with ⟨gone, left⟩ | ⟨image, operation, here, there, reads⟩
  · rw [gone, left]
    rfl
  · rw [here, there, Option.bind_some, Option.bind_some]
    unfold WireState.imageBytes
    rw [reads.loads, same.server]

/-- The client acts, after it has taken a message or its container has changed. -/
theorem client_corresponds (same : Corresponds setup wire state) {outcome : WireOutcome}
    {other : ClientOutcome} (reads : OutcomeReads setup outcome other) {frames : List ServerFrame}
    {coming received : List ClientMessage} (told : List.Forall₂ (FrameTells setup) frames coming)
    (canvases : Canvases) :
    Corresponds setup
      (({ wire with toClient := frames, canvases := canvases } : WireState Adapter).clientActs setup
        codec outcome)
      { protocol := ({ state.protocol with toClient := coming, received := received } :
          ProtocolState Adapter).clientActs other
        canvases := canvasEvents codec
          (fun operation => (imageData state.protocol.server.log operation).getD []) canvases
          other.events
        pictures := state.pictures } where
  server := same.server
  named := same.named
  toClient := told
  toServer := List.rel_append same.toServer reads.sent
  client := reads.renderer
  events := List.rel_append same.events reads.events
  canvases := by
    rw [← same.server]
    exact events_canvases reads.events wire.server.log canvases
  pictures := same.pictures

variable [DecidableEq Adapter] {encoder : PatchEncoder}

theorem server_corresponds (signed : Signed encoder)
    (encodes : platform.createPatch = PatchEncoding.createPatch encoder)
    (same : Corresponds setup wire state) (action : DisplayAction Adapter) {texts : List Text}
    {commands : List DisplayCommand} (said : List.Forall₂ (Says setup) texts commands) :
    Corresponds setup
      (({ wire with toServer := texts } : WireState Adapter).serverActs setup platform action)
      { protocol := ({ state.protocol with toServer := commands } :
          ProtocolState Adapter).serverActs platform action
        canvases := state.canvases
        pictures := recordPicture state.pictures state.protocol.server
          (perform platform state.protocol.server action) } where
  server := by
    show perform platform wire.server action = perform platform state.protocol.server action
    rw [same.server]
  named := (perform_named platform wire.server action).trans same.named
  toClient := by
    have announced := sent_announced signed encodes wire.server action
    refine List.rel_append same.toClient ?_
    show List.Forall₂ (FrameTells setup) _
      ((sentBy platform state.protocol.server action).map .frame)
    rw [← same.server, List.forall₂_map_left_iff, List.forall₂_map_right_iff]
    apply List.forall₂_same.mpr
    intro message member
    have announced := announced message member
    rw [same.named] at announced
    refine ⟨asksBinary action, announced, ?_⟩
    rw [← same.named]
  toServer := said
  client := same.client
  events := same.events
  canvases := same.canvases
  pictures := by
    show recordPicture wire.pictures wire.server _ = _
    rw [same.pictures, same.server]

omit [DecidableEq Adapter] in
theorem said_action {text : Text} {command : DisplayCommand} (said : Says setup text command) :
    (takeTargetFromMessage setup.serverDecoder (utf8.encode text)).1 = some (qString setup.displayId) ∧
      (readCommand setup.serverDecoder
        (takeTargetFromMessage setup.serverDecoder (utf8.encode text)).2).bind commandAction =
      (commandAction command : Option (DisplayAction Adapter)) := by
  obtain ⟨target, read, found, meaning⟩ := said
  refine ⟨target, ?_⟩
  rw [found, Option.bind_some]
  rcases meaning with same | ⟨params, others, first, second⟩
  · rw [same]
  · rw [first, second]
    rfl

section ScreenSteps

variable {action : ProtocolAction Adapter}

theorem screen_step_of {protocol : ProtocolState Adapter} (loads : canLoad state.protocol action = true)
    (step : protocolStep platform state.protocol action = some protocol) :
    ScreenStep codec platform state action
      { protocol := protocol
        canvases := canvasEvents codec (fun operation => (imageData protocol.server.log operation).getD [])
          (contained state.canvases action) (protocol.events.drop state.protocol.events.length)
        pictures := recordPicture state.pictures state.protocol.server protocol.server } := by
  unfold ScreenStep screenStep
  rw [if_pos loads, step, Option.map_some]

theorem screen_server_step {commands : List DisplayCommand} {acts : DisplayAction Adapter}
    (loads : canLoad state.protocol action = true) (kept : contained state.canvases action = state.canvases)
    (step : protocolStep platform state.protocol action =
      some (({ state.protocol with toServer := commands } : ProtocolState Adapter).serverActs platform
        acts)) :
    ScreenStep codec platform state action
      { protocol := ({ state.protocol with toServer := commands } :
          ProtocolState Adapter).serverActs platform acts
        canvases := state.canvases
        pictures := recordPicture state.pictures state.protocol.server
          (perform platform state.protocol.server acts) } := by
  have moved := @screen_step_of _ codec _ _ _ _ _ loads step
  rw [kept] at moved
  simp only [ProtocolState.serverActs, List.drop_length] at moved
  exact moved

theorem screen_client_step {coming received : List ClientMessage} {outcome : ClientOutcome}
    (loads : canLoad state.protocol action = true)
    (step : protocolStep platform state.protocol action =
      some (({ state.protocol with toClient := coming, received := received } :
        ProtocolState Adapter).clientActs outcome)) :
    ScreenStep codec platform state action
      { protocol := ({ state.protocol with toClient := coming, received := received } :
          ProtocolState Adapter).clientActs outcome
        canvases := canvasEvents codec
          (fun operation => (imageData state.protocol.server.log operation).getD [])
          (contained state.canvases action) outcome.events
        pictures := state.pictures } := by
  have still : recordPicture state.pictures state.protocol.server state.protocol.server =
      state.pictures := if_pos rfl
  have moved := @screen_step_of _ codec _ _ _ _ _ loads step
  simp only [ProtocolState.clientActs, List.drop_left, still] at moved
  exact moved

end ScreenSteps

theorem client_follows (same : Corresponds setup wire state) {action : ProtocolAction Adapter}
    {outcome : WireOutcome} {other : ClientOutcome} (reads : OutcomeReads setup outcome other)
    (loads : canLoad state.protocol action = true)
    (step : protocolStep platform state.protocol action = some (state.protocol.clientActs other)) :
    ∃ after, ScreenStep codec platform state action after ∧ Corresponds setup
      (({ wire with canvases := contained wire.canvases action } : WireState Adapter).clientActs setup
        codec outcome) after := by
  have follows := @client_corresponds _ _ codec _ _ same _ _ reads _ _ state.protocol.received
    same.toClient (contained wire.canvases action)
  refine ⟨_, screen_client_step loads step, ?_⟩
  rw [← same.canvases]
  exact follows

omit [DecidableEq Adapter] in
theorem loads_together (same : Corresponds setup wire state) (index : Nat) (loaded : Bool) :
    (loaded = true → (wire.client.loading[index]?.bind (wire.imageBytes setup)).isSome = true) ↔
      canLoad state.protocol (.imageDone index loaded : ProtocolAction Adapter) = true := by
  cases loaded with
  | false => exact iff_of_true nofun rfl
  | true =>
      have same := image_loadable same index
      constructor
      · intro loads
        exact same.symm.trans (loads rfl)
      · intro loads _
        exact same.trans loads

/-- A step of the display and the client is a step of those that exchange parsed messages. -/
theorem wire_step_follows (plain : PlainSetup setup) (signed : Signed encoder)
    (encodes : platform.createPatch = PatchEncoding.createPatch encoder)
    (same : Corresponds setup wire state) {action : ProtocolAction Adapter} {after : WireState Adapter}
    (taken : WireStep setup codec platform wire action after) :
    ∃ other, ScreenStep codec platform state action other ∧ Corresponds setup after other := by
  unfold WireStep wireStep at taken
  cases action with
  | server action =>
      simp only at taken
      split_ifs at taken with spontaneous
      cases taken
      exact ⟨_, screen_server_step rfl rfl (if_pos spontaneous),
        server_corresponds signed encodes same action same.toServer⟩
  | deliverToServer =>
      unfold WireState.deliverToServer at taken
      have said := same.toServer
      cases texts : wire.toServer with
      | nil =>
          rw [texts] at taken
          cases taken
      | cons text remaining =>
          rw [texts] at taken said
          obtain ⟨command, others, first, rest, commands⟩ := List.forall₂_cons_left_iff.mp said
          obtain ⟨target, meaning⟩ := @said_action Adapter setup text command first
          simp only [same.named, target, if_true, meaning] at taken
          cases obeyed : (commandAction command : Option (DisplayAction Adapter)) with
          | none =>
              rw [obeyed] at taken
              cases taken
              have step : protocolStep platform state.protocol .deliverToServer =
                  some { state.protocol with toServer := others } := by
                unfold protocolStep ProtocolState.deliverToServer
                simp only [commands, obeyed]
              have still : recordPicture state.pictures state.protocol.server
                  state.protocol.server = state.pictures := if_pos rfl
              have moved := @screen_step_of _ codec _ _ _ _ _ rfl step
              simp only [List.drop_length, still] at moved
              exact ⟨_, moved, { same with toServer := rest }⟩
          | some action =>
              rw [obeyed] at taken
              cases taken
              have step : protocolStep platform state.protocol .deliverToServer =
                  some (({ state.protocol with toServer := others } :
                    ProtocolState Adapter).serverActs platform action) := by
                unfold protocolStep ProtocolState.deliverToServer
                simp only [commands, obeyed]
              exact ⟨_, screen_server_step rfl rfl step,
                server_corresponds signed encodes same action rest⟩
  | deliverToClient =>
      unfold WireState.deliverToClient at taken
      have told := same.toClient
      cases frames : wire.toClient with
      | nil =>
          rw [frames] at taken
          cases taken
      | cons frame remaining =>
          rw [frames] at taken told
          obtain ⟨message, others, first, rest, coming⟩ := List.forall₂_cons_left_iff.mp told
          cases taken
          have step : protocolStep platform state.protocol .deliverToClient =
              some (({ state.protocol with
                  toClient := others, received := state.protocol.received ++ [message] } :
                ProtocolState Adapter).clientActs
                  (state.protocol.client.messageCallback message)) := by
            unfold protocolStep ProtocolState.deliverToClient
            rw [coming]
          have reads := process_reads plain same.client (frame_reads plain first)
          have follows := @client_corresponds _ _ codec _ _ same _ _ reads _ _
            (state.protocol.received ++ [message]) rest wire.canvases
          refine ⟨_, screen_client_step rfl step, ?_⟩
          rw [← same.canvases]
          exact follows
  | imageDone index loaded =>
      simp only at taken
      split_ifs at taken with possible
      cases taken
      have inside : index < state.protocol.client.loading.length := by
        rw [← same.client.loading.length_eq]
        exact possible.1
      have loads := (loads_together same index loaded).mp possible.2
      exact client_follows same (image_done_reads plain same.client index loaded) loads (if_pos inside)
  | requestFullUpdate forced =>
      cases taken
      exact client_follows same (request_reads plain same.client forced) rfl rfl
  | reconnectDisplay params width height =>
      cases taken
      exact client_follows same (reconnect_reads plain same.client params width height) rfl rfl
  | resize width height =>
      cases taken
      exact client_follows same (resize_reads plain same.client width height) rfl rfl

/-- Where the display and the client cannot take a step, those that exchange parsed messages
cannot either. -/
theorem wire_step_stuck (same : Corresponds setup wire state) {action : ProtocolAction Adapter}
    (stuck : wireStep setup codec platform wire action = none) :
    screenStep codec platform state action = none := by
  have idle : protocolStep platform state.protocol action = none →
      screenStep codec platform state action = none := by
    intro step
    unfold screenStep
    rw [step, Option.map_none]
    exact ite_self none
  unfold wireStep at stuck
  cases action with
  | server action =>
      simp only at stuck
      split_ifs at stuck with spontaneous
      exact idle (if_neg spontaneous)
  | deliverToServer =>
      unfold WireState.deliverToServer at stuck
      have said := same.toServer
      cases texts : wire.toServer with
      | nil =>
          rw [texts] at said
          have commands := List.forall₂_nil_left_iff.mp said
          apply idle
          unfold protocolStep ProtocolState.deliverToServer
          rw [commands]
      | cons text remaining =>
          rw [texts] at stuck
          simp only at stuck
          split_ifs at stuck
          · split at stuck
            · cases stuck
            · cases stuck
  | deliverToClient =>
      unfold WireState.deliverToClient at stuck
      have told := same.toClient
      cases frames : wire.toClient with
      | nil =>
          rw [frames] at told
          have coming := List.forall₂_nil_left_iff.mp told
          apply idle
          unfold protocolStep ProtocolState.deliverToClient
          rw [coming]
      | cons frame remaining =>
          rw [frames] at stuck
          cases stuck
  | imageDone index loaded =>
      simp only at stuck
      split_ifs at stuck with possible
      rw [loads_together same, same.client.loading.length_eq] at possible
      by_cases loads : canLoad state.protocol (.imageDone index loaded : ProtocolAction Adapter) = true
      · exact idle (if_neg fun inside => possible ⟨inside, loads⟩)
      · unfold screenStep
        rw [if_neg loads]
  | requestFullUpdate forced => cases stuck
  | reconnectDisplay params width height => cases stuck
  | resize width height => cases stuck

theorem wire_steps_together (plain : PlainSetup setup) (signed : Signed encoder)
    (encodes : platform.createPatch = PatchEncoding.createPatch encoder)
    (same : Corresponds setup wire state) (action : ProtocolAction Adapter) :
    Option.Rel (Corresponds setup) (wireStep setup codec platform wire action)
      (screenStep codec platform state action) := by
  cases taken : wireStep setup codec platform wire action with
  | none =>
      rw [wire_step_stuck same taken]
      exact .none
  | some after =>
      obtain ⟨other, moved, corresponding⟩ := wire_step_follows plain signed encodes same taken
      rw [show screenStep codec platform state action = some other from moved]
      exact .some corresponding

/-- The display and the client take every step of those that exchange parsed messages. -/
theorem screen_step_follows (plain : PlainSetup setup) (signed : Signed encoder)
    (encodes : platform.createPatch = PatchEncoding.createPatch encoder)
    (same : Corresponds setup wire state) {action : ProtocolAction Adapter} {other : ScreenState Adapter}
    (moved : ScreenStep codec platform state action other) :
    ∃ after, WireStep setup codec platform wire action after ∧ Corresponds setup after other := by
  cases taken : wireStep setup codec platform wire action with
  | none =>
      have stuck := (wire_step_stuck same taken).symm.trans moved
      cases stuck
  | some after =>
      obtain ⟨later, followed, corresponding⟩ := wire_step_follows plain signed encodes same taken
      have alike : later = other := Option.some.inj (Eq.trans (Eq.symm followed) moved)
      rw [alike] at corresponding
      exact ⟨after, taken, corresponding⟩

/-- The display and client at the start of a connection that exchange parsed messages. -/
def parsedStart (wire : WireState Adapter) : ScreenState Adapter where
  protocol :=
    { server := wire.server
      toClient := [.done]
      toServer := []
      client := DisplayRenderer.initial
      received := []
      events := [] }
  canvases := wire.canvases
  pictures := []

theorem wire_started_corresponds (started : WireStarted setup platform wire) :
    Started platform (parsedStart wire) ∧ Corresponds setup wire (parsedStart wire) := by
  obtain ⟨returnBinary, toClient⟩ := started.toClient
  refine ⟨⟨⟨started.constructed, rfl, rfl, rfl, rfl, rfl⟩, rfl⟩, ?_⟩
  refine ⟨rfl, started.named, ?_, ?_, ?_, ?_, rfl, started.pictures⟩
  · rw [toClient]
    exact .cons ⟨returnBinary, rfl⟩ .nil
  · rw [started.toServer]
    exact .nil
  · rw [started.client]
    exact ⟨rfl, rfl, rfl, rfl, rfl, .nil⟩
  · rw [started.events]
    exact .nil

/-- A display and a client that exchange bytes and texts do, in every order of their actions, what
they do when they exchange parsed messages: the same actions are possible, and they lead to the
same server, canvases and pictures and to a client in the same state. -/
theorem wire_runs_as_parsed (plain : PlainSetup setup) (signed : Signed encoder)
    (encodes : platform.createPatch = PatchEncoding.createPatch encoder)
    (started : WireStarted setup platform wire) (actions : List (ProtocolAction Adapter)) :
    Started platform (parsedStart wire) ∧
      Option.Rel (Corresponds setup) (execute (wireStep setup codec platform) wire actions)
        (execute (screenStep codec platform) (parsedStart wire) actions) := by
  obtain ⟨begins, same⟩ := wire_started_corresponds started
  refine ⟨begins, execute_related ?_ same actions⟩
  intro wire state action same
  exact wire_steps_together plain signed encodes same action

end Simulation

def WireShowable (state : WireState Adapter) : Prop :=
  (∀ picture ∈ state.pictures, ∀ point ∈ picture.rect, picture.pixel point ≠ 0) ∧
    Roomy state.pictures state.canvases

/-- The next frame is not a full update that finds images loading. -/
def LoadedBeforeDelivery (setup : ClientSetup) (state : WireState Adapter) :
    ProtocolAction Adapter → Prop
  | .deliverToClient => ∀ frame remaining, state.toClient = frame :: remaining →
      (parseMessage setup.clientDecoder frame).command = qString "fullUpdate" →
        state.client.loading = []
  | _ => True

def ReportedAtServer (state : WireState Adapter) : ProtocolAction Adapter → Prop
  | .server (.changeScene adapter scene rects) =>
      Reported (stageOf state.server) (.changeScene adapter scene rects)
  | _ => True

/-- A run over one connection that leads to showable pictures, where no full update finds images
loading and changes of the scenes are reported. -/
def WireFaithful [DecidableEq Adapter] (setup : ClientSetup) (codec : PatchCodec)
    (platform : DisplayPlatform) (state : WireState Adapter) (action : ProtocolAction Adapter) : Prop :=
  LoadedBeforeDelivery setup state action ∧ ProperAction state.server action ∧
    ReportedAtServer state action ∧ ∀ after, wireStep setup codec platform state action = some after → WireShowable after

/-- The frame flipped to the front last, as the renderer knows it. -/
def lastWireFlip (events : List RendererEvent) : Option (Option Units) :=
  (events.filterMap fun event =>
    match event with
    | .flipped frame => some frame
    | _ => none).getLast?

section Faithful

variable {setup : ClientSetup} {codec : PatchCodec} {platform : DisplayPlatform}
variable {wire : WireState Adapter} {state : ScreenState Adapter}

theorem last_flip_reads {events : List RendererEvent} {others : List CanvasEvent}
    (same : List.Forall₂ (EventReads setup) events others) :
    lastWireFlip events = (lastFlip others).map frameText := by
  have flips : (events.filterMap fun event =>
      match event with
      | .flipped frame => some frame
      | _ => none) = (others.filterMap flippedParam).map frameText := by
    induction same with
    | nil => rfl
    | @cons event other events others first rest induction =>
        cases other with
        | painted operation =>
            have unflipped := first.1
            cases event with
            | flipped frame => exact absurd rfl (unflipped frame)
            | filled => exact induction
            | moved => exact induction
            | drawn => exact induction
            | failed => exact induction
        | failed operation =>
            obtain ⟨image, same, _⟩ := first
            rw [same]
            exact induction
        | flipped param =>
            rw [show event = .flipped (frameText param) from first]
            exact congrArg (List.cons (frameText param)) induction
  unfold lastWireFlip lastFlip
  rw [flips, List.getLast?_map]

/-- What holds of the state after a step, holds of the one that corresponds to it. -/
theorem after_related {State Other : Type} {corresponds : State → Other → Prop}
    {holds : State → Prop} {otherHolds : Other → Prop} {first : Option State} {second : Option Other}
    (together : Option.Rel corresponds first second)
    (alike : ∀ after other, corresponds after other → (holds after ↔ otherHolds other)) :
    (∀ after, first = some after → holds after) ↔ ∀ other, second = some other → otherHolds other := by
  cases together with
  | none => exact iff_of_true nofun nofun
  | @some after other corresponding =>
      have same := alike after other corresponding
      constructor
      · intro held later found
        cases found
        exact same.mp (held after rfl)
      · intro held later found
        cases found
        exact same.mpr (held other rfl)

theorem showable_corresponds (same : Corresponds setup wire state) :
    WireShowable wire ↔ Showable state := by
  unfold WireShowable Showable
  rw [same.pictures, same.canvases]

theorem loaded_corresponds (plain : PlainSetup setup) (same : Corresponds setup wire state)
    (action : ProtocolAction Adapter) :
    LoadedBeforeDelivery setup wire action ↔ LoadedBeforeFullUpdate state.protocol action := by
  have none : wire.client.loading = [] ↔ state.protocol.client.loading = [] := by
    rw [← List.length_eq_zero_iff, same.client.loading.length_eq, List.length_eq_zero_iff]
  cases action with
  | deliverToClient =>
      have told := same.toClient
      show (∀ frame remaining, wire.toClient = frame :: remaining → _ → _) ↔
        ∀ message remaining, state.protocol.toClient = message :: remaining → _ → _
      rw [none]
      cases frames : wire.toClient with
      | nil =>
          rw [frames] at told
          rw [List.forall₂_nil_left_iff.mp told]
          exact iff_of_true nofun nofun
      | cons frame remaining =>
          rw [frames] at told
          obtain ⟨message, others, first, rest, coming⟩ := List.forall₂_cons_left_iff.mp told
          rw [coming]
          have full := full_update_command (frame_reads plain first)
          constructor
          · intro loaded other others same update
            cases same
            exact loaded frame remaining rfl (full.mpr update)
          · intro loaded other others same update
            cases same
            exact loaded message _ rfl (full.mp update)
  | server action => exact Iff.rfl
  | deliverToServer => exact Iff.rfl
  | imageDone index loaded => exact Iff.rfl
  | requestFullUpdate forced => exact Iff.rfl
  | reconnectDisplay params width height => exact Iff.rfl
  | resize width height => exact Iff.rfl

theorem reported_corresponds (same : Corresponds setup wire state) (action : ProtocolAction Adapter) :
    ReportedAtServer wire action ↔ ReportedChange state action := by
  cases action with
  | server action =>
      cases action with
      | changeScene adapter scene rects =>
          unfold ReportedAtServer ReportedChange
          dsimp only
          rw [same.server]
      | _ => exact Iff.rfl
  | _ => exact Iff.rfl

variable [DecidableEq Adapter] {encoder : PatchEncoder}

theorem faithful_corresponds (plain : PlainSetup setup) (signed : Signed encoder)
    (encodes : platform.createPatch = PatchEncoding.createPatch encoder)
    (same : Corresponds setup wire state) (action : ProtocolAction Adapter) :
    WireFaithful setup codec platform wire action ↔
      Faithful codec platform state action ∧ ReportedChange state action := by
  have showable : (∀ after, wireStep setup codec platform wire action = some after →
        WireShowable after) ↔
      ∀ after, screenStep codec platform state action = some after → Showable after := by
    apply after_related (wire_steps_together plain signed encodes same action)
    exact fun after other corresponding => showable_corresponds corresponding
  unfold WireFaithful Faithful
  rw [loaded_corresponds plain same, reported_corresponds same, showable, same.server, and_assoc,
    and_assoc]
  exact and_congr_right fun _ => and_congr_right fun _ => and_comm

/-- A run of the display and the client whose bytes and texts are followed. -/
theorem reached_parsed (plain : PlainSetup setup) (signed : Signed encoder)
    (encodes : platform.createPatch = PatchEncoding.createPatch encoder)
    (reached : Reach (WireStep setup codec platform) (WireFaithful setup codec platform)
      (WireStarted setup platform) wire) :
    ∃ state, Reach (ScreenStep codec platform)
        (fun state action => Faithful codec platform state action ∧ ReportedChange state action)
        (Started platform) state ∧ Corresponds setup wire state := by
  refine reached.simulated ?_ ?_
  · intro wire started
    exact ⟨_, wire_started_corresponds started⟩
  · intro wire state action after same permitted taken
    obtain ⟨other, moved, corresponding⟩ := wire_step_follows plain signed encodes same taken
    exact ⟨action, other, (faithful_corresponds plain signed encodes same action).mp permitted, moved,
      corresponding⟩

end Faithful

section Sample

def signedEncoder : PatchEncoder :=
  { rowsEncoder with save := fun format image => signature format :: rowsEncoder.save format image }

def signedCodec : PatchCodec :=
  { rowsCodec with loadFromData := fun data => rowsCodec.loadFromData data.tail }

theorem signed_encoder_signed : Signed signedEncoder := by
  intro format image byte head
  exact (Option.some.inj head).symm

theorem signed_encoder_lossless : LosslessBesidesJpeg signedEncoder signedCodec :=
  ⟨rows_encoder_lossless.besidesJpeg.sizes, rows_encoder_lossless.besidesJpeg.pixels⟩

def signedDisplayPlatform : DisplayPlatform :=
  { Platform.reference with createPatch := PatchEncoding.createPatch signedEncoder }

def sampleSetup : ClientSetup where
  displayId := "d"
  sessionUrl := "http://localhost/0123456789".toList
  ratio := "1".toList
  clientDecoder := strictDecoder
  serverDecoder := lenientDecoder

theorem sample_setup_plain : PlainSetup sampleSetup where
  name := ⟨by decide, List.all_iff_forall_prop.mp (by decide)⟩
  url := ⟨by decide, by decide, by decide⟩
  ratio := List.all_iff_forall_prop.mp (by decide)

/-- A display of one white pixel that has been announced in bytes, and a client with canvases of
one clear pixel. -/
def wireStart : WireState Unit where
  server := ⟨GraphicsSceneDisplay.create signedDisplayPlatform (fun _ => whitePixel) "d" (some ()),
    fun _ => whitePixel, []⟩
  toClient := [.binary (utf8.encode (addressed "d".toList "done()".toList))]
  toServer := []
  client := WireRenderer.initial
  events := []
  canvases := screenStart.canvases
  pictures := []

theorem wire_start_started : WireStarted sampleSetup signedDisplayPlatform wireStart where
  constructed := ⟨"d", (), rfl, rfl⟩
  named := rfl
  toClient := ⟨true, rfl⟩
  toServer := rfl
  client := rfl
  events := rfl
  pictures := rfl

theorem pixel_runs_as_parsed : Started signedDisplayPlatform (parsedStart wireStart) ∧
    Option.Rel (Corresponds sampleSetup)
      (execute (wireStep sampleSetup signedCodec signedDisplayPlatform) wireStart firstFrameActions)
      (execute (screenStep signedCodec signedDisplayPlatform) (parsedStart wireStart)
        firstFrameActions) :=
  wire_runs_as_parsed sample_setup_plain signed_encoder_signed rfl wire_start_started firstFrameActions

/-- The test of the condition on a run with one pixel and no change of the scene. -/
def signedUnchanged (state : ScreenState Unit) (action : ProtocolAction Unit) : Bool :=
  findsImagesLoaded state.protocol action && properAction state.protocol.server action &&
    (match action with
      | .server (.changeScene _ _ _) => false
      | _ => true) &&
    ((screenStep signedCodec signedDisplayPlatform state action).map onePixelShowable).getD true

theorem signed_unchanged_sound (state : ScreenState Unit) (action : ProtocolAction Unit)
    (passed : signedUnchanged state action = true) :
    Faithful signedCodec signedDisplayPlatform state action ∧ ReportedChange state action := by
  unfold signedUnchanged at passed
  rw [Bool.and_eq_true, Bool.and_eq_true, Bool.and_eq_true] at passed
  obtain ⟨⟨⟨loaded, proper⟩, unchanged⟩, showable⟩ := passed
  refine ⟨⟨finds_images_loaded_sound _ _ loaded, proper_action_sound proper, ?_⟩, ?_⟩
  · intro after taken
    rw [taken] at showable
    exact one_pixel_showable_sound showable
  · cases action with
    | server action =>
        cases action with
        | changeScene adapter scene rects => cases unchanged
        | _ => trivial
    | _ => trivial

end Sample

end Viridity.WireScreen
