import Viridity.FrameCompletion

/-!
# Progress of the protocol

A display that waits for `ready()` can count on a frame end under way, on a `ready()`
under way, on images still loading, or on the client waiting for a full update; and a
waiting client can count on a full update. Three kinds of steps break this: a reset of
the counter while images load, and a `ready()` or an ineffective request handled when
nothing else will produce the full update the client waits for.
-/

namespace Viridity.ProtocolProgress

open Viridity.QtRectangle
open Viridity.ImageAux
open Viridity.BufferRenderer
open Viridity.FrameComparison
open Viridity.SceneDisplay
open Viridity.FrameFlow
open Viridity.DisplayDispatch
open Viridity.DisplayClient
open Viridity.DisplayProtocol
open Viridity.FrameCompletion
open Viridity.LabelledRuns
open GraphicsSceneDisplay (client_ready_eq request_full_update_eq)
open DisplayRenderer

set_option autoImplicit false

variable {Adapter : Type}

def isRequest : DisplayCommand → Bool
  | .newDisplay _ => true
  | .requestFullUpdate _ => true
  | .ready => false
  | .resize _ _ => false
  | .keepAlive => false
  | .input _ => false

/-- Requests that also count as `ready()`. -/
def isForced : DisplayCommand → Bool
  | .newDisplay _ => true
  | .requestFullUpdate params => params == [1]
  | .ready => false
  | .resize _ _ => false
  | .keepAlive => false
  | .input _ => false

def FullUpdateComing (toClient : List ClientMessage) : Prop :=
  ∃ message ∈ toClient, isFullUpdate message = true

def RequestComing (toServer : List DisplayCommand) : Prop :=
  ∃ command ∈ toServer, isRequest command = true

/-- Nothing is under way, no image loads, the display waits for `ready()`, and the client
waits for a full update or for the end of a frame. -/
structure Wedged (state : ProtocolState Adapter) : Prop where
  silent : state.toClient = [] ∧ state.toServer = []
  loaded : state.client.loading = []
  serverWaits : state.server.display.clientReady = false
  clientWaits : state.client.waitingForFullUpdate = true ∨ state.client.frameEndReceived = false

/-- Steps that avoid the defects: a full update finds no image loading, and while the
client waits with no full update under way and no request behind, the display handles
no `ready()` and only requests that take effect or are already in effect. -/
def Guarded (state : ProtocolState Adapter) : ProtocolAction Adapter → Prop
  | .deliverToClient => FindsImagesLoaded state
  | .deliverToServer =>
      ∀ command remaining, state.toServer = command :: remaining →
        state.client.waitingForFullUpdate = true → ¬FullUpdateComing state.toClient →
        ¬RequestComing remaining →
          command ≠ .ready ∧ (isRequest command = true →
            state.server.display.clientReady = true ∨
              (isForced command = true ∧ state.server.display.fullUpdateRequested = false))
  | _ => True

/-- A full update is under way, requested, or about to be sent. -/
def FullUpdateExpected (display : GraphicsSceneDisplay Adapter) (toClient : List ClientMessage)
    (toServer : List DisplayCommand) : Prop :=
  FullUpdateComing toClient ∨ RequestComing toServer ∨
    (display.fullUpdateRequested = true ∧ display.clientReady = true)

structure ProgressInvariant (state : ProtocolState Adapter) : Prop where
  flow : FlowInvariant state.server
  counted : Counted state.client
  expected : state.client.waitingForFullUpdate = true →
    FullUpdateExpected state.server.display state.toClient state.toServer
  acknowledged : state.server.display.clientReady = false →
    .frame (.frameEnd state.server.display.frame) ∈ state.toClient ∨ .ready ∈ state.toServer ∨
      state.client.waitingForFullUpdate = true ∨ AwaitsImages state.client
  ends : state.server.display.clientReady = false → ∀ front last,
    state.toClient = front ++ [last] → last = .frame (.frameEnd state.server.display.frame)

section Server

variable {state : ProtocolState Adapter} (invariant : ProgressInvariant state)

include invariant

theorem progress_server_move {server : DisplayRun Adapter} {sent : List DisplayMessage}
    (flow : FlowInvariant server) (move : ServerMove state.server.display server.display sent) :
    ProgressInvariant { state with server := server, toClient := state.toClient ++ sent.map .frame } := by
  have persists : FullUpdateComing state.toClient →
      FullUpdateComing (state.toClient ++ sent.map .frame) := by
    rintro ⟨message, member, full⟩
    exact ⟨message, List.mem_append_left _ member, full⟩
  cases move with
  | still ready requested frame =>
      have unchanged : state.toClient ++ ([] : List DisplayMessage).map ClientMessage.frame =
          state.toClient := List.append_nil _
      refine ⟨flow, invariant.counted, ?_, ?_, ?_⟩
      · intro waiting
        unfold FullUpdateExpected
        simp only [ready, requested, unchanged]
        exact invariant.expected waiting
      · simp only [ready, frame, unchanged]
        exact invariant.acknowledged
      · simp only [ready, frame, unchanged]
        exact invariant.ends
  | unchanged available ready requested frame =>
      refine ⟨flow, invariant.counted, ?_, ?_, ?_⟩
      · intro waiting
        rcases invariant.expected waiting with coming | asked | ⟨flag, _⟩
        · exact Or.inl (persists coming)
        · exact Or.inr (Or.inl asked)
        · exact Or.inr (Or.inr ⟨requested.trans flag, ready⟩)
      · intro busy
        exact absurd (ready.symm.trans busy) (by decide)
      · intro busy
        exact absurd (ready.symm.trans busy) (by decide)
  | framed body available ready requested frame operations =>
      refine ⟨flow, invariant.counted, ?_, ?_, ?_⟩
      · intro waiting
        rcases invariant.expected waiting with coming | asked | ⟨flag, _⟩
        · exact Or.inl (persists coming)
        · exact Or.inr (Or.inl asked)
        · left
          refine ⟨.frame (.fullUpdate server.display.frame), ?_, rfl⟩
          rw [if_pos flag]
          simp
      · intro _
        left
        simp
      · intro _ front last split
        simp only [List.map_append, List.map_cons, List.map_nil, ← List.append_assoc] at split
        exact (List.cons.inj (List.append_inj' split rfl).2).1.symm

variable {remaining : List DisplayCommand}

theorem progress_ready [DecidableEq Adapter] (platform : DisplayPlatform)
    (guarded : state.client.waitingForFullUpdate = true →
      FullUpdateComing state.toClient ∨ RequestComing remaining) :
    ProgressInvariant
      (({ state with toServer := remaining } : ProtocolState Adapter).serverActs platform
        .clientReady) := by
  have display : (perform platform state.server .clientReady).display =
      state.server.display.handleClientReady := rfl
  refine ⟨flow_perform invariant.flow platform .clientReady, invariant.counted, ?_, ?_, ?_⟩
  · intro waiting
    rcases guarded waiting with coming | asked
    · left
      rcases coming with ⟨message, member, full⟩
      exact ⟨message, List.mem_append_left _ member, full⟩
    · exact Or.inr (Or.inl asked)
  · intro busy
    simp [ProtocolState.serverActs, display, client_ready_eq] at busy
  · intro busy
    simp [ProtocolState.serverActs, display, client_ready_eq] at busy

theorem progress_request [DecidableEq Adapter] (platform : DisplayPlatform)
    {command : DisplayCommand} (pending : state.toServer = command :: remaining)
    (notReady : command ≠ .ready) (forced : Bool)
    (guarded : state.client.waitingForFullUpdate = true →
      FullUpdateComing state.toClient ∨ RequestComing remaining ∨
        state.server.display.clientReady = true ∨
          (forced = true ∧ state.server.display.fullUpdateRequested = false)) :
    ProgressInvariant
      (({ state with toServer := remaining } : ProtocolState Adapter).serverActs platform
        (.requestFullUpdate forced)) := by
  have display : (perform platform state.server (.requestFullUpdate forced)).display =
      state.server.display.requestFullUpdate forced := rfl
  have flags : (state.server.display.requestFullUpdate forced).fullUpdateRequested = true ∧
      ((state.server.display.requestFullUpdate forced).clientReady = false →
        state.server.display.clientReady = false) ∧
      (state.server.display.requestFullUpdate forced).frame = state.server.display.frame ∧
      (state.server.display.clientReady = true ∨
          (forced = true ∧ state.server.display.fullUpdateRequested = false) →
        (state.server.display.requestFullUpdate forced).clientReady = true) := by
    rw [request_full_update_eq]
    cases requested : state.server.display.fullUpdateRequested with
    | true => simp [requested]
    | false =>
        cases forced with
        | true => simp
        | false => simp
  have channel : state.toClient ++ (sentBy platform state.server
      (.requestFullUpdate forced)).map ClientMessage.frame = state.toClient := List.append_nil _
  refine ⟨flow_perform invariant.flow platform (.requestFullUpdate forced), invariant.counted,
    ?_, ?_, ?_⟩
  · intro waiting
    simp only [ProtocolState.serverActs, channel, display]
    rcases guarded waiting with coming | asked | effective
    · exact Or.inl coming
    · exact Or.inr (Or.inl asked)
    · exact Or.inr (Or.inr ⟨flags.1, flags.2.2.2 effective⟩)
  · intro busy
    simp only [ProtocolState.serverActs, channel, display, flags.2.2.1] at busy ⊢
    rcases invariant.acknowledged (flags.2.1 busy) with coming | asked | waits
    · exact Or.inl coming
    · rw [pending] at asked
      exact Or.inr (Or.inl ((List.mem_cons.mp asked).resolve_left notReady.symm))
    · exact Or.inr (Or.inr waits)
  · intro busy
    simp only [ProtocolState.serverActs, channel, display, flags.2.2.1] at busy ⊢
    exact invariant.ends (flags.2.1 busy)

theorem progress_consume {command : DisplayCommand} (pending : state.toServer = command :: remaining)
    (notReady : command ≠ .ready) (noRequest : isRequest command = false) :
    ProgressInvariant { state with toServer := remaining } := by
  refine ⟨invariant.flow, invariant.counted, ?_, ?_, invariant.ends⟩
  · intro waiting
    rcases invariant.expected waiting with coming | ⟨asked, member, request⟩ | effective
    · exact Or.inl coming
    · rw [pending] at member
      rcases List.mem_cons.mp member with same | later
      · rw [same, noRequest] at request
        cases request
      · exact Or.inr (Or.inl ⟨asked, later, request⟩)
    · exact Or.inr (Or.inr effective)
  · intro busy
    rcases invariant.acknowledged busy with coming | asked | waits
    · exact Or.inl coming
    · rw [pending] at asked
      exact Or.inr (Or.inl ((List.mem_cons.mp asked).resolve_left notReady.symm))
    · exact Or.inr (Or.inr waits)

theorem progress_obeys [DecidableEq Adapter] (platform : DisplayPlatform)
    (guarded : Guarded state (.deliverToServer : ProtocolAction Adapter))
    {command : DisplayCommand} {remaining : List DisplayCommand} {action : DisplayAction Adapter}
    (pending : state.toServer = command :: remaining) (meaning : commandAction command = some action) :
    ProgressInvariant (({ state with toServer := remaining } : ProtocolState Adapter).serverActs
      platform action) := by
  have guard := guarded command remaining pending
  have request : ∀ forced, isRequest command = true → command ≠ .ready →
      (isForced command = true → forced = true) →
      ProgressInvariant (({ state with toServer := remaining } :
        ProtocolState Adapter).serverActs platform (.requestFullUpdate forced)) := by
    intro forced requests notReady counts
    apply progress_request invariant platform pending notReady
    intro waiting
    by_cases coming : FullUpdateComing state.toClient
    · exact Or.inl coming
    · by_cases asked : RequestComing remaining
      · exact Or.inr (Or.inl asked)
      · rcases (guard waiting coming asked).2 requests with ready | ⟨isForced, effective⟩
        · exact Or.inr (Or.inr (Or.inl ready))
        · exact Or.inr (Or.inr (Or.inr ⟨counts isForced, effective⟩))
  cases command with
  | newDisplay params =>
      cases meaning
      exact request true rfl (by simp) (fun _ => rfl)
  | ready =>
      cases meaning
      apply progress_ready invariant platform
      intro waiting
      by_contra neither
      rw [not_or] at neither
      exact (guard waiting neither.1 neither.2).1 rfl
  | requestFullUpdate params =>
      cases meaning
      exact request _ rfl (by simp) (fun forced => forced)
  | resize width height =>
      cases meaning
      have consumed := progress_consume invariant pending (by simp) rfl
      exact progress_server_move consumed (flow_perform invariant.flow platform _)
        (spontaneous_move platform (Or.inr ⟨width, height, rfl⟩) invariant.flow.attached)
  | keepAlive => cases meaning
  | input handled => cases meaning

end Server

section Client

variable {state : ProtocolState Adapter} (invariant : ProgressInvariant state)

include invariant

/-- The client sends messages; what the invariant asks of the client holds again. -/
theorem progress_client (client : DisplayRenderer) (sent : List DisplayCommand)
    (received : List ClientMessage) (events : List CanvasEvent) (counted : Counted client)
    (expected : client.waitingForFullUpdate = true →
      state.client.waitingForFullUpdate = true ∨ RequestComing sent)
    (acknowledged : state.client.waitingForFullUpdate = true ∨ AwaitsImages state.client →
      .ready ∈ sent ∨ client.waitingForFullUpdate = true ∨ AwaitsImages client) :
    ProgressInvariant { state with
      client := client
      toServer := state.toServer ++ sent
      received := received
      events := events } := by
  refine ⟨invariant.flow, counted, ?_, ?_, invariant.ends⟩
  · intro waiting
    rcases expected waiting with before | ⟨command, member, request⟩
    · rcases invariant.expected before with coming | ⟨command, member, request⟩ | effective
      · exact Or.inl coming
      · exact Or.inr (Or.inl ⟨command, List.mem_append_left _ member, request⟩)
      · exact Or.inr (Or.inr effective)
    · exact Or.inr (Or.inl ⟨command, List.mem_append_right _ member, request⟩)
  · intro busy
    rcases invariant.acknowledged busy with coming | asked | waits
    · exact Or.inl coming
    · exact Or.inr (Or.inl (List.mem_append_left _ asked))
    · rcases acknowledged waits with ready | still
      · exact Or.inr (Or.inl (List.mem_append_right _ ready))
      · exact Or.inr (Or.inr still)

theorem progress_delivered {message : ClientMessage} {remaining : List ClientMessage}
    (pending : state.toClient = message :: remaining) (client : DisplayRenderer)
    (sent : List DisplayCommand) (received : List ClientMessage) (events : List CanvasEvent)
    (counted : Counted client)
    (expected : client.waitingForFullUpdate = true →
      (state.client.waitingForFullUpdate = true ∧ isFullUpdate message = false) ∨
        RequestComing sent)
    (ended : ∀ frame, message = .frame (.frameEnd frame) →
      .ready ∈ sent ∨ client.waitingForFullUpdate = true ∨ AwaitsImages client)
    (acknowledged : AwaitsImages state.client →
      .ready ∈ sent ∨ client.waitingForFullUpdate = true ∨ AwaitsImages client)
    (woken : state.client.waitingForFullUpdate = true →
      client.waitingForFullUpdate = true ∨ ∀ frame, message ≠ .frame (.frameEnd frame)) :
    ProgressInvariant { state with
      client := client
      toClient := remaining
      toServer := state.toServer ++ sent
      received := received
      events := events } := by
  have ends : state.server.display.clientReady = false → ∀ front last,
      remaining = front ++ [last] → last = .frame (.frameEnd state.server.display.frame) := by
    intro busy front last split
    apply invariant.ends busy (message :: front) last
    rw [pending, split, List.cons_append]
  refine ⟨invariant.flow, counted, ?_, ?_, ends⟩
  · intro waiting
    rcases expected waiting with ⟨before, other⟩ | ⟨command, member, request⟩
    · rcases invariant.expected before with ⟨coming, member, full⟩ | asked | effective
      · rw [pending] at member
        rcases List.mem_cons.mp member with same | later
        · rw [same, other] at full
          cases full
        · exact Or.inl ⟨coming, later, full⟩
      · rcases asked with ⟨command, member, request⟩
        exact Or.inr (Or.inl ⟨command, List.mem_append_left _ member, request⟩)
      · exact Or.inr (Or.inr effective)
    · exact Or.inr (Or.inl ⟨command, List.mem_append_right _ member, request⟩)
  · intro busy
    have settle : .ready ∈ sent ∨ client.waitingForFullUpdate = true ∨ AwaitsImages client →
        .frame (.frameEnd state.server.display.frame) ∈ remaining ∨
          .ready ∈ state.toServer ++ sent ∨ client.waitingForFullUpdate = true ∨
            AwaitsImages client := by
      rintro (ready | still)
      · exact Or.inr (Or.inl (List.mem_append_right _ ready))
      · exact Or.inr (Or.inr still)
    rcases invariant.acknowledged busy with coming | asked | waits | images
    · rw [pending] at coming
      rcases List.mem_cons.mp coming with same | later
      · exact settle (ended _ same.symm)
      · exact Or.inl later
    · exact Or.inr (Or.inl (List.mem_append_left _ asked))
    · rcases woken waits with still | notEnd
      · exact Or.inr (Or.inr (Or.inl still))
      · left
        rcases List.eq_nil_or_concat remaining with empty | ⟨front, last, split⟩
        · have last := invariant.ends busy [] message (by rw [pending, empty]; rfl)
          exact absurd last (notEnd _)
        · rw [List.concat_eq_append] at split
          rw [ends busy front last split] at split
          rw [split]
          exact List.mem_append_right _ List.mem_cons_self
    · exact settle (acknowledged images)

end Client

section Renderer

variable {client : DisplayRenderer}

/-- After a determination with an exact count, images still load or the frame is
acknowledged. -/
theorem determined_acknowledges {outcome : ClientOutcome} (determined : Determined client outcome)
    (ended : client.frameEndReceived = true)
    (exact : client.pendingPatchesCount = client.loading.length) :
    .ready ∈ outcome.sent ∨ AwaitsImages outcome.renderer := by
  cases determined with
  | waits incomplete =>
      right
      refine ⟨ended, ?_, exact⟩
      intro none
      apply incomplete ended
      rw [exact, none]
      rfl
  | fails _ complete => exact Or.inl List.mem_cons_self
  | flips _ complete clean => exact Or.inl List.mem_cons_self

theorem determined_expected {outcome : ClientOutcome} (determined : Determined client outcome)
    (waiting : outcome.renderer.waitingForFullUpdate = true) :
    client.waitingForFullUpdate = true ∨ RequestComing outcome.sent := by
  cases determined with
  | waits incomplete => exact Or.inl waiting
  | fails _ complete =>
      exact Or.inr ⟨.requestFullUpdate [1], List.mem_cons_of_mem _ List.mem_cons_self, rfl⟩
  | flips _ complete clean => exact Or.inl waiting

structure CommandSettled (begun : DisplayRenderer) (message : ClientMessage)
    (outcome : ClientOutcome) : Prop where
  counted : Counted outcome.renderer
  expected : outcome.renderer.waitingForFullUpdate = true → RequestComing outcome.sent
  images : AwaitsImages begun → .ready ∈ outcome.sent ∨ AwaitsImages outcome.renderer
  ended : ∀ frame, message = .frame (.frameEnd frame) →
    .ready ∈ outcome.sent ∨ AwaitsImages outcome.renderer

theorem frame_command_settled {begun : DisplayRenderer}
    (exact : begun.pendingPatchesCount = begun.loading.length)
    (awake : begun.waitingForFullUpdate = false) (message : ClientMessage) :
    CommandSettled begun message (begun.frameCommand message) := by
  have quiet : (∀ frame, message ≠ .frame (.frameEnd frame)) →
      ∀ events, CommandSettled begun message ⟨begun, [], events⟩ := by
    intro other events
    refine ⟨Or.inl exact, ?_, fun images => Or.inr images, fun frame same => absurd same (other frame)⟩
    intro waiting
    exact absurd (awake.symm.trans waiting) (by decide)
  cases message with
  | done => exact quiet (by simp) []
  | frame message =>
      cases message with
      | fullUpdate frame => exact quiet (by simp) []
      | fR frame rect fillColor => exact quiet (by simp) _
      | mI frame rect dstPoint => exact quiet (by simp) _
      | dI frame rect artefactMargin mimeType payload =>
          have counts : begun.pendingPatchesCount + 1 =
              ((begun.loading ++ [DisplayMessage.dI frame rect artefactMargin mimeType
                payload]).length : Int) := by
            rw [exact, List.length_append]
            rfl
          refine ⟨Or.inl counts, ?_, ?_, ?_⟩
          · intro waiting
            exact absurd (awake.symm.trans waiting) (by decide)
          · rintro ⟨ended, _, _⟩
            exact Or.inr ⟨ended, by simp [frameCommand], counts⟩
          · intro frame same
            cases same
      | frameEnd frame =>
          have determined := determine_ready_state_cases { begun with frameEndReceived := true }
          have settles := determined_acknowledges determined rfl exact
          have counts : Counted { begun with frameEndReceived := true } := Or.inl exact
          refine ⟨determined_counted counts determined, ?_, fun _ => settles,
            fun _ _ => settles⟩
          intro waiting
          rcases determined_expected determined waiting with before | asked
          · exact absurd (awake.symm.trans before) (by decide)
          · exact asked

end Renderer

section Steps

variable {state : ProtocolState Adapter} (invariant : ProgressInvariant state)

include invariant

theorem progress_deliver_to_client {message : ClientMessage} {remaining : List ClientMessage}
    (pending : state.toClient = message :: remaining)
    (guarded : Guarded state (.deliverToClient : ProtocolAction Adapter)) :
    ProgressInvariant (({ state with
      toClient := remaining
      received := state.received ++ [message] } : ProtocolState Adapter).clientActs
        (state.client.messageCallback message)) := by
  have guard := guarded message remaining pending
  have result := message_callback_cases state.client message
  unfold ProtocolState.clientActs
  generalize state.client.messageCallback message = outcome at result
  cases result with
  | dropped waiting other =>
      apply progress_delivered invariant pending
      · exact invariant.counted
      · exact fun before => Or.inl ⟨before, other⟩
      · exact fun _ _ => Or.inr (Or.inl waiting)
      · exact fun images => Or.inr (Or.inr images)
      · exact fun before => Or.inl before
  | incomplete awake other pendingPatches =>
      apply progress_delivered invariant pending
      · exact counted_incomplete invariant.counted awake pendingPatches
      · exact fun _ => Or.inr ⟨.requestFullUpdate [0], List.mem_cons_self, rfl⟩
      · exact fun _ _ => Or.inr (Or.inl rfl)
      · exact fun _ => Or.inr (Or.inl rfl)
      · exact fun _ => Or.inl rfl
  | handled awake settled =>
      have exact := accepted_exact invariant.counted guard awake
      have images : AwaitsImages state.client → AwaitsImages (state.client.accepted message) := by
        rintro ⟨ended, loading, counts⟩
        have other : ¬isFullUpdate message = true := fun full => loading (guard full)
        have nonzero : state.client.pendingPatchesCount ≠ 0 := by
          rw [counts]
          simpa using loading
        have same : state.client.lastFrame = frameParam message := by
          rcases settled with same | full | none
          · exact same
          · exact absurd full other
          · exact absurd none nonzero
        exact ⟨by simp [accepted, ended, same], loading, exact⟩
      have command := frame_command_settled exact rfl message
      apply progress_delivered invariant pending
      · exact command.counted
      · exact fun waiting => Or.inr (command.expected waiting)
      · intro frame same
        rcases command.ended frame same with ready | still
        · exact Or.inl ready
        · exact Or.inr (Or.inr still)
      · intro before
        rcases command.images (images before) with ready | still
        · exact Or.inl ready
        · exact Or.inr (Or.inr still)
      · intro waiting
        right
        intro frame same
        rw [same] at awake
        rcases awake with impossible | awake
        · cases impossible
        · exact absurd (awake.symm.trans waiting) (by decide)

theorem progress_image_done {index : Nat} (inside : index < state.client.loading.length)
    (loaded : Bool) :
    ProgressInvariant (state.clientActs (state.client.imageDone index loaded)) := by
  have found : state.client.loading[index]? = some state.client.loading[index] :=
    List.getElem?_eq_getElem inside
  unfold imageDone
  rw [found]
  simp only [ProtocolState.clientActs]
  have counted := image_left_counted invariant.counted inside loaded
  have length := image_left_length inside loaded
  have pending : (state.client.imageLeft index loaded).pendingPatchesCount =
      state.client.pendingPatchesCount - 1 := rfl
  have determined := determine_ready_state_cases (state.client.imageLeft index loaded)
  generalize (state.client.imageLeft index loaded).determineReadyState = outcome at determined
  apply progress_client invariant
  · exact determined_counted counted determined
  · intro waits
    rcases determined_expected determined waits with before | asked
    · exact Or.inl before
    · exact Or.inr asked
  · rintro (waits | images)
    · cases determined with
      | waits incomplete => exact Or.inr (Or.inl waits)
      | fails _ complete => exact Or.inl List.mem_cons_self
      | flips _ complete clean => exact Or.inl List.mem_cons_self
    · have exact : (state.client.imageLeft index loaded).pendingPatchesCount =
          (state.client.imageLeft index loaded).loading.length := by
        have counts := images.2.2
        omega
      rcases determined_acknowledges determined images.1 exact with ready | still
      · exact Or.inl ready
      · exact Or.inr (Or.inr still)

theorem progress_step [DecidableEq Adapter] (platform : DisplayPlatform)
    {action : ProtocolAction Adapter} (guarded : Guarded state action)
    {after : ProtocolState Adapter} (taken : ProtocolStep platform state action after) :
    ProgressInvariant after := by
  cases protocol_move taken with
  | @serverActs action spontaneous =>
      exact progress_server_move invariant (flow_perform invariant.flow platform action)
        (spontaneous_move platform (Or.inl spontaneous) invariant.flow.attached)
  | obeys pending meaning => exact progress_obeys invariant platform guarded pending meaning
  | @ignores command _ pending meaningless =>
      have plain : command ≠ .ready ∧ isRequest command = false := by
        cases command <;> simp [commandAction, isRequest] at meaningless ⊢
      exact progress_consume invariant pending plain.1 plain.2
  | receives pending => exact progress_deliver_to_client invariant pending guarded
  | @imageDone index loaded inside => exact progress_image_done invariant inside loaded
  | @requestFullUpdate forced =>
      apply progress_client invariant
      · exact counted_request invariant.counted forced
      · exact fun _ => Or.inr ⟨_, List.mem_cons_self, rfl⟩
      · exact fun _ => Or.inr (Or.inl rfl)
  | reconnectDisplay =>
      apply progress_client invariant
      · exact invariant.counted
      · exact fun waiting => Or.inl waiting
      · exact fun waits => Or.inr waits
  | resize =>
      apply progress_client invariant
      · exact invariant.counted
      · exact fun waiting => Or.inl waiting
      · exact fun waits => Or.inr waits

end Steps

theorem progress_created [DecidableEq Adapter] (platform : DisplayPlatform)
    {state : ProtocolState Adapter} (created : Created platform state) :
    ProgressInvariant state := by
  obtain ⟨constructed, toClient, toServer, client, _, _⟩ := created
  have ready : state.server.display.clientReady = true := by
    obtain ⟨id, adapter, same, _⟩ := constructed
    rw [same]
    rfl
  refine ⟨constructed_flow platform constructed, ?_, ?_, ?_, ?_⟩
  · rw [client]
    exact Or.inl rfl
  · intro waiting
    rw [client] at waiting
    cases waiting
  · intro busy
    exact absurd (ready.symm.trans busy) (by decide)
  · intro busy
    exact absurd (ready.symm.trans busy) (by decide)

/-- In every run that avoids the three kinds of steps the protocol is never wedged. -/
theorem protocol_never_wedges [DecidableEq Adapter] (platform : DisplayPlatform)
    {state : ProtocolState Adapter}
    (reached : Reach (ProtocolStep platform) Guarded (Created platform) state) : ¬Wedged state := by
  have invariant : ProgressInvariant state := by
    apply Reach.invariant _ _ reached
    · intro start begins
      exact progress_created platform begins
    · intro before action after invariant guarded taken
      exact progress_step invariant platform guarded taken
  intro wedged
  have expected : state.client.waitingForFullUpdate = false := by
    cases waiting : state.client.waitingForFullUpdate with
    | false => rfl
    | true =>
        rcases invariant.expected waiting with ⟨message, member, _⟩ | ⟨command, member, _⟩ |
          ⟨_, ready⟩
        · rw [wedged.silent.1] at member
          exact absurd member List.not_mem_nil
        · rw [wedged.silent.2] at member
          exact absurd member List.not_mem_nil
        · exact absurd (ready.symm.trans wedged.serverWaits) (by decide)
  rcases invariant.acknowledged wedged.serverWaits with coming | asked | waiting | images
  · rw [wedged.silent.1] at coming
    exact absurd coming List.not_mem_nil
  · rw [wedged.silent.2] at asked
    exact absurd asked List.not_mem_nil
  · exact absurd (expected.symm.trans waiting) (by decide)
  · exact images.2.1 wedged.loaded

def isReady : DisplayCommand → Bool
  | .ready => true
  | .newDisplay _ => false
  | .requestFullUpdate _ => false
  | .resize _ _ => false
  | .keepAlive => false
  | .input _ => false

def passesGuard (state : ProtocolState Adapter) : ProtocolAction Adapter → Bool
  | .deliverToServer =>
      match state.toServer with
      | command :: remaining =>
          !state.client.waitingForFullUpdate || state.toClient.any isFullUpdate ||
            remaining.any isRequest ||
            (!isReady command &&
              (!isRequest command || state.server.display.clientReady ||
                (isForced command && !state.server.display.fullUpdateRequested)))
      | [] => true
  | action => findsImagesLoaded state action

theorem passes_guard_sound (state : ProtocolState Adapter) (action : ProtocolAction Adapter)
    (passed : passesGuard state action = true) : Guarded state action := by
  cases action with
  | deliverToServer =>
      intro command remaining pending waiting uncoming unasked
      have nothing : state.toClient.any isFullUpdate = false := by
        rw [List.any_eq_false]
        exact fun message member full => uncoming ⟨message, member, full⟩
      have last : remaining.any isRequest = false := by
        rw [List.any_eq_false]
        exact fun other member asks => unasked ⟨other, member, asks⟩
      simp only [passesGuard, pending, waiting, nothing, last, Bool.not_true, Bool.false_or,
        Bool.and_eq_true, Bool.or_eq_true, Bool.not_eq_true'] at passed
      constructor
      · intro ready
        rw [ready] at passed
        cases passed.1
      · intro asks
        rcases passed.2 with (other | ready) | forced
        · exact absurd (asks.symm.trans other) (by decide)
        · exact Or.inl ready
        · exact Or.inr forced
  | deliverToClient => exact finds_images_loaded_sound state .deliverToClient passed
  | server action => trivial
  | imageDone index loaded => trivial
  | requestFullUpdate forced => trivial
  | reconnectDisplay params width height => trivial
  | resize width height => trivial

/-- The image of frame 1 is shown and acknowledged; then the client asks for a full update, waits
for it, and shows it as frame 2. -/
def fullUpdateActions : List (ProtocolAction Unit) :=
  reattachActions.take 7 ++
    [.requestFullUpdate true, .deliverToServer, .deliverToServer, .server .updateCheckTimerTimeout,
      .server (.takePendingMessages false), .deliverToClient, .deliverToClient, .deliverToClient,
      .imageDone 0 true, .deliverToServer]

theorem protocol_never_wedges_full_update : ∃ state : ProtocolState Unit,
    state.events.getLast? = some (.flipped (.number 2)) ∧ ¬Wedged state := by
  have observed : (executeChecked passesGuard (protocolStep bareDisplayPlatform) pixelProtocol
      fullUpdateActions).map (fun state => state.events.getLast?) =
        some (some (.flipped (.number 2))) := by
    decide +kernel
  cases executed : executeChecked passesGuard (protocolStep bareDisplayPlatform) pixelProtocol
      fullUpdateActions with
  | none =>
      rw [executed] at observed
      cases observed
  | some state =>
      rw [executed, Option.map_some, Option.some.injEq] at observed
      have reached := execute_checked_reaches passes_guard_sound _
        (Reach.start pixel_protocol_created) executed
      exact ⟨state, observed, protocol_never_wedges bareDisplayPlatform reached⟩

theorem protocol_wedges_after_reattach :
    ¬∀ state : ProtocolState Unit,
      Reach (ProtocolStep bareDisplayPlatform) always (Created bareDisplayPlatform) state →
        ¬Wedged state := by
  intro claim
  have observed : (execute (protocolStep bareDisplayPlatform) pixelProtocol wedgeActions).map
      (fun state => (state.toClient.length, state.toServer.length, state.client.loading.length,
        state.server.display.clientReady, state.client.waitingForFullUpdate)) =
        some (0, 0, 0, false, true) := by
    decide +kernel
  cases executed : execute (protocolStep bareDisplayPlatform) pixelProtocol wedgeActions with
  | none =>
      rw [executed] at observed
      cases observed
  | some state =>
      rw [executed] at observed
      simp only [Option.map_some, Option.some.injEq, Prod.mk.injEq, List.length_eq_zero_iff]
        at observed
      obtain ⟨toClient, toServer, loading, busy, waiting⟩ := observed
      apply claim state (execute_reaches wedgeActions (Reach.start pixel_protocol_created) executed)
      exact ⟨⟨toClient, toServer⟩, loading, busy, Or.inl waiting⟩

end Viridity.ProtocolProgress
