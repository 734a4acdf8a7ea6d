import Viridity.CanvasPhases
import Viridity.PictureStream

/-!
# The screen of the client

A display and its client with the canvases the client paints on, and the pictures of the frames
the display has sent. While the connection holds, what the client flips to the front is one of
these pictures, complete, and a client with nothing left to receive shows the picture the display
has.
-/

namespace Viridity.ScreenMirror

open Viridity.QtRectangle
open Viridity.ImageAux
open Viridity.FrameComparison
open Viridity.PictureUpdates
open Viridity.BufferRenderer
open Viridity.WorkBuffer
open Viridity.SceneDisplay
open Viridity.FrameFlow
open Viridity.LabelledRuns
open Viridity.DisplayDispatch
open Viridity.DisplayClient
open Viridity.DisplayProtocol
open Viridity.FrameCompletion
open Viridity.PlayerPainting
open Viridity.PatchRequests
open Viridity.PatchEncoding
open Viridity.PatchGeometry
open Viridity.ReplayedFrames
open Viridity.DumpReplay
open Viridity.CanvasPainting
open Viridity.ServerPictures
open Viridity.PictureStream
open Viridity.CanvasPhases

set_option autoImplicit false

variable {Adapter : Type}

/-- `pictures` are the work buffers of the frames sent, from the beginning. -/
structure ScreenState (Adapter : Type) where
  protocol : ProtocolState Adapter
  canvases : Canvases
  pictures : List QImage

def handedOut (patchId : String) : DisplayEvent → Option (List UInt8)
  | .tookPatch taken (some patch) => if taken = patchId then some patch.data else none
  | .tookPatch _ none => none
  | .sent _ => none
  | .ready => none
  | .forcedFullUpdate => none

/-- What an image is loaded from: the data in its message, or a patch the display gave away. -/
def imageData (log : List DisplayEvent) (operation : DisplayMessage) : Option (List UInt8) :=
  match payloadOf operation with
  | some (.inline data _) => some data
  | some (.fetch patchId) => log.findSome? (handedOut patchId)
  | none => none

def canLoad (state : ProtocolState Adapter) : ProtocolAction Adapter → Bool
  | .imageDone index true => (state.client.loading[index]?.bind (imageData state.server.log)).isSome
  | _ => true

/-- A resize and a reconnection give the back canvas the size of the container. -/
def contained (canvases : Canvases) : ProtocolAction Adapter → Canvases
  | .resize width height => resized canvases width height
  | .reconnectDisplay _ width height => resized canvases width height
  | _ => canvases

def screenStep [DecidableEq Adapter] (codec : PatchCodec) (platform : DisplayPlatform)
    (state : ScreenState Adapter) (action : ProtocolAction Adapter) : Option (ScreenState Adapter) :=
  if canLoad state.protocol action then
    (protocolStep platform state.protocol action).map fun after =>
      { protocol := after
        canvases := canvasEvents codec (fun operation => (imageData after.server.log operation).getD [])
          (contained state.canvases action) (after.events.drop state.protocol.events.length)
        pictures := recordPicture state.pictures state.protocol.server after.server }
  else none

def ScreenStep [DecidableEq Adapter] (codec : PatchCodec) (platform : DisplayPlatform)
    (state : ScreenState Adapter) (action : ProtocolAction Adapter) (after : ScreenState Adapter) :
    Prop :=
  screenStep codec platform state action = some after

/-- A new display with a client that has canvases of any size and content. -/
def Started [DecidableEq Adapter] (platform : DisplayPlatform) (state : ScreenState Adapter) : Prop :=
  Created platform state.protocol ∧ state.pictures = []

/-- The pictures have no pixel 0 and fit on the back canvas. -/
def Showable (state : ScreenState Adapter) : Prop :=
  (∀ picture ∈ state.pictures, ∀ point ∈ picture.rect, picture.pixel point ≠ 0) ∧
    Roomy state.pictures state.canvases

/-- A frame is taken under an encoding without JPEG. The default encoding is one with JPEG. -/
def TakenWithoutJpeg (run : DisplayRun Adapter) : DisplayAction Adapter → Prop
  | .takePendingMessages _ => includes run.display.encoderSettings.patchEncodingFormat .jpeg = false
  | _ => True

/-- The connection is not lost: `_drawDisconnected` would paint over the front canvas. -/
def ProperAction (run : DisplayRun Adapter) : ProtocolAction Adapter → Prop
  | .server action => Proper action ∧ TakenWithoutJpeg run action
  | .reconnectDisplay _ _ _ => False
  | _ => True

/-- A run over one connection that leads to showable pictures, where no full update finds images
loading. -/
def Faithful [DecidableEq Adapter] (codec : PatchCodec) (platform : DisplayPlatform)
    (state : ScreenState Adapter) (action : ProtocolAction Adapter) : Prop :=
  LoadedBeforeFullUpdate state.protocol action ∧ ProperAction state.protocol.server action ∧
    ∀ after, screenStep codec platform state action = some after → Showable after

def flippedParam : CanvasEvent → Option FrameParam
  | .flipped param => some param
  | .painted _ => none
  | .failed _ => none

def lastFlip (events : List CanvasEvent) : Option FrameParam :=
  (events.filterMap flippedParam).getLast?

structure Mirrors (codec : PatchCodec) (state : ScreenState Adapter) : Prop where
  completion : CompletionInvariant state.protocol
  showable : Showable state
  expected : ∃ made mark rest updates,
    ServerKept made state.pictures state.protocol.server ∧
      Ahead codec made state.pictures state.protocol.toClient (serverMark state.protocol.server) mark
        rest updates ∧
      Phase codec made state.pictures state.protocol.client state.canvases mark rest
  flips : ∀ param, lastFlip state.protocol.events = some param →
    FrontShows state.pictures state.canvases param

section Events

variable {codec : PatchCodec} {loaded : DisplayMessage → List UInt8} {canvases : Canvases}

theorem last_flip_append (events others : List CanvasEvent) :
    (lastFlip (events ++ others) = lastFlip events ∧ ∀ param, .flipped param ∉ others) ∨
      ∃ param, lastFlip (events ++ others) = some param ∧ .flipped param ∈ others := by
  unfold lastFlip
  rw [List.filterMap_append]
  cases flips : others.filterMap flippedParam with
  | nil =>
      left
      rw [List.append_nil]
      refine ⟨rfl, ?_⟩
      intro param member
      have found := List.filterMap_eq_nil_iff.mp flips _ member
      cases found
  | cons first params =>
      right
      rw [← flips]
      have present : others.filterMap flippedParam ≠ [] := by
        rw [flips]
        exact List.cons_ne_nil _ _
      have last := List.getLast_mem present
      refine ⟨(others.filterMap flippedParam).getLast present, ?_, ?_⟩
      · rw [List.getLast?_append, List.getLast?_eq_some_getLast present]
        rfl
      · obtain ⟨event, member, same⟩ := List.mem_filterMap.mp last
        cases event with
        | flipped param =>
            cases same
            exact member
        | painted operation => cases same
        | failed operation => cases same

theorem canvas_events_front {events : List CanvasEvent} (still : ∀ param, .flipped param ∉ events) :
    (canvasEvents codec loaded canvases events).frontCanvas = canvases.frontCanvas := by
  induction events generalizing canvases with
  | nil => rfl
  | cons event events induction =>
      have further := fun param member => still param (List.mem_cons_of_mem event member)
      cases event with
      | flipped param => exact absurd List.mem_cons_self (still param)
      | painted operation => exact induction further
      | failed operation => exact induction further

theorem front_shows_append {pictures : List QImage} {param : FrameParam} (later : List QImage)
    (shows : FrontShows pictures canvases param) : FrontShows (pictures ++ later) canvases param := by
  obtain ⟨frame, picture, same, positive, found, seen⟩ := shows
  refine ⟨frame, picture, same, positive, ?_, seen⟩
  rw [List.getElem?_append_left (List.getElem?_eq_some_iff.mp found).1]
  exact found

theorem front_shows_same {pictures : List QImage} {param : FrameParam} {others : Canvases}
    (same : others.frontCanvas = canvases.frontCanvas) (shows : FrontShows pictures canvases param) :
    FrontShows pictures others param := by
  obtain ⟨frame, picture, named, positive, found, seen⟩ := shows
  refine ⟨frame, picture, named, positive, found, ?_⟩
  rw [same]
  exact seen

theorem record_picture_append (pictures : List QImage) (run after : DisplayRun Adapter) :
    ∃ later, recordPicture pictures run after = pictures ++ later := by
  unfold recordPicture
  split_ifs
  · exact ⟨[], (List.append_nil _).symm⟩
  · exact ⟨_, rfl⟩

end Events

section Data

variable {made : List GraphicsSceneFramePatch} {pictures : List QImage} {run : DisplayRun Adapter}

theorem handed_out_patch {patchId : String} {event : DisplayEvent} {data : List UInt8}
    (found : handedOut patchId event = some data) :
    ∃ patch, event = .tookPatch patchId (some patch) ∧ patch.data = data := by
  cases event with
  | tookPatch taken outcome =>
      cases outcome with
      | none => cases found
      | some patch =>
          simp only [handedOut] at found
          split_ifs at found with same
          exact ⟨patch, by rw [same], Option.some.inj found⟩
  | sent message => cases found
  | ready => cases found
  | forcedFullUpdate => cases found

theorem image_data_content (kept : ServerKept made pictures run) {operation : DisplayMessage}
    {data : List UInt8} (found : imageData run.log operation = some data) :
    HasContent made operation data := by
  unfold imageData at found
  unfold HasContent
  cases payload : payloadOf operation with
  | none =>
      rw [payload] at found
      cases found
  | some content =>
      cases content with
      | inline bytes base64 =>
          simp only [payload] at found ⊢
          exact (Option.some.inj found).symm
      | fetch patchId =>
          simp only [payload] at found ⊢
          obtain ⟨event, member, handed⟩ := List.exists_of_findSome?_eq_some found
          obtain ⟨patch, same, content⟩ := handed_out_patch handed
          rw [same] at member
          have known := kept.handed _ patch member
          exact ⟨patch, known.1, known.2, content⟩

theorem image_data_plain (log : List DisplayEvent) (operation : DisplayMessage)
    (without : payloadOf operation = none) : (imageData log operation).getD [] = [] := by
  unfold imageData
  rw [without]
  rfl

theorem made_distinct (kept : ServerKept made pictures run) :
    (made.map GraphicsSceneFramePatch.id).Nodup := by
  rw [kept.identified]
  exact kept.flow.distinct

end Data

section Steps

variable {encoder : PatchEncoder} {codec : PatchCodec} {platform : DisplayPlatform}
variable {state : ScreenState Adapter} (mirrors : Mirrors codec state)

include mirrors

theorem mirrors_client (received : List ClientMessage) {coming : List ClientMessage}
    {outcome : ClientOutcome}
    {made : List GraphicsSceneFramePatch} {mark : FrameMark} {rest : List ClientMessage}
    {updates : List FrameUpdate} {canvases : Canvases}
    (front : canvases.frontCanvas = state.canvases.frontCanvas)
    (kept : ServerKept made state.pictures state.protocol.server)
    (ahead : Ahead codec made state.pictures coming (serverMark state.protocol.server) mark rest
      updates)
    (carries : Carries codec made state.pictures
      (fun operation => (imageData state.protocol.server.log operation).getD []) canvases outcome mark
      rest)
    {after : ScreenState Adapter}
    (same : after =
      { protocol := ({ state.protocol with toClient := coming, received := received } :
          ProtocolState Adapter).clientActs outcome
        canvases := canvasEvents codec
          (fun operation => (imageData state.protocol.server.log operation).getD []) canvases
          outcome.events
        pictures := state.pictures })
    (completion : CompletionInvariant after.protocol) (showable : Showable after) :
    Mirrors codec after := by
  rw [same] at completion showable ⊢
  refine ⟨completion, showable, ⟨made, mark, rest, updates, kept, ahead, carries.phase⟩, ?_⟩
  intro param last
  have last' : lastFlip (state.protocol.events ++ outcome.events) = some param := last
  rcases last_flip_append state.protocol.events outcome.events with
    ⟨earlier, still⟩ | ⟨flipped, now, member⟩
  · rw [earlier] at last'
    exact front_shows_same ((canvas_events_front still).trans front) (mirrors.flips param last')
  · rw [now] at last'
    cases last'
    exact carries.flips param member

theorem mirrors_resized (width height : Int) {outcome : ClientOutcome}
    (unchanged : outcome.renderer = state.protocol.client) (quiet : outcome.events = [])
    {after : ScreenState Adapter}
    (same : after =
      { protocol := state.protocol.clientActs outcome
        canvases := resized state.canvases width height
        pictures := state.pictures })
    (completion : CompletionInvariant after.protocol) (showable : Showable after) :
    Mirrors codec after := by
  obtain ⟨made, mark, rest, updates, kept, ahead, phase⟩ := mirrors.expected
  have front : (resized state.canvases width height).frontCanvas = state.canvases.frontCanvas := rfl
  have roomy : Roomy state.pictures (resized state.canvases width height) := by
    have room := showable.2
    rw [same] at room
    exact room
  have carries : Carries codec made state.pictures
      (fun operation => (imageData state.protocol.server.log operation).getD [])
      (resized state.canvases width height) outcome mark rest := by
    apply carries_quiet quiet
    rw [unchanged]
    exact resized_phase phase roomy
  apply mirrors_client mirrors state.protocol.received front kept ahead carries _ completion showable
  rw [same, quiet]
  rfl

variable [DecidableEq Adapter]

omit mirrors in
/-- Where no frame is taken with JPEG, PNG may stand in its place. -/
theorem perform_without_jpeg (encodes : platform.createPatch = PatchEncoding.createPatch encoder)
    {run : DisplayRun Adapter} {action : DisplayAction Adapter} (taken : TakenWithoutJpeg run action) :
    let other := { platform with createPatch := PatchEncoding.createPatch (withoutJpeg encoder) }
    perform other run action = perform platform run action ∧
      sentBy other run action = sentBy platform run action := by
  cases action with
  | takePendingMessages returnBinary =>
      have created : PatchEncoding.createPatch (withoutJpeg encoder) run.display.encoderSettings =
          platform.createPatch run.display.encoderSettings := by
        funext buffer rect
        rw [encodes]
        exact create_patch_without_jpeg taken buffer rect
      have same := GraphicsSceneDisplay.take_pending_congr created run.scenes returnBinary
      constructor
      · simp only [perform, same]
      · simp only [sentBy, same]
  | _ => exact ⟨rfl, rfl⟩

theorem mirrors_server (lossless : LosslessBesidesJpeg encoder codec) (finds : FindsAlpha encoder)
    (encodes : platform.createPatch = PatchEncoding.createPatch encoder)
    {action : DisplayAction Adapter} (proper : Proper action)
    (taken : TakenWithoutJpeg state.protocol.server action) (remaining : List DisplayCommand)
    {after : ScreenState Adapter}
    (same : after =
      { protocol := ({ state.protocol with toServer := remaining } :
          ProtocolState Adapter).serverActs platform action
        canvases := state.canvases
        pictures := recordPicture state.pictures state.protocol.server
          (perform platform state.protocol.server action) })
    (completion : CompletionInvariant after.protocol) (showable : Showable after) :
    Mirrors codec after := by
  rw [same] at completion showable ⊢
  obtain ⟨made, mark, rest, updates, kept, ahead, phase⟩ := mirrors.expected
  have filled : Filled state.protocol.server (perform platform state.protocol.server action) := by
    unfold Filled
    by_cases number : (perform platform state.protocol.server action).display.frame =
        state.protocol.server.display.frame
    · exact Or.inl number
    · right
      have recorded := showable.1
      unfold recordPicture at recorded
      rw [if_neg number] at recorded
      exact recorded _ (List.mem_append_right _ List.mem_cons_self)
  obtain ⟨performed, said⟩ := perform_without_jpeg encodes taken
  rw [← performed] at filled
  obtain ⟨added, sent, leads⟩ := leads_perform (without_jpeg_lossless lossless) finds rfl kept proper
    filled
  rw [performed, said] at leads
  obtain ⟨later, grown⟩ := record_picture_append state.pictures state.protocol.server
    (perform platform state.protocol.server action)
  refine ⟨completion, showable, ⟨made ++ added, mark, rest, updates ++ sent, leads.kept, ?_, ?_⟩, ?_⟩
  · constructor
    · simp only [ProtocolState.serverActs]
      rw [ahead.messages, leads.sent, spoken_append sent ahead.follows, List.append_assoc]
      rfl
    · exact ahead.follows.append leads.follows
    · intro change member
      rcases List.mem_append.mp member with earlier | new
      · simp only
        rw [grown]
        exact (ahead.faithful change earlier).append added later
      · exact leads.faithful change new
  · simp only
    rw [grown]
    exact phase_append phase added later
  · intro param last
    simp only
    rw [grown]
    exact front_shows_append later (mirrors.flips param last)

theorem mirrors_step (lossless : LosslessBesidesJpeg encoder codec) (finds : FindsAlpha encoder)
    (encodes : platform.createPatch = PatchEncoding.createPatch encoder)
    {action : ProtocolAction Adapter} (faithful : Faithful codec platform state action)
    {after : ScreenState Adapter} (taken : ScreenStep codec platform state action after) :
    Mirrors codec after := by
  obtain ⟨guarded, proper, showables⟩ := faithful
  have showable := showables after taken
  unfold ScreenStep screenStep at taken
  split_ifs at taken with loads
  obtain ⟨protocol, step, same⟩ := Option.map_eq_some_iff.mp taken
  have completion := completion_step mirrors.completion platform guarded step
  have completed : CompletionInvariant after.protocol := by
    rw [← same]
    exact completion
  obtain ⟨made, mark, rest, updates, kept, ahead, phase⟩ := mirrors.expected
  have counted := mirrors.completion.client.kept.counted
  have still : recordPicture state.pictures state.protocol.server state.protocol.server =
      state.pictures := if_pos rfl
  cases protocol_move step with
  | @serverActs action spontaneous =>
      apply mirrors_server mirrors lossless finds encodes proper.1 proper.2 state.protocol.toServer _
        completed showable
      rw [← same]
      simp only [ProtocolState.serverActs, List.drop_length]
      rfl
  | @obeys command remaining action pending meaning =>
      have lawful : Proper action ∧ TakenWithoutJpeg state.protocol.server action := by
        cases command with
        | newDisplay params => cases meaning; exact ⟨trivial, trivial⟩
        | ready => cases meaning; exact ⟨trivial, trivial⟩
        | requestFullUpdate params => cases meaning; exact ⟨trivial, trivial⟩
        | resize width height => cases meaning; exact ⟨trivial, trivial⟩
        | keepAlive => cases meaning
        | input handled => cases meaning
      apply mirrors_server mirrors lossless finds encodes lawful.1 lawful.2 remaining _ completed
        showable
      rw [← same]
      simp only [ProtocolState.serverActs, List.drop_length]
      rfl
  | @ignores command remaining pending meaningless =>
      have kind : after.canvases = state.canvases ∧ after.pictures = state.pictures := by
        rw [← same]
        simp only [List.drop_length]
        exact ⟨rfl, still⟩
      refine ⟨completed, showable, ?_, ?_⟩
      · rw [kind.1, kind.2, ← same]
        exact ⟨made, mark, rest, updates, kept, ahead, phase⟩
      · rw [kind.1, kind.2, ← same]
        exact mirrors.flips
  | @receives message remaining pending =>
      rw [pending] at ahead
      obtain ⟨next, others, later, behind, carries⟩ := message_carries counted (made_distinct kept)
        mirrors.showable.2 (image_data_plain state.protocol.server.log)
        (guarded message remaining pending) phase ahead
      apply mirrors_client mirrors (state.protocol.received ++ [message]) rfl kept behind carries _ completed showable
      rw [← same]
      simp only [ProtocolState.clientActs, List.drop_left, still]
      rfl
  | @imageDone index fine inside =>
      have found : state.protocol.client.loading[index]? = some state.protocol.client.loading[index] :=
        List.getElem?_eq_getElem inside
      have content : fine = true → HasContent made state.protocol.client.loading[index]
          ((imageData state.protocol.server.log state.protocol.client.loading[index]).getD []) := by
        intro arrived
        rw [arrived] at loads
        simp only [canLoad, found, Option.bind_some] at loads
        obtain ⟨data, known⟩ := Option.isSome_iff_exists.mp loads
        rw [known]
        exact image_data_content kept known
      have carries : Carries codec made state.pictures
          (fun operation => (imageData state.protocol.server.log operation).getD []) state.canvases
          (state.protocol.client.imageDone index fine) mark rest :=
        image_done_carries counted (made_distinct kept) mirrors.showable.2 found content phase
      apply mirrors_client mirrors state.protocol.received rfl kept ahead carries _ completed showable
      rw [← same]
      simp only [ProtocolState.clientActs, List.drop_left, still]
      rfl
  | @requestFullUpdate forced =>
      apply mirrors_client mirrors state.protocol.received rfl kept ahead (carries_quiet rfl (request_phase phase forced)) _
        completed showable
      rw [← same]
      simp only [ProtocolState.clientActs, List.drop_left, still]
      rfl
  | reconnectDisplay => exact proper.elim
  | @resize width height =>
      have quiet : (state.protocol.client.resize width height).events = [] := rfl
      apply mirrors_resized mirrors width height rfl quiet _ completed showable
      rw [← same]
      simp only [ProtocolState.clientActs, List.drop_left, still]
      rfl

end Steps

section Runs

variable [DecidableEq Adapter] {encoder : PatchEncoder} {codec : PatchCodec}
variable {platform : DisplayPlatform} {state : ScreenState Adapter}

theorem mirrors_started (started : Started platform state) : Mirrors codec state := by
  obtain ⟨created, pictures⟩ := started
  have completion := completion_created platform created
  obtain ⟨constructed, toClient, _, client, _, events⟩ := created
  obtain ⟨kept, silent, number⟩ := kept_constructed constructed
  have roomy : Roomy state.pictures state.canvases := by
    rw [pictures]
    exact fun picture member => absurd member List.not_mem_nil
  refine ⟨completion, ⟨?_, roomy⟩, ⟨[], serverMark state.protocol.server, [], [.silent], ?_, ?_, ?_⟩, ?_⟩
  · rw [pictures]
    exact fun picture member => absurd member List.not_mem_nil
  · rw [pictures]
    exact kept
  · refine ⟨toClient, ⟨rfl, entails_refl _⟩, ?_⟩
    intro change member
    cases List.mem_singleton.mp member
  · rw [client]
    exact .idle rfl rfl (Nat.zero_le _) (Or.inl silent) (shows_of_says_nothing silent)
      (shows_of_says_nothing silent)
  · intro param last
    rw [events] at last
    cases last

theorem reach_mirrors {allowed : ScreenState Adapter → ProtocolAction Adapter → Prop}
    (lossless : LosslessBesidesJpeg encoder codec) (finds : FindsAlpha encoder)
    (encodes : platform.createPatch = PatchEncoding.createPatch encoder)
    (faithful : ∀ state action, allowed state action → Faithful codec platform state action)
    (reached : Reach (ScreenStep codec platform) allowed (Started platform) state) :
    Mirrors codec state := by
  apply Reach.invariant _ _ reached
  · exact fun start started => mirrors_started started
  · intro before action after mirrors permitted taken
    exact mirrors_step mirrors lossless finds encodes (faithful before action permitted) taken

omit [DecidableEq Adapter] in
/-- A client that has nothing left to receive or load shows what the display takes for known. -/
theorem resting_shows (mirrors : Mirrors codec state)
    (awake : state.protocol.client.waitingForFullUpdate = false)
    (loaded : state.protocol.client.loading = []) (received : state.protocol.toClient = []) :
    CanvasShows state.canvases.frontCanvas
      (pictureOf state.protocol.server.display.renderer.workBuffer) := by
  obtain ⟨made, mark, rest, updates, _, ahead, phase⟩ := mirrors.expected
  have none := ahead.messages
  rw [received] at none
  obtain ⟨restNone, spokenNone⟩ := List.append_eq_nil_iff.mp none.symm
  have follows := ahead.follows
  cases updates with
  | cons update updates => exact absurd spokenNone (spoken_update_ne_nil _ update updates)
  | nil =>
      cases phase with
      | idle _ _ behind recorded front back => exact front.of_entails follows.2
      | paints _ unended painting => simp at restNone
      | awaits _ awaiting painting => exact absurd loaded awaiting.2.1
      | sleeps asleep behind unmarked awaiting =>
          exact absurd (asleep.symm.trans awake) (by decide)

/-- In every run that leads to showable pictures, the frame flipped to the front last is on the
front canvas, each of its pixels; and a client that is not waiting and has nothing left to
receive or load shows the work buffer of the display, as far as it is not 0. -/
theorem screen_mirrors_pictures (lossless : LosslessBesidesJpeg encoder codec) (finds : FindsAlpha encoder)
    (encodes : platform.createPatch = PatchEncoding.createPatch encoder)
    (reached : Reach (ScreenStep codec platform) (Faithful codec platform) (Started platform) state) :
    (∀ param, lastFlip state.protocol.events = some param →
      ∃ frame picture, param = .number frame ∧ 0 < frame ∧
        state.pictures[frame - 1]? = some picture ∧
        ∀ point ∈ picture.rect, pixelAt state.canvases.frontCanvas point =
          some (canvasPixel (picture.pixel point))) ∧
    (state.protocol.client.waitingForFullUpdate = false → state.protocol.client.loading = [] →
      state.protocol.toClient = [] →
        ∀ point ∈ state.protocol.server.display.renderer.workBuffer.rect,
          state.protocol.server.display.renderer.workBuffer.pixel point ≠ 0 →
            pixelAt state.canvases.frontCanvas point =
              some (canvasPixel (state.protocol.server.display.renderer.workBuffer.pixel point))) := by
  have mirrors := reach_mirrors lossless finds encodes (fun _ _ faithful => faithful) reached
  constructor
  · intro param last
    obtain ⟨frame, picture, same, positive, found, shows⟩ := mirrors.flips param last
    refine ⟨frame, picture, same, positive, found, ?_⟩
    intro point inside
    exact shows point inside (mirrors.showable.1 picture (List.mem_of_getElem? found) point inside)
  · intro awake loaded received
    exact resting_shows mirrors awake loaded received

end Runs

section Sample

def rowsDisplayPlatform : DisplayPlatform :=
  { Platform.reference with createPatch := PatchEncoding.createPatch rowsEncoder }

/-- A display of one white pixel, and a client with canvases of one clear pixel. -/
def screenStart : ScreenState Unit where
  protocol :=
    { pixelProtocol with
      server := ⟨GraphicsSceneDisplay.create rowsDisplayPlatform (fun _ => whitePixel) "d" (some ()),
        fun _ => whitePixel, []⟩ }
  canvases := ⟨⟨1, 1, fun _ => Compositing.Pixel.clear⟩, ⟨1, 1, fun _ => Compositing.Pixel.clear⟩⟩
  pictures := []

theorem screen_start_started : Started rowsDisplayPlatform screenStart :=
  ⟨⟨⟨"d", (), rfl, rfl⟩, rfl, rfl, rfl, rfl, rfl⟩, rfl⟩

def firstFrameActions : List (ProtocolAction Unit) :=
  [.server (.setEncoderSettings
      { EncoderSettings.default with patchEncodingFormat := .png, inlineMaxBytes := 0 }),
    .server (.setComparerSettings
      { ComparerSettings.default with tileWidth := 1, analyzeFills := false }),
    .server (.takePendingMessages false), .deliverToClient, .deliverToClient, .deliverToClient,
    .server (.takePatch "d_1_0"), .deliverToClient, .imageDone 0 true]

def secondFrameActions : List (ProtocolAction Unit) :=
  firstFrameActions ++
    [.deliverToServer, .server (.changeScene () DisplayProtocol.blackPixel [⟨0, 0, 0, 0⟩]),
      .server .updateCheckTimerTimeout, .server (.takePendingMessages false), .deliverToClient,
      .deliverToClient, .server (.takePatch "d_2_0"), .imageDone 0 true]

/-- One canvas pixel for pictures of one pixel that is not 0. -/
def onePixelShowable (state : ScreenState Unit) : Bool :=
  (state.pictures.all fun picture =>
    picture.width == 1 && picture.height == 1 && picture.pixel ⟨0, 0⟩ != 0) &&
    state.canvases.canvas.width == 1 && state.canvases.canvas.height == 1

def properAction (run : DisplayRun Unit) : ProtocolAction Unit → Bool
  | .server (.takePendingMessages _) => !includes run.display.encoderSettings.patchEncodingFormat .jpeg
  | .server (.setComparerSettings settings) =>
      decide (1 ≤ settings.tileWidth ∧ (settings.fineGrainedMoves = true → 2 ≤ settings.tileWidth))
  | .server (.setEncoderSettings settings) => settings.alphaChannelEnabled
  | .reconnectDisplay _ _ _ => false
  | _ => true

def onePixelFaithful (state : ScreenState Unit) (action : ProtocolAction Unit) : Bool :=
  findsImagesLoaded state.protocol action && properAction state.protocol.server action &&
    ((screenStep rowsCodec rowsDisplayPlatform state action).map onePixelShowable).getD true

theorem one_pixel_showable_sound {state : ScreenState Unit}
    (passed : onePixelShowable state = true) : Showable state := by
  unfold onePixelShowable at passed
  simp only [Bool.and_eq_true, List.all_eq_true, beq_iff_eq, bne_iff_ne] at passed
  obtain ⟨⟨pictures, width⟩, height⟩ := passed
  have origin : ∀ picture ∈ state.pictures, ∀ point ∈ picture.rect, point = ⟨0, 0⟩ := by
    intro picture member point inside
    obtain ⟨⟨wide, high⟩, _⟩ := pictures picture member
    rw [QImage.mem_rect, wide, high] at inside
    apply QPoint.ext_coordinates
    · simp only
      omega
    · simp only
      omega
  constructor
  · intro picture member point inside
    rw [origin picture member point inside]
    exact (pictures picture member).2
  · intro picture member point inside
    rw [origin picture member point inside]
    unfold canvasRect
    rw [width, height]
    decide

theorem proper_action_sound {run : DisplayRun Unit} {action : ProtocolAction Unit}
    (passed : properAction run action = true) : ProperAction run action := by
  cases action with
  | server action =>
      cases action with
      | takePendingMessages returnBinary =>
          simp only [properAction, Bool.not_eq_true'] at passed
          exact ⟨trivial, passed⟩
      | setComparerSettings settings =>
          simp only [properAction, decide_eq_true_eq] at passed
          exact ⟨passed, trivial⟩
      | setEncoderSettings settings => exact ⟨passed, trivial⟩
      | _ => exact ⟨trivial, trivial⟩
  | reconnectDisplay params width height => cases passed
  | _ => trivial

theorem one_pixel_faithful_sound (state : ScreenState Unit) (action : ProtocolAction Unit)
    (passed : onePixelFaithful state action = true) :
    Faithful rowsCodec rowsDisplayPlatform state action := by
  unfold onePixelFaithful at passed
  rw [Bool.and_eq_true, Bool.and_eq_true] at passed
  obtain ⟨⟨loaded, proper⟩, showable⟩ := passed
  refine ⟨finds_images_loaded_sound _ _ loaded, proper_action_sound proper, ?_⟩
  intro after taken
  rw [taken] at showable
  exact one_pixel_showable_sound showable

theorem screen_mirrors_black_pixel : ∃ state : ScreenState Unit,
    lastFlip state.protocol.events = some (.number 2) ∧
      pixelAt state.canvases.frontCanvas ⟨0, 0⟩ = some (canvasPixel 0xFF000000) := by
  have observed : (executeChecked onePixelFaithful (screenStep rowsCodec rowsDisplayPlatform)
      screenStart secondFrameActions).map (fun state => (lastFlip state.protocol.events,
        state.pictures.map fun picture => (picture.width, picture.height, picture.pixel ⟨0, 0⟩))) =
          some (some (.number 2), [(1, 1, 0xFFFFFFFF), (1, 1, 0xFF000000)]) := by
    decide +kernel
  cases executed : executeChecked onePixelFaithful (screenStep rowsCodec rowsDisplayPlatform)
      screenStart secondFrameActions with
  | none =>
      rw [executed] at observed
      cases observed
  | some state =>
      rw [executed, Option.map_some, Option.some.injEq, Prod.mk.injEq] at observed
      obtain ⟨last, pictures⟩ := observed
      have reached := execute_checked_reaches one_pixel_faithful_sound _
        (Reach.start screen_start_started) executed
      obtain ⟨frame, picture, same, _, found, shows⟩ := (screen_mirrors_pictures
        rows_encoder_lossless.besidesJpeg rows_encoder_finds rfl reached).1 _ last
      cases same
      have second := congrArg (fun pictures => pictures[1]?) pictures
      simp only [List.getElem?_map] at second
      rw [show state.pictures[1]? = some picture from found] at second
      simp only [Option.map_some, List.getElem?_cons_succ, List.getElem?_cons_zero,
        Option.some.injEq, Prod.mk.injEq] at second
      obtain ⟨width, height, pixel⟩ := second
      refine ⟨state, last, ?_⟩
      rw [shows ⟨0, 0⟩ (by rw [QImage.mem_rect, width, height]; decide), pixel]

end Sample

section Scenes

variable [DecidableEq Adapter] {encoder : PatchEncoder} {codec : PatchCodec}
variable {platform : DisplayPlatform}

def stageOf (run : DisplayRun Adapter) : Stage Adapter := ⟨run.display.renderer, run.scenes⟩

/-- A change of a scene is reported, as it is for a renderer. -/
def ReportedChange (state : ScreenState Adapter) : ProtocolAction Adapter → Prop
  | .server (.changeScene adapter scene rects) =>
      Reported (stageOf state.protocol.server) (.changeScene adapter scene rects)
  | _ => True

theorem perform_stage (run : DisplayRun Adapter) (action : DisplayAction Adapter) :
    stageOf (perform platform run action) = stageOf run ∨
      ∃ staged, stageOf (perform platform run action) =
          act platform.toPlatform (stageOf run) staged ∧
        (∀ adapter, staged ≠ .setTarget adapter) ∧
        ∀ adapter scene rects, staged = .changeScene adapter scene rects →
          action = .changeScene adapter scene rects := by
  have slot : ∀ staged, (∀ adapter, staged ≠ .setTarget adapter) →
      (∀ adapter scene rects, staged ≠ .changeScene adapter scene rects) →
        stageOf (perform platform run action) = act platform.toPlatform (stageOf run) staged →
          stageOf (perform platform run action) = stageOf run ∨
            ∃ staged, stageOf (perform platform run action) =
                act platform.toPlatform (stageOf run) staged ∧
              (∀ adapter, staged ≠ .setTarget adapter) ∧
              ∀ adapter scene rects, staged = .changeScene adapter scene rects →
                action = .changeScene adapter scene rects := by
    intro staged still other same
    exact Or.inr ⟨staged, same, still, fun adapter scene rects wrong =>
      absurd wrong (other adapter scene rects)⟩
  cases action with
  | takePendingMessages returnBinary =>
      rcases GraphicsSceneDisplay.take_pending_cases platform run.scenes returnBinary run.display with
        ⟨_, unchanged⟩ | ⟨_, ops, takes⟩
      · left
        simp only [perform, unchanged]
        rfl
      · apply slot .updateBufferAndGetUpdateOperations (by simp) (by simp)
        simp only [perform, stageOf, DisplayRun.continue, act]
        rw [takes.renderer]
  | takePatch patchId => exact Or.inl rfl
  | clientReady =>
      left
      simp only [perform, stageOf, DisplayRun.continue, GraphicsSceneDisplay.client_ready_eq]
  | requestFullUpdate forced =>
      simp only [perform, stageOf, DisplayRun.continue, GraphicsSceneDisplay.request_full_update_eq]
        at slot ⊢
      split_ifs at slot ⊢
      · exact Or.inl rfl
      · exact slot .fullUpdate (by simp) (by simp) rfl
      · exact slot .fullUpdate (by simp) (by simp) rfl
  | updateCheckTimerTimeout =>
      left
      simp only [perform, stageOf, DisplayRun.continue, GraphicsSceneDisplay.updateCheckTimerTimeout]
      split_ifs
      · rfl
      · rfl
  | changeScene adapter scene rects =>
      right
      refine ⟨.changeScene adapter scene rects, ?_, by simp, ?_⟩
      · by_cases attached : run.display.renderer.adapter = some adapter
        · have shown : act platform.toPlatform (stageOf run) (.changeScene adapter scene rects) =
              ⟨(run.display.renderer.sceneChanged rects).1,
                Function.update run.scenes adapter scene⟩ :=
            congrArg (fun renderer => Stage.mk renderer _) (if_pos attached)
          rw [shown]
          simp only [perform, if_pos attached, stageOf, DisplayRun.continue,
            GraphicsSceneDisplay.renderer_slot_eq]
        · have shown : act platform.toPlatform (stageOf run) (.changeScene adapter scene rects) =
              ⟨run.display.renderer, Function.update run.scenes adapter scene⟩ :=
            congrArg (fun renderer => Stage.mk renderer _) (if_neg attached)
          rw [shown]
          simp only [perform, if_neg attached, stageOf]
      · intro other changed others same
        cases same
        rfl
  | resize width height =>
      apply slot (.setSize width height) (by simp) (by simp)
      simp only [perform, stageOf, DisplayRun.continue, GraphicsSceneDisplay.renderer_slot_eq, act]
  | pushFullFrame image =>
      apply slot (.pushFullFrame image) (by simp) (by simp)
      simp only [perform, stageOf, DisplayRun.continue, GraphicsSceneDisplay.renderer_slot_eq, act]
  | destroyAdapter =>
      apply slot .destroyAdapter (by simp) (by simp)
      simp only [perform, stageOf, DisplayRun.continue, GraphicsSceneDisplay.renderer_slot_eq, act]
  | setEncoderSettings settings => exact Or.inl rfl
  | setComparerSettings settings =>
      apply slot (.setSettings settings) (by simp) (by simp)
      simp only [perform, stageOf, DisplayRun.continue, GraphicsSceneDisplay.renderer_slot_eq, act]

theorem current_perform {run : DisplayRun Adapter} (formed : WellFormed run.display.renderer)
    (current : Current (stageOf run)) {action : DisplayAction Adapter}
    (reported : ∀ adapter scene rects, action = .changeScene adapter scene rects →
      Reported (stageOf run) (.changeScene adapter scene rects)) :
    Current (stageOf (perform platform run action)) := by
  rcases perform_stage run action with same | ⟨staged, same, still, changes⟩
  · rw [same]
    exact current
  · rw [same]
    apply current_act formed current
    · cases staged with
      | changeScene adapter scene rects =>
          exact reported adapter scene rects (changes adapter scene rects rfl)
      | _ => trivial
    · cases staged with
      | setTarget adapter => exact absurd rfl (still adapter)
      | _ => trivial

theorem current_constructed {run : DisplayRun Adapter} (constructed : Constructed platform run) :
    Current (stageOf run) := by
  obtain ⟨id, adapter, display, _⟩ := constructed
  have fresh : Fresh platform.toPlatform
      (⟨GraphicsSceneBufferRenderer.create platform.toPlatform, run.scenes⟩ : Stage Adapter) := rfl
  have attached := @current_act Adapter _ platform.toPlatform
    ⟨GraphicsSceneBufferRenderer.create platform.toPlatform, run.scenes⟩ (.setTarget (some adapter))
    (well_formed_fresh _ fresh) (current_fresh _ fresh) trivial (by
      intro _
      right
      intro point inside
      exact absurd inside (by simp [GraphicsSceneBufferRenderer.workBuffer,
        GraphicsSceneBufferRenderer.create, nullImage, QImage.mem_rect]))
  unfold stageOf
  rw [display]
  exact attached

theorem current_step {state after : ScreenState Adapter} (mirrors : Mirrors codec state)
    (current : Current (stageOf state.protocol.server)) {action : ProtocolAction Adapter}
    (reported : ReportedChange state action) (taken : ScreenStep codec platform state action after) :
    Current (stageOf after.protocol.server) := by
  obtain ⟨made, mark, rest, updates, kept, _, _⟩ := mirrors.expected
  have formed := kept.prepared.formed
  unfold ScreenStep screenStep at taken
  split_ifs at taken
  obtain ⟨protocol, step, same⟩ := Option.map_eq_some_iff.mp taken
  rw [← same]
  cases protocol_move step with
  | serverActs spontaneous =>
      apply current_perform formed current
      intro adapter scene rects changes
      rw [changes] at reported
      exact reported
  | @obeys command remaining action pending meaning =>
      apply current_perform formed current
      intro adapter scene rects changes
      rw [changes] at meaning
      cases command with
      | newDisplay params => cases meaning
      | ready => cases meaning
      | requestFullUpdate params => cases meaning
      | resize width height => cases meaning
      | keepAlive => cases meaning
      | input handled => cases meaning
  | ignores pending meaningless => exact current
  | receives pending => exact current
  | imageDone inside => exact current
  | requestFullUpdate => exact current
  | reconnectDisplay => exact current
  | resize => exact current

theorem reach_current (lossless : LosslessBesidesJpeg encoder codec) (finds : FindsAlpha encoder)
    (encodes : platform.createPatch = PatchEncoding.createPatch encoder) {state : ScreenState Adapter}
    (reached : Reach (ScreenStep codec platform)
      (fun state action => Faithful codec platform state action ∧ ReportedChange state action)
      (Started platform) state) :
    Mirrors codec state ∧ Current (stageOf state.protocol.server) := by
  apply Reach.invariant _ _ reached
  · intro start started
    exact ⟨mirrors_started started, current_constructed started.1.1⟩
  · intro before action after kept permitted taken
    exact ⟨mirrors_step kept.1 lossless finds encodes permitted.1 taken,
      current_step kept.1 kept.2 permitted.2 taken⟩

omit [DecidableEq Adapter] in
/-- What a client that has nothing left to receive or load shows is the scene, where the work
buffer is. -/
theorem resting_current_shows {state : ScreenState Adapter} (mirrors : Mirrors codec state)
    (current : Current (stageOf state.protocol.server))
    (awake : state.protocol.client.waitingForFullUpdate = false)
    (loaded : state.protocol.client.loading = []) (received : state.protocol.toClient = [])
    {adapter : Adapter} (attached : state.protocol.server.display.renderer.adapter = some adapter)
    {point : QPoint} (inside : point ∈ state.protocol.server.display.renderer.workBuffer.rect)
    (undamaged : ¬state.protocol.server.display.renderer.damageRegion.Covers point)
    (filled : (state.protocol.server.scenes adapter).pixel point ≠ 0) :
    pixelAt state.canvases.frontCanvas point =
      some (canvasPixel ((state.protocol.server.scenes adapter).pixel point)) := by
  have colour : state.protocol.server.display.renderer.workBuffer.pixel point =
      (state.protocol.server.scenes adapter).pixel point :=
    current adapter attached point inside undamaged
  have shows := resting_shows mirrors awake loaded received point inside
  rw [← colour] at filled ⊢
  exact shows filled

/-- In every run that leads to showable pictures and reports the changes of the scenes, a client
that is not waiting and has nothing left to receive or load shows the scene wherever nothing is
damaged. -/
theorem resting_screen_shows_scene (lossless : LosslessBesidesJpeg encoder codec)
    (finds : FindsAlpha encoder)
    (encodes : platform.createPatch = PatchEncoding.createPatch encoder) {state : ScreenState Adapter}
    (reached : Reach (ScreenStep codec platform)
      (fun state action => Faithful codec platform state action ∧ ReportedChange state action)
      (Started platform) state)
    (awake : state.protocol.client.waitingForFullUpdate = false)
    (loaded : state.protocol.client.loading = []) (received : state.protocol.toClient = [])
    {adapter : Adapter} (attached : state.protocol.server.display.renderer.adapter = some adapter)
    {point : QPoint} (inside : point ∈ state.protocol.server.display.renderer.workBuffer.rect)
    (undamaged : ¬state.protocol.server.display.renderer.damageRegion.Covers point)
    (filled : (state.protocol.server.scenes adapter).pixel point ≠ 0) :
    pixelAt state.canvases.frontCanvas point =
      some (canvasPixel ((state.protocol.server.scenes adapter).pixel point)) := by
  obtain ⟨mirrors, current⟩ := reach_current lossless finds encodes reached
  exact resting_current_shows mirrors current awake loaded received attached inside undamaged filled

/-- The test of the condition on a run with one pixel and no change of the scene. -/
def onePixelUnchanged (state : ScreenState Unit) (action : ProtocolAction Unit) : Bool :=
  onePixelFaithful state action &&
    match action with
    | .server (.changeScene _ _ _) => false
    | _ => true

theorem one_pixel_unchanged_sound (state : ScreenState Unit) (action : ProtocolAction Unit)
    (passed : onePixelUnchanged state action = true) :
    Faithful rowsCodec rowsDisplayPlatform state action ∧ ReportedChange state action := by
  unfold onePixelUnchanged at passed
  rw [Bool.and_eq_true] at passed
  refine ⟨one_pixel_faithful_sound state action passed.1, ?_⟩
  cases action with
  | server action =>
      cases action with
      | changeScene adapter scene rects => cases passed.2
      | _ => trivial
  | _ => trivial

def restsWhite (state : ScreenState Unit) : Bool :=
  !state.protocol.client.waitingForFullUpdate && state.protocol.client.loading.isEmpty &&
    state.protocol.toClient.isEmpty &&
    state.protocol.server.display.renderer.adapter == some () &&
    state.protocol.server.display.renderer.workBuffer.width == 1 &&
    state.protocol.server.display.renderer.workBuffer.height == 1 &&
    state.protocol.server.display.renderer.damageRegion.region.isEmpty &&
    (state.protocol.server.scenes ()).pixel ⟨0, 0⟩ == 0xFFFFFFFF

theorem resting_screen_shows_white_pixel : ∃ state : ScreenState Unit,
    pixelAt state.canvases.frontCanvas ⟨0, 0⟩ = some (canvasPixel 0xFFFFFFFF) := by
  have observed : (executeChecked onePixelUnchanged (screenStep rowsCodec rowsDisplayPlatform)
      screenStart firstFrameActions).map restsWhite = some true := by
    decide +kernel
  cases executed : executeChecked onePixelUnchanged (screenStep rowsCodec rowsDisplayPlatform)
      screenStart firstFrameActions with
  | none =>
      rw [executed] at observed
      cases observed
  | some state =>
      rw [executed, Option.map_some, Option.some.injEq] at observed
      unfold restsWhite at observed
      simp only [Bool.and_eq_true, Bool.not_eq_true', List.isEmpty_iff, beq_iff_eq] at observed
      obtain ⟨⟨⟨⟨⟨⟨⟨awake, loaded⟩, received⟩, attached⟩, width⟩, height⟩, undamaged⟩, white⟩ :=
        observed
      have reached := execute_checked_reaches one_pixel_unchanged_sound _
        (Reach.start screen_start_started) executed
      have uncovered : ¬state.protocol.server.display.renderer.damageRegion.Covers ⟨0, 0⟩ := by
        intro covered
        obtain ⟨rect, member, _⟩ := covered
        rw [undamaged] at member
        exact absurd member List.not_mem_nil
      have shows := @resting_screen_shows_scene Unit _ rowsEncoder rowsCodec rowsDisplayPlatform
        rows_encoder_lossless.besidesJpeg rows_encoder_finds rfl state reached awake loaded received () attached
        ⟨0, 0⟩ (by rw [QImage.mem_rect, width, height]; decide) uncovered (by rw [white]; decide)
      rw [white] at shows
      exact ⟨state, shows⟩

end Scenes

end Viridity.ScreenMirror
