import Viridity.FrameCompletion
import Viridity.ServerPictures

/-!
# Where the client is in the stream

Between two frames both canvases show the picture the display takes for known. Within a frame
the front canvas shows the picture before it, and the back canvas the picture after it but for
the operations still to come and the images still loading. A client that waits for a full update
only finishes a frame it has received completely.
-/

namespace Viridity.CanvasPhases

open Viridity.QtRectangle
open Viridity.ImageAux
open Viridity.PictureUpdates
open Viridity.SceneDisplay
open Viridity.DisplayDispatch
open Viridity.DisplayClient
open Viridity.FrameCompletion
open Viridity.PlayerPainting
open Viridity.PatchRequests
open Viridity.PatchGeometry
open Viridity.CanvasPainting
open Viridity.ReplayedFrames
open Viridity.ServerPictures
open DisplayRenderer

set_option autoImplicit false

def canvasEvents (codec : PatchCodec) (loaded : DisplayMessage → List UInt8) (canvases : Canvases)
    (events : List CanvasEvent) : Canvases :=
  events.foldl (canvasEvent codec loaded) canvases

def resized (canvases : Canvases) (width height : Int) : Canvases :=
  { canvases with canvas := resizeCanvas canvases.canvas width height }

/-- The back canvas shows the picture, but for the given operations. -/
def Outstanding (target : Picture QPoint QRgb) (operations : List DisplayMessage)
    (canvas : CanvasImage) : Prop :=
  Unfinished Covers (fun pixel => some (canvasPixel pixel)) target operations (pixelAt canvas)

def Roomy (pictures : List QImage) (canvases : Canvases) : Prop :=
  ∀ picture ∈ pictures, Fits (pictureOf picture) canvases.canvas

/-- A frame of which some operations are still to come. -/
structure Painting (codec : PatchCodec) (made : List GraphicsSceneFramePatch)
    (pictures : List QImage) (change : FrameChange) (remaining : List DisplayMessage)
    (client : DisplayRenderer) (canvases : Canvases) : Prop where
  faithful : FaithfulChange codec made pictures change
  last : client.lastFrame = .number change.number
  members : ∀ operation ∈ client.loading ++ remaining, operation ∈ change.operations
  front : CanvasShows canvases.frontCanvas change.before
  back : client.frameErrors = 0 →
    Outstanding change.target (client.loading ++ remaining) canvases.canvas

/-- Where a client is that has received all but `rest` of the updates up to a mark. -/
inductive Phase (codec : PatchCodec) (made : List GraphicsSceneFramePatch) (pictures : List QImage)
    (client : DisplayRenderer) (canvases : Canvases) : FrameMark → List ClientMessage → Prop
  | idle {mark : FrameMark} (awake : client.waitingForFullUpdate = false)
      (loaded : client.loading = []) (behind : paramOrder client.lastFrame ≤ mark.number + 1)
      (recorded : SaysNothing 0 mark.known ∨ ∃ picture ∈ pictures, mark.known = pictureOf picture)
      (front : CanvasShows canvases.frontCanvas mark.known)
      (back : CanvasShows canvases.canvas mark.known) :
      Phase codec made pictures client canvases mark []
  | paints {change : FrameChange} {remaining : List DisplayMessage}
      (awake : client.waitingForFullUpdate = false) (unended : client.frameEndReceived = false)
      (painting : Painting codec made pictures change remaining client canvases) :
      Phase codec made pictures client canvases ⟨change.number, change.target⟩
        (remaining.map .frame ++ [.frame (.frameEnd change.number)])
  | awaits {change : FrameChange} (awake : client.waitingForFullUpdate = false)
      (awaiting : AwaitsImages client)
      (painting : Painting codec made pictures change [] client canvases) :
      Phase codec made pictures client canvases ⟨change.number, change.target⟩ []
  | sleeps {mark : FrameMark} {rest : List ClientMessage}
      (asleep : client.waitingForFullUpdate = true)
      (behind : paramOrder client.lastFrame ≤ mark.number + 1)
      (unmarked : ∀ message ∈ rest, isFullUpdate message = false)
      (awaiting : AwaitsImages client →
        ∃ change, Painting codec made pictures change [] client canvases) :
      Phase codec made pictures client canvases mark rest

def FrontShows (pictures : List QImage) (canvases : Canvases) (param : FrameParam) : Prop :=
  ∃ frame picture, param = .number frame ∧ 0 < frame ∧ pictures[frame - 1]? = some picture ∧
    CanvasShows canvases.frontCanvas (pictureOf picture)

section Canvas

variable {codec : PatchCodec} {made : List GraphicsSceneFramePatch} {pictures : List QImage}
variable {change : FrameChange} {remaining : List DisplayMessage} {client : DisplayRenderer}
variable {canvases : Canvases}

theorem change_fits (faithful : FaithfulChange codec made pictures change)
    (roomy : Roomy pictures canvases) : Fits change.target canvases.canvas := by
  obtain ⟨picture, found, same⟩ := faithful.recorded
  rw [same]
  exact roomy picture (List.mem_of_getElem? found)

/-- What is on the back canvas is kept by a new size with room for the picture. -/
theorem resized_shows {picture : Picture QPoint QRgb} {canvas : CanvasImage} {width height : Int}
    (shows : CanvasShows canvas picture)
    (room : Fits picture (resizeCanvas canvas width height)) :
    CanvasShows (resizeCanvas canvas width height) picture := by
  intro point inside filled
  have seen := shows point inside filled
  rw [resize_pixel_at (of_pixel_at seen).1 (room point inside)]
  exact seen

theorem resized_outstanding {target : Picture QPoint QRgb} {operations : List DisplayMessage}
    {canvas : CanvasImage} {width height : Int} (outstanding : Outstanding target operations canvas)
    (room : Fits target (resizeCanvas canvas width height)) :
    Outstanding target operations (resizeCanvas canvas width height) := by
  intro point inside
  rcases outstanding point inside with right | covered
  · left
    rw [resize_pixel_at (of_pixel_at right).1 (room point inside)]
    exact right
  · exact Or.inr covered

theorem flipped_shows {target : Picture QPoint QRgb} (outstanding : Outstanding target [] canvases.canvas) :
    CanvasShows (flipToFront canvases).frontCanvas target ∧
      CanvasShows (flipToFront canvases).canvas target := by
  have shows : CanvasShows canvases.canvas target := outstanding.shows
  constructor
  · intro point inside filled
    rw [flip_pixel_at]
    exact shows point inside filled
  · exact shows

end Canvas

section Painting

variable {codec : PatchCodec} {made : List GraphicsSceneFramePatch} {pictures : List QImage}
variable {change : FrameChange} {remaining : List DisplayMessage} {client : DisplayRenderer}
variable {canvases : Canvases} {loaded : DisplayMessage → List UInt8}

def painted (codec : PatchCodec) (loaded : DisplayMessage → List UInt8) (canvases : Canvases)
    (operation : DisplayMessage) : Canvases :=
  canvasEvent codec loaded canvases (.painted operation)

theorem painted_front (operation : DisplayMessage) :
    (painted codec loaded canvases operation).frontCanvas = canvases.frontCanvas := rfl

theorem painted_outstanding (distinct : (made.map GraphicsSceneFramePatch.id).Nodup)
    (roomy : Roomy pictures canvases) (faithful : FaithfulChange codec made pictures change)
    {operation : DisplayMessage} (member : operation ∈ change.operations)
    (content : HasContent made operation (loaded operation))
    (front : CanvasShows canvases.frontCanvas change.before)
    (outstanding : Outstanding change.target (operation :: remaining) canvases.canvas) :
    Outstanding change.target remaining (painted codec loaded canvases operation).canvas := by
  obtain ⟨data, meant, right⟩ := faithful.drawn operation member
  rw [← has_content_unique distinct content meant] at right
  exact outstanding.painted (right canvases front (change_fits faithful roomy))

/-- A frame that is painted completely is the recorded picture of its number. -/
theorem flipped_front (painting : Painting codec made pictures change [] client canvases)
    (clean : client.frameErrors = 0) (loaded : client.loading = []) :
    FrontShows pictures (flipToFront canvases) client.lastFrame ∧
      CanvasShows (flipToFront canvases).frontCanvas change.target ∧
        CanvasShows (flipToFront canvases).canvas change.target := by
  have outstanding := painting.back clean
  rw [loaded] at outstanding
  have shows := flipped_shows outstanding
  obtain ⟨picture, found, same⟩ := painting.faithful.recorded
  refine ⟨⟨change.number, picture, painting.last, painting.faithful.positive, found, ?_⟩, shows⟩
  rw [← same]
  exact shows.1

theorem painting_same {after : DisplayRenderer}
    (painting : Painting codec made pictures change remaining client canvases)
    (last : after.lastFrame = client.lastFrame) (loading : after.loading = client.loading)
    (errors : after.frameErrors = client.frameErrors) :
    Painting codec made pictures change remaining after canvases where
  faithful := painting.faithful
  last := last.trans painting.last
  members := by
    rw [loading]
    exact painting.members
  front := painting.front
  back := by
    rw [loading, errors]
    exact painting.back

theorem painting_append (painting : Painting codec made pictures change remaining client canvases)
    (others : List GraphicsSceneFramePatch) (later : List QImage) :
    Painting codec (made ++ others) (pictures ++ later) change remaining client canvases where
  faithful := painting.faithful.append others later
  last := painting.last
  members := painting.members
  front := painting.front
  back := painting.back

theorem painting_resized {width height : Int}
    (painting : Painting codec made pictures change remaining client canvases)
    (roomy : Roomy pictures (resized canvases width height)) :
    Painting codec made pictures change remaining client (resized canvases width height) where
  faithful := painting.faithful
  last := painting.last
  members := painting.members
  front := painting.front
  back := by
    intro clean
    have room : Fits change.target (resized canvases width height).canvas :=
      change_fits painting.faithful roomy
    exact resized_outstanding (painting.back clean) room

theorem painting_moved {operation : DisplayMessage} {others : List DisplayMessage}
    {after : DisplayRenderer}
    (distinct : (made.map GraphicsSceneFramePatch.id).Nodup) (roomy : Roomy pictures canvases)
    (painting : Painting codec made pictures change remaining client canvases)
    (perm : (client.loading ++ remaining).Perm (operation :: (after.loading ++ others)))
    (last : after.lastFrame = client.lastFrame) (errors : after.frameErrors = client.frameErrors)
    (content : HasContent made operation (loaded operation)) :
    Painting codec made pictures change others after (painted codec loaded canvases operation) where
  faithful := painting.faithful
  last := last.trans painting.last
  members := by
    intro other member
    apply painting.members
    exact perm.mem_iff.mpr (List.mem_cons_of_mem operation member)
  front := by
    rw [painted_front]
    exact painting.front
  back := by
    intro clean
    rw [errors] at clean
    have member := painting.members operation (perm.mem_iff.mpr List.mem_cons_self)
    have outstanding : Outstanding change.target (operation :: (after.loading ++ others))
        canvases.canvas := (painting.back clean).perm perm
    exact painted_outstanding distinct roomy painting.faithful member content painting.front
      outstanding

theorem painting_failed {others : List DisplayMessage} {after : DisplayRenderer}
    (painting : Painting codec made pictures change remaining client canvases)
    (fewer : ∀ operation ∈ after.loading ++ others, operation ∈ client.loading ++ remaining)
    (last : after.lastFrame = client.lastFrame) (errors : 0 < after.frameErrors) :
    Painting codec made pictures change others after canvases where
  faithful := painting.faithful
  last := last.trans painting.last
  members := fun operation member => painting.members operation (fewer operation member)
  front := painting.front
  back := fun clean => absurd clean (by omega)

end Painting

section Messages

variable {client : DisplayRenderer} {message : ClientMessage}

theorem message_dropped (asleep : client.waitingForFullUpdate = true)
    (other : isFullUpdate message = false) : client.messageCallback message = ⟨client, [], []⟩ := by
  unfold messageCallback
  rw [if_pos (by rw [asleep, other]; rfl)]

theorem message_same_frame (awake : client.waitingForFullUpdate = false)
    (other : isFullUpdate message = false) (same : client.lastFrame = frameParam message) :
    client.messageCallback message = client.frameCommand message := by
  have notFull : ¬isFullUpdate message = true := by rw [other]; decide
  unfold messageCallback
  rw [if_neg (by rw [awake]; simp)]
  simp only [if_neg notFull, same, ne_eq, not_true_eq_false, if_false]

theorem message_next_frame (awake : client.waitingForFullUpdate = false)
    (other : isFullUpdate message = false) (differs : client.lastFrame ≠ frameParam message)
    (none : client.pendingPatchesCount = 0) :
    client.messageCallback message = ({ client with
      lastFrame := frameParam message
      frameEndReceived := false } : DisplayRenderer).frameCommand message := by
  have notFull : ¬isFullUpdate message = true := by rw [other]; decide
  unfold messageCallback
  rw [if_neg (by rw [awake]; simp)]
  simp only [if_neg notFull, if_pos differs, none, ne_eq, not_true_eq_false, if_false]

theorem message_gives_up (awake : client.waitingForFullUpdate = false)
    (other : isFullUpdate message = false) (differs : client.lastFrame ≠ frameParam message)
    (pending : client.pendingPatchesCount ≠ 0) :
    client.messageCallback message = ⟨{ client with
      lastFrame := frameParam message
      pendingPatchesCount := 0
      waitingForFullUpdate := true }, [.requestFullUpdate [0]], []⟩ := by
  have notFull : ¬isFullUpdate message = true := by rw [other]; decide
  unfold messageCallback
  rw [if_neg (by rw [awake]; simp)]
  simp only [if_neg notFull, if_pos differs, if_pos pending]
  rfl

theorem message_full_update (client : DisplayRenderer) (frame : Nat) :
    client.messageCallback (.frame (.fullUpdate frame)) =
      ⟨client.accepted (.frame (.fullUpdate frame)), [], []⟩ := by
  have full : isFullUpdate (.frame (.fullUpdate frame)) = true := rfl
  unfold messageCallback accepted
  simp only [full, Bool.not_true, Bool.and_false, Bool.false_eq_true, if_false, if_true]
  by_cases same : client.lastFrame = frameParam (.frame (.fullUpdate frame))
  · simp [same, frameCommand]
  · simp [same, frameCommand]

end Messages

section Callbacks

variable {codec : PatchCodec} {made : List GraphicsSceneFramePatch} {pictures : List QImage}
variable {change : FrameChange} {remaining : List DisplayMessage} {client : DisplayRenderer}
variable {canvases : Canvases} {loaded : DisplayMessage → List UInt8} {outcome : ClientOutcome}

/-- What the client does leads to a phase, and what it flips to the front was recorded. -/
structure Carries (codec : PatchCodec) (made : List GraphicsSceneFramePatch)
    (pictures : List QImage) (loaded : DisplayMessage → List UInt8) (canvases : Canvases)
    (outcome : ClientOutcome) (mark : FrameMark) (rest : List ClientMessage) : Prop where
  phase : Phase codec made pictures outcome.renderer
    (canvasEvents codec loaded canvases outcome.events) mark rest
  flips : ∀ param, .flipped param ∈ outcome.events →
    FrontShows pictures (canvasEvents codec loaded canvases outcome.events) param

theorem carries_quiet {mark : FrameMark} {rest : List ClientMessage} (none : outcome.events = [])
    (phase : Phase codec made pictures outcome.renderer canvases mark rest) :
    Carries codec made pictures loaded canvases outcome mark rest where
  phase := by
    rw [none]
    exact phase
  flips := by
    rw [none]
    exact fun param member => absurd member List.not_mem_nil

theorem sleeps_loaded {mark : FrameMark} {rest : List ClientMessage}
    (asleep : client.waitingForFullUpdate = true)
    (behind : paramOrder client.lastFrame ≤ mark.number + 1)
    (unmarked : ∀ message ∈ rest, isFullUpdate message = false) (empty : client.loading = []) :
    Phase codec made pictures client canvases mark rest :=
  .sleeps asleep behind unmarked fun awaiting => absurd empty awaiting.2.1

theorem determined_carries (awake : client.waitingForFullUpdate = false)
    (ended : client.frameEndReceived = true)
    (exact : client.pendingPatchesCount = client.loading.length)
    (painting : Painting codec made pictures change [] client canvases)
    (determined : Determined client outcome) :
    Carries codec made pictures loaded canvases outcome ⟨change.number, change.target⟩ [] := by
  cases determined with
  | waits incomplete =>
      apply carries_quiet rfl
      refine .awaits awake ⟨ended, ?_, exact⟩ painting
      intro empty
      rw [empty] at exact
      exact incomplete ended exact
  | fails _ none =>
      have empty : client.loading = [] := List.eq_nil_of_length_eq_zero (by omega)
      have behind : paramOrder client.lastFrame ≤ change.number + 1 := by
        rw [painting.last]
        exact Nat.le_refl _
      exact carries_quiet rfl (sleeps_loaded rfl behind (by simp) empty)
  | flips _ none clean =>
      have empty : client.loading = [] := List.eq_nil_of_length_eq_zero (by omega)
      have shown := flipped_front painting clean empty
      obtain ⟨picture, found, same⟩ := painting.faithful.recorded
      constructor
      · refine .idle awake empty ?_ (Or.inr ⟨picture, List.mem_of_getElem? found, same⟩) shown.2.1
          shown.2.2
        rw [painting.last]
        exact Nat.le_refl _
      · intro param member
        cases List.mem_singleton.mp member
        exact shown.1

theorem command_carries (distinct : (made.map GraphicsSceneFramePatch.id).Nodup)
    (roomy : Roomy pictures canvases)
    (plain : ∀ operation, payloadOf operation = none → loaded operation = [])
    (awake : client.waitingForFullUpdate = false) (unended : client.frameEndReceived = false)
    (exact : client.pendingPatchesCount = client.loading.length)
    (painting : Painting codec made pictures change remaining client canvases)
    {message : ClientMessage} {rest : List ClientMessage}
    (split : remaining.map .frame ++ [.frame (.frameEnd change.number)] = message :: rest) :
    Carries codec made pictures loaded canvases (client.frameCommand message)
      ⟨change.number, change.target⟩ rest := by
  cases remaining with
  | nil =>
      obtain ⟨same, none⟩ := List.cons.inj split
      rw [← same, ← none]
      simp only [frameCommand]
      exact @determined_carries codec made pictures change
        { client with frameEndReceived := true } canvases loaded _ awake rfl exact
        (painting_same painting rfl rfl rfl) (determine_ready_state_cases _)
  | cons operation operations =>
      obtain ⟨same, others⟩ := List.cons.inj split
      rw [← same, ← others]
      have member := painting.members operation (List.mem_append_right _ List.mem_cons_self)
      have proper := (painting.faithful.operations operation member).1
      have paintedNow : payloadOf operation = none →
          Carries codec made pictures loaded canvases ⟨client, [], [.painted operation]⟩
            ⟨change.number, change.target⟩
            (operations.map .frame ++ [.frame (.frameEnd change.number)]) := by
        intro without
        have content : HasContent made operation (loaded operation) := by
          unfold HasContent
          rw [without]
          exact plain operation without
        constructor
        · exact .paints awake unended
            (painting_moved distinct roomy painting List.perm_middle rfl rfl content)
        · intro param flipped
          cases List.mem_singleton.mp flipped
      cases operation with
      | dI frame rect artefactMargin mimeType payload =>
          have moved : client.loading ++ .dI frame rect artefactMargin mimeType payload :: operations =
              (client.loading ++ [.dI frame rect artefactMargin mimeType payload]) ++ operations := by
            rw [List.append_assoc, List.singleton_append]
          apply carries_quiet rfl
          refine .paints awake unended ⟨painting.faithful, painting.last, ?_, painting.front, ?_⟩
          · simp only [frameCommand]
            rw [← moved]
            exact painting.members
          · simp only [frameCommand]
            rw [← moved]
            exact painting.back
      | mI frame rect dstPoint => exact paintedNow rfl
      | fR frame rect fillColor => exact paintedNow rfl
      | fullUpdate frame => cases proper
      | frameEnd frame => cases proper

variable (counted : Counted client) {index : Nat} {operation : DisplayMessage} {fine : Bool}
variable {mark : FrameMark} {rest : List ClientMessage}

/-- An image that has left, before the client looks whether the frame is complete. -/
theorem image_left_painting (distinct : (made.map GraphicsSceneFramePatch.id).Nodup)
    (roomy : Roomy pictures canvases) (found : client.loading[index]? = some operation)
    (content : fine = true → HasContent made operation (loaded operation))
    (painting : Painting codec made pictures change remaining client canvases) :
    Painting codec made pictures change remaining (client.imageLeft index fine)
      (canvasEvents codec loaded canvases [imageEvent fine operation]) := by
  obtain ⟨inside, same⟩ := List.getElem?_eq_some_iff.mp found
  have perm : (client.loading ++ remaining).Perm
      (operation :: ((client.imageLeft index fine).loading ++ remaining)) := by
    have taken := (List.getElem_cons_eraseIdx_perm inside).symm
    rw [same] at taken
    exact taken.append_right remaining
  cases fine with
  | true => exact painting_moved distinct roomy painting perm rfl rfl (content rfl)
  | false =>
      have failed : Painting codec made pictures change remaining (client.imageLeft index false)
          canvases := by
        refine painting_failed painting ?_ rfl (Nat.succ_pos _)
        intro other member
        exact perm.mem_iff.mpr (List.mem_cons_of_mem operation member)
      exact failed

include counted

theorem image_done_carries (distinct : (made.map GraphicsSceneFramePatch.id).Nodup)
    (roomy : Roomy pictures canvases) (found : client.loading[index]? = some operation)
    (content : fine = true → HasContent made operation (loaded operation))
    (phase : Phase codec made pictures client canvases mark rest) :
    Carries codec made pictures loaded canvases (client.imageDone index fine) mark rest := by
  have inside := (List.getElem?_eq_some_iff.mp found).1
  have determined := determine_ready_state_cases (client.imageLeft index fine)
  have length := image_left_length inside fine
  have done : client.imageDone index fine =
      { (client.imageLeft index fine).determineReadyState with
        events := imageEvent fine operation ::
          (client.imageLeft index fine).determineReadyState.events } := by
    unfold imageDone imageEvent
    rw [found]
  rw [done]
  generalize (client.imageLeft index fine).determineReadyState = outcome at determined
  -- what follows the event of the image happens on the canvases after it
  have later : ∀ {after : FrameMark},
      Carries codec made pictures loaded (canvasEvents codec loaded canvases
        [imageEvent fine operation]) outcome after rest →
      Carries codec made pictures loaded canvases
        { outcome with events := imageEvent fine operation :: outcome.events } after rest := by
    intro after carries
    constructor
    · exact carries.phase
    · intro param member
      rcases List.mem_cons.mp member with now | further
      · cases fine with
        | true => cases now
        | false => cases now
      · exact carries.flips param further
  apply later
  cases phase with
  | idle awake none =>
      rw [none] at inside
      exact absurd inside (Nat.not_lt_zero _)
  | paints awake unended painting =>
      have left := image_left_painting distinct roomy found content painting
      cases determined with
      | waits incomplete => exact carries_quiet rfl (.paints awake unended left)
      | fails ended complete => exact absurd (ended.symm.trans unended) (by decide)
      | flips ended complete clean => exact absurd (ended.symm.trans unended) (by decide)
  | awaits awake awaiting painting =>
      have left := image_left_painting distinct roomy found content painting
      have awakeLeft : (client.imageLeft index fine).waitingForFullUpdate = false := awake
      apply determined_carries awakeLeft awaiting.1 _ left determined
      have exact := awaiting.2.2
      simp only [imageLeft] at length ⊢
      omega
  | sleeps asleep behind unmarked awaiting =>
      cases determined with
      | waits incomplete =>
          apply carries_quiet rfl
          refine .sleeps asleep behind unmarked ?_
          intro still
          have before : AwaitsImages client := by
            refine ⟨still.1, ?_, ?_⟩
            · exact List.ne_nil_of_mem (List.mem_of_getElem? found)
            · have exact : client.pendingPatchesCount - 1 =
                  ((client.imageLeft index fine).loading.length : Int) := still.2.2
              omega
          obtain ⟨change, painting⟩ := awaiting before
          exact ⟨change, image_left_painting distinct roomy found content painting⟩
      | fails ended complete =>
          obtain ⟨_, empty⟩ := image_left_exact counted inside complete
          exact carries_quiet rfl (sleeps_loaded rfl behind unmarked empty)
      | flips ended complete clean =>
          obtain ⟨exact, empty⟩ := image_left_exact counted inside complete
          obtain ⟨change, painting⟩ := awaiting
            ⟨ended, List.ne_nil_of_mem (List.mem_of_getElem? found), exact⟩
          have left := image_left_painting distinct roomy found content painting
          constructor
          · exact sleeps_loaded asleep behind unmarked empty
          · intro param member
            cases List.mem_singleton.mp member
            exact (flipped_front left clean empty).1

end Callbacks

section Receiving

variable {codec : PatchCodec} {made : List GraphicsSceneFramePatch} {pictures : List QImage}
variable {change : FrameChange} {client : DisplayRenderer} {canvases : Canvases}
variable {loaded : DisplayMessage → List UInt8} {mark : FrameMark} {message : ClientMessage}
variable {rest : List ClientMessage}

theorem frame_messages {operations : List DisplayMessage} {number : Nat}
    (ofFrame : ∀ operation ∈ operations, isOperation operation = true ∧ frameOf operation = number)
    (member : message ∈ operations.map ClientMessage.frame ++ [.frame (.frameEnd number)]) :
    isFullUpdate message = false ∧ frameParam message = .number number := by
  rcases List.mem_append.mp member with inner | last
  · obtain ⟨operation, present, same⟩ := List.mem_map.mp inner
    obtain ⟨proper, frame⟩ := ofFrame operation present
    rw [← same]
    refine ⟨?_, congrArg FrameParam.number frame⟩
    cases operation with
    | fullUpdate frame => cases proper
    | dI frame rect artefactMargin mimeType payload => rfl
    | mI frame rect dstPoint => rfl
    | fR frame rect fillColor => rfl
    | frameEnd frame => rfl
  · rw [List.mem_singleton.mp last]
    exact ⟨rfl, rfl⟩

theorem behind_next (behind : paramOrder client.lastFrame ≤ mark.number + 1)
    (number : change.number = mark.number + 1) : client.lastFrame ≠ .number change.number := by
  intro same
  rw [same] at behind
  simp only [paramOrder] at behind
  omega

theorem gives_up_sleeps (awake : client.waitingForFullUpdate = false)
    (awaiting : AwaitsImages client) (other : isFullUpdate message = false)
    (differs : client.lastFrame ≠ frameParam message)
    (behind : paramOrder (frameParam message) ≤ mark.number + 1)
    (unmarked : ∀ later ∈ rest, isFullUpdate later = false) :
    Carries codec made pictures loaded canvases (client.messageCallback message) mark rest := by
  have pending : client.pendingPatchesCount ≠ 0 := by
    intro none
    have exact := awaiting.2.2
    exact awaiting.2.1 (List.eq_nil_of_length_eq_zero (by omega))
  rw [message_gives_up awake other differs pending]
  apply carries_quiet rfl
  refine .sleeps rfl behind unmarked ?_
  intro still
  have exact : (0 : Int) = client.loading.length := still.2.2
  have empty : client.loading = [] := List.eq_nil_of_length_eq_zero (by omega)
  exact absurd empty still.2.1

/-- A full update finds no images loading; the frames it is the first message of build on
nothing. -/
theorem full_update_carries (empty : client.loading = [])
    (phase : Phase codec made pictures client canvases mark []) :
    Carries codec made pictures loaded canvases
        (client.messageCallback (.frame (.fullUpdate mark.number))) ⟨mark.number, nothing 0⟩ [] ∧
      ∀ change, FaithfulChange codec made pictures change → change.number = mark.number + 1 →
        SaysNothing 0 change.before →
          Carries codec made pictures loaded canvases
            (client.messageCallback (.frame (.fullUpdate change.number)))
            ⟨change.number, change.target⟩
            (change.operations.map .frame ++ [.frame (.frameEnd change.number)]) := by
  have behind : paramOrder client.lastFrame ≤ mark.number + 1 := by
    generalize ending : ([] : List ClientMessage) = whole at phase
    cases phase with
    | idle awake none behind recorded front back => exact behind
    | paints awake unended painting => simp at ending
    | awaits awake awaiting painting => exact absurd empty awaiting.2.1
    | sleeps asleep behind unmarked awaiting => exact behind
  constructor
  · rw [message_full_update]
    apply carries_quiet rfl
    exact .idle rfl empty (Nat.le_refl _) (Or.inl nothing_says_nothing)
      (shows_of_says_nothing nothing_says_nothing) (shows_of_says_nothing nothing_says_nothing)
  · intro change faithful number silent
    rw [message_full_update]
    apply carries_quiet rfl
    refine .paints rfl ?_ ⟨faithful, rfl, ?_, shows_of_says_nothing silent, ?_⟩
    · have differs : ¬client.lastFrame = frameParam (.frame (.fullUpdate change.number)) :=
        behind_next behind number
      simp only [accepted, differs, decide_false, Bool.and_false]
    · intro operation member
      simp only [accepted, empty] at member
      exact member
    · intro _
      simp only [accepted, empty]
      exact faithful.repaints.unfinished (shows_of_says_nothing silent)

variable (counted : Counted client)

include counted

/-- What concerns no frame makes the client give up one that waits for images. -/
theorem done_carries (phase : Phase codec made pictures client canvases mark []) :
    Carries codec made pictures loaded canvases (client.messageCallback .done) mark [] := by
  have other : isFullUpdate .done = false := rfl
  generalize ending : ([] : List ClientMessage) = whole at phase
  cases phase with
  | idle awake none behind recorded front back =>
      have exact := counted_of_awake counted awake
      rw [none] at exact
      by_cases same : client.lastFrame = frameParam .done
      · rw [message_same_frame awake other same]
        apply carries_quiet rfl
        exact .idle awake none behind recorded front back
      · rw [message_next_frame awake other same exact]
        apply carries_quiet rfl
        exact .idle awake none (Nat.zero_le _) recorded front back
  | paints awake unended painting => simp at ending
  | awaits awake awaiting painting =>
      apply gives_up_sleeps awake awaiting other _ (Nat.zero_le _)
        (fun _ member => absurd member List.not_mem_nil)
      rw [painting.last]
      exact fun same => FrameParam.noConfusion same
  | sleeps asleep behind unmarked awaiting =>
      rw [message_dropped asleep other]
      apply carries_quiet rfl
      exact .sleeps asleep behind unmarked awaiting

variable (distinct : (made.map GraphicsSceneFramePatch.id).Nodup) (roomy : Roomy pictures canvases)
variable (plain : ∀ operation, payloadOf operation = none → loaded operation = [])

include distinct roomy plain

theorem within_carries {whole : List ClientMessage} (split : whole = message :: rest)
    (phase : Phase codec made pictures client canvases mark whole) :
    Carries codec made pictures loaded canvases (client.messageCallback message) mark rest := by
  cases phase with
  | idle => cases split
  | awaits => cases split
  | @paints change remaining awake unended painting =>
      have member : message ∈ remaining.map ClientMessage.frame ++
          [.frame (.frameEnd change.number)] := by
        rw [split]
        exact List.mem_cons_self
      have kind := frame_messages (fun operation present => painting.faithful.operations operation
        (painting.members operation (List.mem_append_right _ present))) member
      rw [message_same_frame awake kind.1 (painting.last.trans kind.2.symm)]
      exact command_carries distinct roomy plain awake unended (counted_of_awake counted awake)
        painting split
  | sleeps asleep behind unmarked awaiting =>
      rw [split] at unmarked
      rw [message_dropped asleep (unmarked message List.mem_cons_self)]
      apply carries_quiet rfl
      exact .sleeps asleep behind (fun later member => unmarked later (List.mem_cons_of_mem _ member))
        awaiting

theorem change_carries (phase : Phase codec made pictures client canvases mark [])
    (faithful : FaithfulChange codec made pictures change)
    (number : change.number = mark.number + 1) (entails : Entails 0 mark.known change.before)
    (split : change.operations.map .frame ++ [.frame (.frameEnd change.number)] = message :: rest) :
    Carries codec made pictures loaded canvases (client.messageCallback message)
      ⟨change.number, change.target⟩ rest := by
  have kinds : ∀ later ∈ message :: rest, isFullUpdate later = false ∧
      frameParam later = .number change.number := by
    intro later member
    rw [← split] at member
    exact frame_messages faithful.operations member
  have kind := kinds message List.mem_cons_self
  have unmarked : ∀ later ∈ rest, isFullUpdate later = false := fun later member =>
    (kinds later (List.mem_cons_of_mem message member)).1
  have order : paramOrder (frameParam message) ≤ change.number + 1 := by
    rw [kind.2]
    exact Nat.le_refl _
  generalize ending : ([] : List ClientMessage) = whole at phase
  cases phase with
  | idle awake none behind recorded front back =>
      have exact := counted_of_awake counted awake
      rw [none] at exact
      have differs : client.lastFrame ≠ frameParam message := by
        rw [kind.2]
        exact behind_next behind number
      rw [message_next_frame awake kind.1 differs exact]
      apply @command_carries codec made pictures change change.operations
        { client with lastFrame := frameParam message, frameEndReceived := false } canvases loaded
        distinct roomy plain awake rfl _ _ message rest split
      · rw [none]
        exact exact
      · refine ⟨faithful, kind.2, ?_, front.of_entails entails, ?_⟩
        · intro operation member
          rw [none] at member
          exact member
        · intro _
          rw [none]
          exact faithful.repaints.unfinished (back.of_entails entails)
  | @paints other remaining awake unended painting => simp at ending
  | @awaits other awake awaiting painting =>
      apply gives_up_sleeps awake awaiting kind.1 _ order unmarked
      rw [painting.last, kind.2]
      intro same
      have := FrameParam.number.inj same
      simp only at number
      omega
  | sleeps asleep behind _ awaiting =>
      rw [message_dropped asleep kind.1]
      apply carries_quiet rfl
      refine .sleeps asleep ?_ unmarked awaiting
      simp only
      omega

omit counted distinct roomy plain in
theorem spoken_update_ne_nil (number : Nat) (update : FrameUpdate) (updates : List FrameUpdate) :
    spoken number (update :: updates) ≠ [] := by
  cases update with
  | silent => simp [spoken]
  | reset => simp [spoken]
  | change change => simp [spoken, changeMessages]

/-- What is on the way leads from the mark of the client to the final one. -/
structure Ahead (codec : PatchCodec) (made : List GraphicsSceneFramePatch) (pictures : List QImage)
    (coming : List ClientMessage) (final mark : FrameMark) (rest : List ClientMessage)
    (updates : List FrameUpdate) : Prop where
  messages : coming = rest ++ spoken mark.number updates
  follows : Follows 0 mark updates final
  faithful : ∀ change, .change change ∈ updates → FaithfulChange codec made pictures change

theorem message_carries {coming : List ClientMessage} {final : FrameMark}
    {updates : List FrameUpdate} (empty : isFullUpdate message = true → client.loading = [])
    (phase : Phase codec made pictures client canvases mark rest)
    (ahead : Ahead codec made pictures (message :: coming) final mark rest updates) :
    ∃ next others later,
      Ahead codec made pictures coming final next others later ∧
        Carries codec made pictures loaded canvases (client.messageCallback message) next others := by
  have messages := ahead.messages
  cases rest with
  | cons first others =>
      obtain ⟨same, tail⟩ := List.cons.inj messages
      refine ⟨mark, others, updates, ⟨tail, ahead.follows, ahead.faithful⟩, ?_⟩
      exact within_carries counted distinct roomy plain (by rw [same]) phase
  | nil =>
      cases updates with
      | nil => cases messages
      | cons update updates =>
          have further : ∀ change, .change change ∈ updates →
              FaithfulChange codec made pictures change := fun change member =>
            ahead.faithful change (List.mem_cons_of_mem update member)
          cases update with
          | silent =>
              obtain ⟨same, tail⟩ := List.cons.inj messages
              refine ⟨mark, [], updates, ⟨tail, ahead.follows, further⟩, ?_⟩
              rw [same]
              exact done_carries counted phase
          | reset =>
              obtain ⟨same, tail⟩ := List.cons.inj messages
              rw [same] at empty ⊢
              refine ⟨⟨mark.number, nothing 0⟩, [], updates, ⟨tail, ahead.follows, further⟩, ?_⟩
              exact (full_update_carries (empty rfl) phase).1
          | change change =>
              obtain ⟨number, entails, silent, follows⟩ := ahead.follows
              have faithful := ahead.faithful change List.mem_cons_self
              have split : message :: coming =
                  ((if change.resets then [.frame (.fullUpdate change.number)] else []) ++
                    (change.operations.map .frame ++ [.frame (.frameEnd change.number)])) ++
                      spoken change.number updates := by
                rw [messages, List.nil_append, spoken, changeMessages, List.append_assoc
                  (if change.resets then _ else _)]
              by_cases resets : change.resets = true
              · rw [if_pos resets] at split
                obtain ⟨same, tail⟩ := List.cons.inj split
                rw [same] at empty ⊢
                refine ⟨⟨change.number, change.target⟩, _, updates, ⟨tail, follows, further⟩, ?_⟩
                exact (full_update_carries (empty rfl) phase).2 change faithful number
                  (silent resets)
              · rw [if_neg resets, List.nil_append] at split
                cases parts : change.operations.map ClientMessage.frame ++
                    [.frame (.frameEnd change.number)] with
                | nil => simp at parts
                | cons first others =>
                    rw [parts] at split
                    obtain ⟨same, tail⟩ := List.cons.inj split
                    refine ⟨⟨change.number, change.target⟩, others, updates,
                      ⟨tail, follows, further⟩, ?_⟩
                    exact change_carries counted distinct roomy plain phase faithful number entails
                      (by rw [parts, same])

end Receiving

section Surroundings

variable {codec : PatchCodec} {made : List GraphicsSceneFramePatch} {pictures : List QImage}
variable {client : DisplayRenderer} {canvases : Canvases} {mark : FrameMark}
variable {rest : List ClientMessage} (phase : Phase codec made pictures client canvases mark rest)

include phase

theorem request_phase (forced : Bool) :
    Phase codec made pictures (client.requestFullUpdate forced).renderer canvases mark rest := by
  cases phase with
  | idle awake none behind recorded front back =>
      exact sleeps_loaded rfl behind (fun _ member => absurd member List.not_mem_nil) none
  | @paints change remaining awake unended painting =>
      refine .sleeps rfl ?_ ?_ ?_
      · change paramOrder client.lastFrame ≤ _
        rw [painting.last]
        exact Nat.le_refl _
      · intro message member
        exact (frame_messages (fun operation present => painting.faithful.operations operation
          (painting.members operation (List.mem_append_right _ present))) member).1
      · exact fun awaiting => absurd (unended.symm.trans awaiting.1) (by decide)
  | @awaits change awake awaiting painting =>
      refine .sleeps rfl ?_ (fun _ member => absurd member List.not_mem_nil) ?_
      · change paramOrder client.lastFrame ≤ _
        rw [painting.last]
        exact Nat.le_refl _
      · exact fun _ => ⟨change, painting_same painting rfl rfl rfl⟩
  | sleeps asleep behind unmarked awaiting =>
      refine .sleeps rfl behind unmarked ?_
      intro still
      obtain ⟨change, painting⟩ := awaiting still
      exact ⟨change, painting_same painting rfl rfl rfl⟩

theorem resized_phase {width height : Int} (roomy : Roomy pictures (resized canvases width height)) :
    Phase codec made pictures client (resized canvases width height) mark rest := by
  cases phase with
  | idle awake none behind recorded front back =>
      refine .idle awake none behind recorded front ?_
      rcases recorded with silent | ⟨picture, member, same⟩
      · exact shows_of_says_nothing silent
      · have room := roomy picture member
        rw [← same] at room
        exact resized_shows back room
  | paints awake unended painting =>
      exact .paints awake unended (painting_resized painting roomy)
  | awaits awake awaiting painting =>
      exact .awaits awake awaiting (painting_resized painting roomy)
  | sleeps asleep behind unmarked awaiting =>
      refine .sleeps asleep behind unmarked ?_
      intro still
      obtain ⟨change, painting⟩ := awaiting still
      exact ⟨change, painting_resized painting roomy⟩

theorem phase_append (others : List GraphicsSceneFramePatch) (later : List QImage) :
    Phase codec (made ++ others) (pictures ++ later) client canvases mark rest := by
  cases phase with
  | idle awake none behind recorded front back =>
      refine .idle awake none behind ?_ front back
      rcases recorded with silent | ⟨picture, member, same⟩
      · exact Or.inl silent
      · exact Or.inr ⟨picture, List.mem_append_left later member, same⟩
  | paints awake unended painting =>
      exact .paints awake unended (painting_append painting others later)
  | awaits awake awaiting painting =>
      exact .awaits awake awaiting (painting_append painting others later)
  | sleeps asleep behind unmarked awaiting =>
      refine .sleeps asleep behind unmarked ?_
      intro still
      obtain ⟨change, painting⟩ := awaiting still
      exact ⟨change, painting_append painting others later⟩

omit phase in
theorem spoken_append {final : FrameMark} {updates : List FrameUpdate} (others : List FrameUpdate)
    (follows : Follows 0 mark updates final) :
    spoken mark.number (updates ++ others) =
      spoken mark.number updates ++ spoken final.number others := by
  induction updates generalizing mark with
  | nil => rw [follows.1, List.nil_append, spoken, List.nil_append]
  | cons update updates induction =>
      cases update with
      | silent => exact congrArg (List.cons _) (induction follows)
      | reset => exact congrArg (List.cons _) (@induction ⟨mark.number, nothing 0⟩ follows)
      | change change =>
          have further := induction follows.2.2.2
          simp only [List.cons_append, spoken, List.append_assoc]
          rw [← further]

end Surroundings

end Viridity.CanvasPhases
