import Viridity.DisplayDispatch

/-!
# DisplayRenderer

The client of one display: the flags that track a frame and the images still loading.
A callback returns the renderer, the messages it sends and what it does to the
canvases. The channel is taken to be connected (the guards of `v.connected` pass),
and no canvas to have width or height 0 (`drawImage` throws for those).
-/

namespace Viridity.DisplayClient

open Viridity.SceneDisplay
open Viridity.DisplayDispatch

set_option autoImplicit false

/-- The values `lastFrame` takes: the number 0 it starts with, the empty parameter of
`done()`, and the numbers of frames. -/
inductive FrameParam where
  | unset
  | empty
  | number (frame : Nat)
deriving DecidableEq

def frameOf : DisplayMessage → Nat
  | .fullUpdate frame => frame
  | .dI frame _ _ _ _ => frame
  | .mI frame _ _ => frame
  | .fR frame _ _ => frame
  | .frameEnd frame => frame

def isOperation : DisplayMessage → Bool
  | .dI _ _ _ _ _ => true
  | .mI _ _ _ => true
  | .fR _ _ _ => true
  | .fullUpdate _ => false
  | .frameEnd _ => false

def isFullUpdate : ClientMessage → Bool
  | .frame (.fullUpdate _) => true
  | .frame (.dI _ _ _ _ _) => false
  | .frame (.mI _ _ _) => false
  | .frame (.fR _ _ _) => false
  | .frame (.frameEnd _) => false
  | .done => false

/-- `inputParams[0]`. -/
def frameParam : ClientMessage → FrameParam
  | .done => .empty
  | .frame message => .number (frameOf message)

/-- What the client does to its canvases: an operation painted on the back canvas, an
image that could not be loaded, the back canvas copied to the front. -/
inductive CanvasEvent where
  | painted (operation : DisplayMessage)
  | failed (operation : DisplayMessage)
  | flipped (frame : FrameParam)
deriving DecidableEq

structure DisplayRenderer where
  lastFrame : FrameParam
  frameEndReceived : Bool
  frameErrors : Nat
  pendingPatchesCount : Int
  waitingForFullUpdate : Bool
  loading : List DisplayMessage
deriving DecidableEq

structure ClientOutcome where
  renderer : DisplayRenderer
  sent : List DisplayCommand
  events : List CanvasEvent

namespace DisplayRenderer

def initial : DisplayRenderer where
  lastFrame := .unset
  frameEndReceived := true
  frameErrors := 0
  pendingPatchesCount := 0
  waitingForFullUpdate := false
  loading := []

def requestFullUpdate (renderer : DisplayRenderer) (forced : Bool) : ClientOutcome where
  renderer := { renderer with waitingForFullUpdate := true }
  sent := [.requestFullUpdate [if forced then 1 else 0]]
  events := []

def determineReadyState (renderer : DisplayRenderer) : ClientOutcome :=
  if renderer.frameEndReceived && renderer.pendingPatchesCount == 0 then
    if renderer.frameErrors > 0 then
      let outcome := renderer.requestFullUpdate true
      ⟨{ outcome.renderer with frameErrors := 0 }, .ready :: outcome.sent, []⟩
    else ⟨{ renderer with frameErrors := 0 }, [.ready], [.flipped renderer.lastFrame]⟩
  else ⟨renderer, [], []⟩

def frameCommand (renderer : DisplayRenderer) : ClientMessage → ClientOutcome
  | .frame (.fR frame rect fillColor) => ⟨renderer, [], [.painted (.fR frame rect fillColor)]⟩
  | .frame (.mI frame rect dstPoint) => ⟨renderer, [], [.painted (.mI frame rect dstPoint)]⟩
  | .frame (.dI frame rect artefactMargin mimeType payload) =>
      ⟨{ renderer with
          pendingPatchesCount := renderer.pendingPatchesCount + 1
          loading := renderer.loading ++ [.dI frame rect artefactMargin mimeType payload] }, [], []⟩
  | .frame (.frameEnd _) => { renderer with frameEndReceived := true }.determineReadyState
  | .frame (.fullUpdate _) => ⟨renderer, [], []⟩
  | .done => ⟨renderer, [], []⟩

def messageCallback (renderer : DisplayRenderer) (message : ClientMessage) : ClientOutcome :=
  if renderer.waitingForFullUpdate && !isFullUpdate message then ⟨renderer, [], []⟩
  else
    let started :=
      if isFullUpdate message then
        { renderer with waitingForFullUpdate := false, pendingPatchesCount := 0 }
      else renderer
    if started.lastFrame ≠ frameParam message then
      let renamed := { started with lastFrame := frameParam message }
      if renamed.pendingPatchesCount ≠ 0 then
        -- the previous frame is not completely rendered
        { renamed with pendingPatchesCount := 0 }.requestFullUpdate false
      else { renamed with frameEndReceived := false }.frameCommand message
    else started.frameCommand message

/-- The renderer when the image at `index` has left, before `_determineReadyState`. -/
def imageLeft (renderer : DisplayRenderer) (index : Nat) (loaded : Bool) : DisplayRenderer :=
  { renderer with
    loading := renderer.loading.eraseIdx index
    frameErrors := if loaded then renderer.frameErrors else renderer.frameErrors + 1
    pendingPatchesCount := renderer.pendingPatchesCount - 1 }

/-- `onload` and `onerror` of the image at `index`. -/
def imageDone (renderer : DisplayRenderer) (index : Nat) (loaded : Bool) : ClientOutcome :=
  match renderer.loading[index]? with
  | some operation =>
      let outcome := (renderer.imageLeft index loaded).determineReadyState
      { outcome with
        events := (if loaded then .painted operation else .failed operation) :: outcome.events }
  | none => ⟨renderer, [], []⟩

/-- `_reconnectDisplay`; the forced resize reports the size of the container. -/
def reconnectDisplay (renderer : DisplayRenderer) (params : List String) (width height : Int) :
    ClientOutcome :=
  ⟨renderer, [.newDisplay params, .resize width height], []⟩

def resize (renderer : DisplayRenderer) (width height : Int) : ClientOutcome :=
  ⟨renderer, [.resize width height], []⟩

/-- What `_determineReadyState` does: nothing, or it acknowledges a frame with or
without errors. -/
inductive Determined (renderer : DisplayRenderer) : ClientOutcome → Prop
  | waits (incomplete : renderer.frameEndReceived = true → renderer.pendingPatchesCount ≠ 0) :
      Determined renderer ⟨renderer, [], []⟩
  | fails (ended : renderer.frameEndReceived = true) (complete : renderer.pendingPatchesCount = 0) :
      Determined renderer ⟨{ renderer with waitingForFullUpdate := true, frameErrors := 0 },
        [.ready, .requestFullUpdate [1]], []⟩
  | flips (ended : renderer.frameEndReceived = true) (complete : renderer.pendingPatchesCount = 0)
      (clean : renderer.frameErrors = 0) :
      Determined renderer ⟨renderer, [.ready], [.flipped renderer.lastFrame]⟩

theorem determine_ready_state_cases (renderer : DisplayRenderer) :
    Determined renderer renderer.determineReadyState := by
  unfold determineReadyState
  split_ifs with complete errors
  · simp only [Bool.and_eq_true, beq_iff_eq] at complete
    exact Determined.fails complete.1 complete.2
  · simp only [Bool.and_eq_true, beq_iff_eq] at complete
    have clean : renderer.frameErrors = 0 := by omega
    have same : { renderer with frameErrors := 0 } = renderer := by rw [← clean]
    rw [same]
    exact Determined.flips complete.1 complete.2 clean
  · apply Determined.waits
    intro ended none
    exact complete (by simp [ended, none])

/-- The renderer when it has accepted a message and before it acts on it. -/
def accepted (renderer : DisplayRenderer) (message : ClientMessage) : DisplayRenderer :=
  { renderer with
    lastFrame := frameParam message
    waitingForFullUpdate := false
    pendingPatchesCount := if isFullUpdate message then 0 else renderer.pendingPatchesCount
    frameEndReceived := renderer.frameEndReceived && decide (renderer.lastFrame = frameParam message) }

/-- What `_messageCallback` does: it drops the message, gives up an incomplete frame, or
acts on it. -/
inductive Handled (renderer : DisplayRenderer) (message : ClientMessage) : ClientOutcome → Prop
  | dropped (waiting : renderer.waitingForFullUpdate = true) (other : isFullUpdate message = false) :
      Handled renderer message ⟨renderer, [], []⟩
  | incomplete (awake : renderer.waitingForFullUpdate = false) (other : isFullUpdate message = false)
      (pending : renderer.pendingPatchesCount ≠ 0) :
      Handled renderer message ⟨{ renderer with
        lastFrame := frameParam message, pendingPatchesCount := 0, waitingForFullUpdate := true },
        [.requestFullUpdate [0]], []⟩
  | handled (awake : isFullUpdate message = true ∨ renderer.waitingForFullUpdate = false)
      (settled : renderer.lastFrame = frameParam message ∨ isFullUpdate message = true ∨
        renderer.pendingPatchesCount = 0) :
      Handled renderer message ((renderer.accepted message).frameCommand message)

theorem message_callback_cases (renderer : DisplayRenderer) (message : ClientMessage) :
    Handled renderer message (renderer.messageCallback message) := by
  unfold messageCallback
  cases full : isFullUpdate message with
  | true =>
      have same : renderer.accepted message =
          { renderer with
            lastFrame := frameParam message, waitingForFullUpdate := false, pendingPatchesCount := 0
            frameEndReceived :=
              renderer.frameEndReceived && decide (renderer.lastFrame = frameParam message) } := by
        simp [accepted, full]
      have result := @Handled.handled renderer message (Or.inl full) (Or.inr (Or.inl full))
      rw [same] at result
      simp only [Bool.not_true, Bool.and_false, Bool.false_eq_true, if_false, if_true, ne_eq]
      by_cases renamed : renderer.lastFrame = frameParam message
      · simp only [renamed, not_true_eq_false, if_false]
        simpa [renamed] using result
      · simp only [renamed, not_false_eq_true, if_true, not_true_eq_false, if_false]
        simpa [renamed] using result
  | false =>
      cases waiting : renderer.waitingForFullUpdate with
      | true => exact Handled.dropped waiting full
      | false =>
          have same : renderer.accepted message =
              { renderer with
                lastFrame := frameParam message
                frameEndReceived :=
                  renderer.frameEndReceived && decide (renderer.lastFrame = frameParam message) } := by
            simp [accepted, full, waiting]
          simp only [Bool.false_and, Bool.false_eq_true, if_false, ne_eq]
          by_cases renamed : renderer.lastFrame = frameParam message
          · have unchanged : renderer.accepted message = renderer := by
              rw [same, ← renamed]
              simp
            have result := @Handled.handled renderer message (Or.inr waiting) (Or.inl renamed)
            rw [unchanged] at result
            simpa [renamed] using result
          · simp only [renamed, not_false_eq_true, if_true]
            split_ifs with none
            · have result := @Handled.handled renderer message (Or.inr waiting)
                (Or.inr (Or.inr none))
              rw [same] at result
              simpa [renamed] using result
            · exact Handled.incomplete waiting full none

/-- The counter counts the loading images, unless the frame was given up. -/
def Counted (renderer : DisplayRenderer) : Prop :=
  renderer.pendingPatchesCount = renderer.loading.length ∨
    (renderer.waitingForFullUpdate = true ∧ renderer.pendingPatchesCount ≤ 0 ∧
      (renderer.pendingPatchesCount < 0 ∨ renderer.loading ≠ []))

/-- A frame was received completely and some of its images still load. -/
def AwaitsImages (renderer : DisplayRenderer) : Prop :=
  renderer.frameEndReceived = true ∧ renderer.loading ≠ [] ∧
    renderer.pendingPatchesCount = renderer.loading.length

section Counting

variable {renderer : DisplayRenderer} (counted : Counted renderer)

include counted

theorem counted_of_awake (awake : renderer.waitingForFullUpdate = false) :
    renderer.pendingPatchesCount = renderer.loading.length := by
  rcases counted with exact | ⟨waiting, _⟩
  · exact exact
  · rw [awake] at waiting
    cases waiting

/-- The count is exact for an accepted message, if a full update finds no image loading. -/
theorem accepted_exact {message : ClientMessage}
    (loaded : isFullUpdate message = true → renderer.loading = [])
    (awake : isFullUpdate message = true ∨ renderer.waitingForFullUpdate = false) :
    (renderer.accepted message).pendingPatchesCount =
      (renderer.accepted message).loading.length := by
  simp only [accepted]
  split_ifs with full
  · rw [loaded full]
    rfl
  · exact counted_of_awake counted (awake.resolve_left full)

theorem counted_request (forced : Bool) : Counted (renderer.requestFullUpdate forced).renderer := by
  rcases counted with exact | ⟨_, bound⟩
  · exact Or.inl exact
  · exact Or.inr ⟨rfl, bound⟩

theorem counted_incomplete {message : ClientMessage}
    (awake : renderer.waitingForFullUpdate = false) (pending : renderer.pendingPatchesCount ≠ 0) :
    Counted { renderer with
      lastFrame := frameParam message, pendingPatchesCount := 0, waitingForFullUpdate := true } := by
  refine Or.inr ⟨rfl, Int.le_refl 0, Or.inr ?_⟩
  intro none
  apply pending
  rw [counted_of_awake counted awake, none]
  rfl

omit counted in
theorem image_left_length {index : Nat} (inside : index < renderer.loading.length) (loaded : Bool) :
    ((renderer.imageLeft index loaded).loading.length : Int) = renderer.loading.length - 1 := by
  have shorter := List.length_eraseIdx_of_lt inside
  simp only [imageLeft, shorter]
  omega

theorem image_left_counted {index : Nat} (inside : index < renderer.loading.length) (loaded : Bool) :
    Counted (renderer.imageLeft index loaded) := by
  have length := image_left_length inside loaded
  have pending : (renderer.imageLeft index loaded).pendingPatchesCount =
      renderer.pendingPatchesCount - 1 := rfl
  rcases counted with exact | ⟨waits, bound, _⟩
  · left
    omega
  · right
    exact ⟨waits, by omega, Or.inl (by omega)⟩

theorem image_left_exact {index : Nat} (inside : index < renderer.loading.length) {loaded : Bool}
    (complete : (renderer.imageLeft index loaded).pendingPatchesCount = 0) :
    renderer.pendingPatchesCount = renderer.loading.length ∧
      (renderer.imageLeft index loaded).loading = [] := by
  have length := image_left_length inside loaded
  change renderer.pendingPatchesCount - 1 = 0 at complete
  rcases counted with exact | ⟨_, bound, _⟩
  · refine ⟨exact, ?_⟩
    apply List.eq_nil_of_length_eq_zero
    omega
  · omega

theorem determined_counted {outcome : ClientOutcome} (determined : Determined renderer outcome) :
    Counted outcome.renderer := by
  cases determined with
  | waits incomplete => exact counted
  | fails _ complete =>
      rcases counted with exact | ⟨_, bound⟩
      · exact Or.inl exact
      · exact Or.inr ⟨rfl, bound⟩
  | flips _ complete clean => exact counted

end Counting

end DisplayRenderer

end Viridity.DisplayClient
