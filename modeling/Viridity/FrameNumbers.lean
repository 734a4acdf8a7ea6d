import Viridity.DamageBookkeeping
import Viridity.FrameFlow
import Viridity.FullUpdate

/-!
# Frames numbered by an int

Up to 2^31 - 1 frames a display does the same whether an int or a natural number counts them,
and the flow of frames is controlled. The number of the next frame is below the last one, and
there are runs that long.
-/

namespace Viridity.FrameNumbers

open Viridity.QtRectangle
open Viridity.ImageAux
open Viridity.ImageComparerOpTools
open Viridity.FrameComparison
open Viridity.BufferRenderer
open Viridity.WorkBuffer
open Viridity.FullUpdate
open Viridity.DamageBookkeeping
open Viridity.SceneDisplay
open Viridity.FrameFlow
open Viridity.EventLogs
open Viridity.LabelledRuns
open GraphicsSceneDisplay

set_option autoImplicit false

variable {Adapter Number Other : Type}

section Renumbering

def DisplayMessage.renumbered (renumber : Number → Other) :
    DisplayMessage Number → DisplayMessage Other
  | .fullUpdate frame => .fullUpdate (renumber frame)
  | .dI frame rect artefactMargin mimeType payload =>
      .dI (renumber frame) rect artefactMargin mimeType payload
  | .mI frame rect dstPoint => .mI (renumber frame) rect dstPoint
  | .fR frame rect fillColor => .fR (renumber frame) rect fillColor
  | .frameEnd frame => .frameEnd (renumber frame)

def GraphicsSceneDisplay.renumbered (renumber : Number → Other)
    (display : GraphicsSceneDisplay Adapter Number) : GraphicsSceneDisplay Adapter Other where
  id := display.id
  adapter := display.adapter
  encoderSettings := display.encoderSettings
  updateAvailable := display.updateAvailable
  frame := renumber display.frame
  updateCheckTimerActive := display.updateCheckTimerActive
  renderer := display.renderer
  clientReady := display.clientReady
  patches := display.patches
  fullUpdateRequested := display.fullUpdateRequested

def DisplayEvent.renumbered (renumber : Number → Other) : DisplayEvent Number → DisplayEvent Other
  | .sent message => .sent (DisplayMessage.renumbered renumber message)
  | .tookPatch patchId patch => .tookPatch patchId patch
  | .ready => .ready
  | .forcedFullUpdate => .forcedFullUpdate

def DisplayRun.renumbered (renumber : Number → Other) (run : DisplayRun Adapter Number) :
    DisplayRun Adapter Other where
  display := GraphicsSceneDisplay.renumbered renumber run.display
  scenes := run.scenes
  log := run.log.map (DisplayEvent.renumbered renumber)

variable {renumber : Number → Other} {display : GraphicsSceneDisplay Adapter Number}

theorem continue_renumbered (run : DisplayRun Adapter Number)
    (after : GraphicsSceneDisplay Adapter Number) (events : List (DisplayEvent Number)) :
    (DisplayRun.renumbered renumber run).continue (GraphicsSceneDisplay.renumbered renumber after)
        (events.map (DisplayEvent.renumbered renumber)) =
      DisplayRun.renumbered renumber (run.continue after events) := by
  unfold DisplayRun.continue DisplayRun.renumbered
  rw [List.map_append]

theorem renderer_slot_renumbered (outcome : GraphicsSceneBufferRenderer Adapter × Bool) :
    (GraphicsSceneDisplay.renumbered renumber display).rendererSlot outcome =
      GraphicsSceneDisplay.renumbered renumber (display.rendererSlot outcome) := by
  rw [renderer_slot_eq, renderer_slot_eq]
  rfl

theorem client_ready_renumbered :
    (GraphicsSceneDisplay.renumbered renumber display).handleClientReady =
      GraphicsSceneDisplay.renumbered renumber display.handleClientReady := by
  rw [client_ready_eq, client_ready_eq]
  rfl

theorem request_full_update_renumbered (forced : Bool) :
    (GraphicsSceneDisplay.renumbered renumber display).requestFullUpdate forced =
      GraphicsSceneDisplay.renumbered renumber (display.requestFullUpdate forced) := by
  rw [request_full_update_eq, request_full_update_eq]
  show (if display.fullUpdateRequested = true then _ else _) = _
  cases display.fullUpdateRequested with
  | true => rfl
  | false => rfl

theorem timeout_renumbered :
    (GraphicsSceneDisplay.renumbered renumber display).updateCheckTimerTimeout.1 =
      GraphicsSceneDisplay.renumbered renumber display.updateCheckTimerTimeout.1 := by
  have waiting : (GraphicsSceneDisplay.renumbered renumber display).clientReady = display.clientReady ∧
      (GraphicsSceneDisplay.renumbered renumber display).patches = display.patches := ⟨rfl, rfl⟩
  unfold updateCheckTimerTimeout
  dsimp only
  rw [waiting.1, waiting.2]
  cases display.clientReady && display.patches.isEmpty with
  | true => rfl
  | false => rfl

variable [FrameNumber Number] [FrameNumber Other]

theorem operation_messages_renumbered (createPatch : QRect → GraphicsSceneFramePatch)
    (settings : EncoderSettings) (returnBinary : Bool) (displayId : String) {frame : Number}
    (text : FrameNumber.text (renumber frame) = FrameNumber.text frame) (index : Nat)
    (ops : List UpdateOperation) :
    operationMessages createPatch settings returnBinary displayId (renumber frame) index ops =
      ((operationMessages createPatch settings returnBinary displayId frame index ops).1.map
          (DisplayMessage.renumbered renumber),
        (operationMessages createPatch settings returnBinary displayId frame index ops).2) := by
  induction ops generalizing index with
  | nil => rfl
  | cons op ops induction =>
      have named : patchId displayId (renumber frame) index = patchId displayId frame index := by
        unfold patchId
        rw [text]
      unfold operationMessages
      rw [induction (index + 1)]
      cases op.type with
      | uotUpdate =>
          dsimp only
          rw [named]
          split_ifs
          · rfl
          · rfl
      | uotMove => rfl
      | uotFill => rfl
      | uotNoOp => rfl

theorem take_renumbered (same : ∀ number, FrameNumber.next (renumber number) =
      renumber (FrameNumber.next number)) (platform : DisplayPlatform) (scenes : Adapter → Scene)
    (returnBinary : Bool)
    (text : FrameNumber.text
        (renumber (display.takePendingMessages platform scenes returnBinary).1.frame) =
      FrameNumber.text (display.takePendingMessages platform scenes returnBinary).1.frame) :
    (GraphicsSceneDisplay.renumbered renumber display).takePendingMessages platform scenes
        returnBinary =
      (GraphicsSceneDisplay.renumbered renumber
          (display.takePendingMessages platform scenes returnBinary).1,
        (display.takePendingMessages platform scenes returnBinary).2.map
          (DisplayMessage.renumbered renumber)) := by
  have available : (GraphicsSceneDisplay.renumbered renumber display).isUpdateAvailable =
      display.isUpdateAvailable := rfl
  unfold takePendingMessages at text ⊢
  rw [available]
  cases free : display.isUpdateAvailable with
  | false => rfl
  | true =>
      have renderer : (GraphicsSceneDisplay.renumbered renumber display).renderer =
          display.renderer := rfl
      simp only [free, Bool.not_true, Bool.false_eq_true, if_false, renderer] at text ⊢
      generalize display.renderer.updateBufferAndGetUpdateOperations platform.toPlatform scenes =
        taken at text ⊢
      obtain ⟨painted, ops⟩ := taken
      cases ops with
      | nil =>
          unfold GraphicsSceneDisplay.renumbered operationMessages
          dsimp only [List.length_nil]
          cases display.fullUpdateRequested <;> rfl
      | cons op ops =>
          have some' : 0 < (op :: ops).length := Nat.succ_pos _
          simp only [gt_iff_lt, some', if_true] at text ⊢
          simp only [GraphicsSceneDisplay.renumbered, same]
          rw [operation_messages_renumbered _ _ _ _ text]
          cases display.fullUpdateRequested <;>
            simp [DisplayMessage.renumbered]

/-- A display with other numbers does the same, as long as these have the same texts. -/
theorem perform_renumbered [DecidableEq Adapter] (same : ∀ number,
      FrameNumber.next (renumber number) = renumber (FrameNumber.next number))
    (platform : DisplayPlatform) (run : DisplayRun Adapter Number) (action : DisplayAction Adapter)
    (text : FrameNumber.text (renumber (perform platform run action).display.frame) =
      FrameNumber.text (perform platform run action).display.frame) :
    perform platform (DisplayRun.renumbered renumber run) action =
      DisplayRun.renumbered renumber (perform platform run action) := by
  have continued := @continue_renumbered _ _ _ renumber run
  cases action with
  | takePendingMessages returnBinary =>
      have taken := take_renumbered same platform run.scenes returnBinary text
      have sent : ∀ messages : List (DisplayMessage Number),
          (messages.map (DisplayMessage.renumbered renumber)).map DisplayEvent.sent =
            (messages.map DisplayEvent.sent).map (DisplayEvent.renumbered renumber) := by
        intro messages
        rw [List.map_map, List.map_map]
        rfl
      unfold perform
      dsimp only
      rw [← continued, ← sent]
      show (DisplayRun.renumbered renumber run).continue
        ((GraphicsSceneDisplay.renumbered renumber run.display).takePendingMessages platform
          run.scenes returnBinary).1 (((GraphicsSceneDisplay.renumbered renumber
            run.display).takePendingMessages platform run.scenes returnBinary).2.map .sent) = _
      rw [taken]
  | takePatch patchId =>
      unfold perform
      rw [← continued]
      rfl
  | clientReady =>
      unfold perform
      rw [← continued, ← client_ready_renumbered]
      rfl
  | requestFullUpdate forced =>
      have requested : (DisplayRun.renumbered renumber run).display.fullUpdateRequested =
          run.display.fullUpdateRequested := rfl
      simp only [perform]
      rw [← continued, ← request_full_update_renumbered, requested]
      split_ifs
      · rfl
      · rfl
  | updateCheckTimerTimeout =>
      unfold perform
      rw [← continued, ← timeout_renumbered]
      rfl
  | changeScene adapter scene rects =>
      unfold perform
      dsimp only
      show (if run.display.renderer.adapter = some adapter then _ else _) = _
      split_ifs
      · rw [← continue_renumbered, ← renderer_slot_renumbered]
        rfl
      · rfl
  | resize width height =>
      unfold perform
      rw [← continued, ← renderer_slot_renumbered]
      rfl
  | pushFullFrame image =>
      unfold perform
      rw [← continued, ← renderer_slot_renumbered]
      rfl
  | destroyAdapter =>
      unfold perform
      rw [← continued, ← renderer_slot_renumbered]
      rfl
  | setEncoderSettings settings =>
      unfold perform
      rw [← continued]
      rfl
  | setComparerSettings settings =>
      unfold perform
      rw [← continued, ← renderer_slot_renumbered]
      rfl

end Renumbering

section Counting

variable [DecidableEq Adapter] [FrameNumber Number] (platform : DisplayPlatform)

def ends (log : List (DisplayEvent Number)) : List Number := log.filterMap endFrame

def sendsFrame (run : DisplayRun Adapter Number) : DisplayAction Adapter → Bool
  | .takePendingMessages _ => run.display.isUpdateAvailable &&
      !(run.display.renderer.updateBufferAndGetUpdateOperations platform.toPlatform
        run.scenes).2.isEmpty
  | _ => false

omit [DecidableEq Adapter] in
theorem take_ends {scenes : Adapter → Scene} {returnBinary : Bool}
    {display after : GraphicsSceneDisplay Adapter Number} {ops : List UpdateOperation}
    {messages : List (DisplayMessage Number)}
    (takes : TakesFrame platform scenes returnBinary display after ops messages) :
    ends (messages.map .sent) = if ops = [] then [] else [after.frame] := by
  unfold ends
  rw [takes.sent, List.map_append, List.map_append, List.filterMap_append, List.filterMap_append,
    quiet_end_frames _ (operation_messages_ends _ _ _ _ _ _ _), List.append_nil]
  have reset : (List.map DisplayEvent.sent (if display.fullUpdateRequested = true then
      [.fullUpdate after.frame] else [])).filterMap endFrame = ([] : List Number) := by
    split_ifs
    · rfl
    · rfl
  rw [reset, List.nil_append]
  split_ifs
  · rfl
  · rfl

theorem perform_sends (run : DisplayRun Adapter Number) (action : DisplayAction Adapter) :
    (perform platform run action).display.frame = (if sendsFrame platform run action then
        FrameNumber.next run.display.frame else run.display.frame) ∧
      ends (perform platform run action).log = ends run.log ++
        if sendsFrame platform run action then [FrameNumber.next run.display.frame] else [] := by
  have quiet : ∀ (display : GraphicsSceneDisplay Adapter Number) (events : List (DisplayEvent Number)),
      ends events = [] → ends (run.continue display events).log = ends run.log ++ [] := by
    intro display events none
    unfold ends at none ⊢
    rw [DisplayRun.continue, List.filterMap_append, none]
  cases action with
  | takePendingMessages returnBinary =>
      rcases take_pending_cases platform run.scenes returnBinary run.display with
        ⟨held, unchanged⟩ | ⟨available, ops, takes⟩
      · simp only [perform, sendsFrame, held, unchanged, Bool.false_and, Bool.false_eq_true, if_false]
        exact ⟨rfl, quiet _ [] rfl⟩
      · have sent := take_ends platform takes
        simp only [perform, sendsFrame, available, Bool.true_and, ← takes.operations]
        unfold ends at sent ⊢
        rw [DisplayRun.continue, List.filterMap_append, sent]
        have number : (run.display.takePendingMessages platform run.scenes returnBinary).1.frame =
            if ops = [] then run.display.frame else FrameNumber.next run.display.frame := by
          rw [takes.same]
        rw [number]
        cases ops with
        | nil => exact ⟨rfl, rfl⟩
        | cons op ops => exact ⟨rfl, rfl⟩
  | takePatch patchId => exact ⟨rfl, quiet _ [_] rfl⟩
  | clientReady =>
      simp only [perform, sendsFrame, client_ready_eq]
      exact ⟨rfl, quiet _ [.ready] rfl⟩
  | requestFullUpdate forced =>
      simp only [perform, sendsFrame, request_full_update_eq, Bool.false_eq_true, if_false]
      constructor
      · show (if run.display.fullUpdateRequested = true then run.display else _).frame = _
        cases run.display.fullUpdateRequested with
        | true => rfl
        | false => rfl
      · apply quiet
        split_ifs
        · rfl
        · rfl
  | updateCheckTimerTimeout =>
      simp only [perform, sendsFrame, updateCheckTimerTimeout, Bool.false_eq_true, if_false]
      constructor
      · split_ifs
        · rfl
        · rfl
      · exact quiet _ [] rfl
  | changeScene adapter scene rects =>
      simp only [perform, sendsFrame, Bool.false_eq_true, if_false]
      split_ifs
      · rw [renderer_slot_eq]
        exact ⟨rfl, quiet run.display [] rfl⟩
      · exact ⟨rfl, (List.append_nil _).symm⟩
  | resize width height =>
      simp only [perform, sendsFrame, renderer_slot_eq]
      exact ⟨rfl, quiet _ [] rfl⟩
  | pushFullFrame image =>
      simp only [perform, sendsFrame, renderer_slot_eq]
      exact ⟨rfl, quiet _ [] rfl⟩
  | destroyAdapter =>
      simp only [perform, sendsFrame, renderer_slot_eq]
      exact ⟨rfl, quiet _ [] rfl⟩
  | setEncoderSettings settings => exact ⟨rfl, quiet _ [] rfl⟩
  | setComparerSettings settings =>
      simp only [perform, sendsFrame, renderer_slot_eq]
      exact ⟨rfl, quiet _ [] rfl⟩

structure Counting (counting : Nat → Number) : Prop where
  zero : counting 0 = FrameNumber.zero
  next : ∀ number, FrameNumber.next (counting number) = counting (number + 1)

/-- The frames sent so far are the first ones. -/
structure Counted (counting : Nat → Number) (run : DisplayRun Adapter Number) : Prop where
  frame : run.display.frame = counting (ends run.log).length
  ends : ends run.log = (List.range (ends run.log).length).map fun index => counting (index + 1)

theorem counted_perform {counting : Nat → Number} (counts : Counting counting)
    {run : DisplayRun Adapter Number} (counted : Counted counting run)
    (action : DisplayAction Adapter) : Counted counting (perform platform run action) := by
  obtain ⟨frame, sent⟩ := perform_sends platform run action
  rw [counted.frame, counts.next] at frame sent
  constructor
  · rw [frame, sent, List.length_append]
    split_ifs
    · rfl
    · rfl
  · rw [sent, List.length_append]
    split_ifs
    · rw [List.length_singleton, List.range_succ, List.map_append, ← counted.ends]
      rfl
    · rw [List.length_nil, Nat.add_zero, ← counted.ends, List.append_nil]

theorem reach_counted {counting : Nat → Number} (counts : Counting counting)
    {run : DisplayRun Adapter Number}
    (reached : Reach (DisplayStep platform) always (Constructed platform) run) :
    Counted counting run := by
  apply Reach.invariant _ _ reached
  · intro start begins
    obtain ⟨id, adapter, same, logEmpty⟩ := begins
    constructor
    · rw [same, logEmpty]
      exact counts.zero.symm
    · rw [logEmpty]
      rfl
  · intro before action after counted _ taken
    unfold DisplayStep at taken
    subst taken
    exact counted_perform platform counts counted action

end Counting

section Ints

theorem nat_counting : Counting (id : Nat → Nat) where
  zero := rfl
  next _ := rfl

theorem int_counting : Counting Int32.ofNat where
  zero := rfl
  next number := (Int32.ofNat_add number 1).symm

theorem int_text {number : Nat} (few : number < 2147483648) :
    FrameNumber.text (Int32.ofNat number) = FrameNumber.text number := by
  show (Int32.ofNat number).toInt.repr = Nat.repr number
  rw [Int32.toInt_ofNat_of_lt few]
  rfl

theorem int_ordered {first second : Nat} (less : first < second) (few : second < 2147483648) :
    Int32.ofNat first < Int32.ofNat second := by
  rw [Int32.lt_iff_toInt_lt, Int32.toInt_ofNat_of_lt (less.trans few), Int32.toInt_ofNat_of_lt few]
  exact Int.ofNat_lt.mpr less

theorem ends_renumbered {renumber : Number → Other} (log : List (DisplayEvent Number)) :
    ends (log.map (DisplayEvent.renumbered renumber)) = (ends log).map renumber := by
  unfold ends
  rw [List.filterMap_map, List.map_filterMap]
  congr 1
  funext event
  cases event with
  | sent message => cases message <;> rfl
  | tookPatch patchId patch => rfl
  | ready => rfl
  | forcedFullUpdate => rfl

variable [DecidableEq Adapter] (platform : DisplayPlatform)

omit [DecidableEq Adapter] in
theorem sends_renumbered {renumber : Number → Other} (run : DisplayRun Adapter Number)
    (action : DisplayAction Adapter) :
    sendsFrame platform (DisplayRun.renumbered renumber run) action =
      sendsFrame platform run action := by
  cases action <;> rfl

/-- Up to 2^31 - 1 frames a run is one whose frames are counted by natural numbers. -/
theorem run_renumbered {run : DisplayRun Adapter Int32}
    (reached : Reach (DisplayStep platform) always (Constructed platform) run)
    (few : (ends run.log).length < 2147483648) :
    ∃ natural : DisplayRun Adapter,
      Reach (DisplayStep platform) always (Constructed platform) natural ∧
        run = DisplayRun.renumbered Int32.ofNat natural := by
  induction reached with
  | @start state begins =>
      obtain ⟨id, adapter, same, logEmpty⟩ := begins
      refine ⟨⟨create platform state.scenes id (some adapter), state.scenes, []⟩,
        .start ⟨id, adapter, rfl, rfl⟩, ?_⟩
      obtain ⟨display, scenes, log⟩ := state
      dsimp only at same logEmpty
      rw [same, logEmpty]
      rfl
  | @next before after action _ _ taken induction =>
      unfold DisplayStep at taken
      rw [taken, (perform_sends platform before action).2, List.length_append] at few
      obtain ⟨natural, reached, rfl⟩ := induction (by omega)
      refine ⟨perform platform natural action, reached.next trivial rfl, ?_⟩
      rw [taken]
      apply perform_renumbered fun number => (Int32.ofNat_add number 1).symm
      apply int_text
      have counted := reach_counted platform nat_counting reached
      have length : (ends (DisplayRun.renumbered Int32.ofNat natural).log).length =
          natural.display.frame := by
        rw [counted.frame]
        show (ends (natural.log.map (DisplayEvent.renumbered Int32.ofNat))).length = _
        rw [ends_renumbered, List.length_map]
        rfl
      rw [length, sends_renumbered] at few
      rw [(perform_sends platform natural action).1]
      split_ifs at few ⊢
      · exact few
      · exact few

end Ints

section Logs

variable {renumber : Number → Other} {log : List (DisplayEvent Number)}

theorem split_renumbered {first second : DisplayEvent Other}
    {earlier between later : List (DisplayEvent Other)}
    (split : log.map (DisplayEvent.renumbered renumber) =
      earlier ++ first :: between ++ second :: later) :
    ∃ before one middle two after, log = before ++ one :: middle ++ two :: after ∧
      DisplayEvent.renumbered renumber one = first ∧ DisplayEvent.renumbered renumber two = second ∧
      middle.map (DisplayEvent.renumbered renumber) = between := by
  obtain ⟨front, back, same, frontMapped, backMapped⟩ := List.map_eq_append_iff.mp split
  obtain ⟨two, after, rfl, twoMapped, _⟩ := List.map_eq_cons_iff.mp backMapped
  obtain ⟨before, rest, rfl, _, restMapped⟩ := List.map_eq_append_iff.mp frontMapped
  obtain ⟨one, middle, rfl, oneMapped, middleMapped⟩ := List.map_eq_cons_iff.mp restMapped
  exact ⟨before, one, middle, two, after, same, oneMapped, twoMapped, middleMapped⟩

theorem ready_renumbered :
    .ready ∈ log.map (DisplayEvent.renumbered renumber) ↔ .ready ∈ log := by
  constructor
  · intro member
    obtain ⟨event, inside, same⟩ := List.mem_map.mp member
    cases event <;> cases same
    exact inside
  · exact fun member => List.mem_map.mpr ⟨_, member, rfl⟩

theorem forced_renumbered :
    .forcedFullUpdate ∈ log.map (DisplayEvent.renumbered renumber) ↔ .forcedFullUpdate ∈ log := by
  constructor
  · intro member
    obtain ⟨event, inside, same⟩ := List.mem_map.mp member
    cases event <;> cases same
    exact inside
  · exact fun member => List.mem_map.mpr ⟨_, member, rfl⟩

theorem took_renumbered {patchId : String} {patch : Option GraphicsSceneFramePatch} :
    .tookPatch patchId patch ∈ log.map (DisplayEvent.renumbered renumber) ↔
      .tookPatch patchId patch ∈ log := by
  constructor
  · intro member
    obtain ⟨event, inside, same⟩ := List.mem_map.mp member
    cases event <;> cases same
    exact inside
  · exact fun member => List.mem_map.mpr ⟨_, member, rfl⟩

theorem end_renumbered {event : DisplayEvent Number} {number : Other}
    (same : DisplayEvent.renumbered renumber event = .sent (.frameEnd number)) :
    ∃ frame, event = .sent (.frameEnd frame) ∧ renumber frame = number := by
  cases event with
  | sent message =>
      cases message <;> cases same
      exact ⟨_, rfl, rfl⟩
  | tookPatch patchId patch => cases same
  | ready => cases same
  | forcedFullUpdate => cases same

theorem announced_renumbered {event : DisplayEvent Number} {number : Other} {rect : QRect}
    {artefactMargin : Int} {mimeType patchId : String}
    (same : DisplayEvent.renumbered renumber event =
      .sent (.dI number rect artefactMargin mimeType (.fetch patchId))) :
    ∃ frame, event = .sent (.dI frame rect artefactMargin mimeType (.fetch patchId)) := by
  cases event with
  | sent message =>
      cases message <;> cases same
      exact ⟨_, rfl⟩
  | tookPatch patchId patch => cases same
  | ready => cases same
  | forcedFullUpdate => cases same

theorem controlled_renumbered [LT Number] [LT Other] {run : DisplayRun Adapter Number}
    (controlled : FlowControlled run)
    (ordered : ∀ first ∈ ends run.log, ∀ second ∈ ends run.log, first < second →
      renumber first < renumber second) : FlowControlled (DisplayRun.renumbered renumber run) where
  backPressure := controlled.backPressure
  acknowledged := by
    intro earlier between later first second split
    obtain ⟨before, one, middle, two, after, same, oneEnd, twoEnd, rfl⟩ := split_renumbered split
    obtain ⟨_, rfl, _⟩ := end_renumbered oneEnd
    obtain ⟨_, rfl, _⟩ := end_renumbered twoEnd
    rw [ready_renumbered, forced_renumbered]
    exact controlled.acknowledged _ _ _ _ _ same
  ascending := by
    intro earlier between later first second split
    obtain ⟨before, one, middle, two, after, same, oneEnd, twoEnd, rfl⟩ := split_renumbered split
    obtain ⟨frame, rfl, rfl⟩ := end_renumbered oneEnd
    obtain ⟨following, rfl, rfl⟩ := end_renumbered twoEnd
    apply ordered
    · unfold ends
      rw [same]
      simp [endFrame]
    · unfold ends
      rw [same]
      simp [endFrame]
    · exact controlled.ascending _ _ _ _ _ same
  fetched := by
    intro earlier between later frame rect artefactMargin mimeType patchId patch split
    obtain ⟨before, one, middle, two, after, same, oneSent, twoTaken, rfl⟩ := split_renumbered split
    obtain ⟨number, rfl⟩ := announced_renumbered oneSent
    have took : two = .tookPatch patchId patch := by
      cases two <;> cases twoTaken
      rfl
    rw [took] at same
    simp only [ready_renumbered, forced_renumbered, took_renumbered]
    exact controlled.fetched _ _ _ _ _ _ _ _ _ same

end Logs

section Repainting

/-- The buffer is painted anew, and a pixel of the scene is not 0. -/
structure Repaints (renderer : GraphicsSceneBufferRenderer Adapter) (scenes : Adapter → Scene) : Prop
    where
  formed : WellFormed renderer
  tileable : renderer.comparer.settings.Tileable
  shows : ∃ adapter, renderer.adapter = some adapter ∧
    ∃ point ∈ renderer.workBuffer.rect, (scenes adapter).pixel point ≠ 0

variable {renderer : GraphicsSceneBufferRenderer Adapter} {scenes : Adapter → Scene}

theorem full_update_operations (platform : Platform) (repaints : Repaints renderer scenes) :
    (renderer.fullUpdate.1.updateBufferAndGetUpdateOperations platform scenes).2 ≠ [] := by
  obtain ⟨adapter, attached, point, inside, visible⟩ := repaints.shows
  have whole := well_formed_full_update repaints.formed
  have spec := full_update_spec renderer
  have repaired := (update_buffer_repairs platform scenes whole.1 (spec.2.1.trans attached)
    (spec.2.2.1 ▸ repaints.tileable)).1
  have cleared : renderer.fullUpdate.1.workBuffer.rect = renderer.workBuffer.rect := by
    rw [spec.1]
    rfl
  have painted := (paint_updates_paints platform scenes whole.1).drawn adapter
    (spec.2.1.trans attached) point (whole.2 point (cleared ▸ inside))
  intro none
  rw [none] at repaired
  obtain ⟨stroke, drawn, _⟩ := repaired.complete point (cleared ▸ inside) trivial (by
    rw [painted, spec.1]
    exact visible.symm)
  obtain ⟨op, member, _⟩ := drawn
  exact absurd member List.not_mem_nil

theorem full_update_repaints [DecidableEq Adapter] (platform : Platform)
    (repaints : Repaints renderer scenes) :
    Repaints (renderer.fullUpdate.1.updateBufferAndGetUpdateOperations platform scenes).1 scenes := by
  have whole := well_formed_full_update repaints.formed
  have spec := full_update_spec renderer
  have paints := paint_updates_paints platform scenes whole.1
  have rest := @update_buffer_rest Adapter platform ⟨renderer.fullUpdate.1, scenes⟩
  have adapter : (renderer.fullUpdate.1.updateBufferAndGetUpdateOperations platform
      scenes).1.adapter = renderer.adapter := by
    have kept := paints.adapter.trans spec.2.1
    unfold GraphicsSceneBufferRenderer.updateBufferAndGetUpdateOperations
    dsimp only
    split_ifs
    · exact kept
    · exact kept
  have rect : (renderer.fullUpdate.1.updateBufferAndGetUpdateOperations platform
      scenes).1.workBuffer.rect = renderer.workBuffer.rect := by
    refine (congrArg QImage.rect rest.2.2).trans ((QImage.same_size_rect paints.sameSize).trans ?_)
    rw [spec.1]
    rfl
  constructor
  · exact @well_formed_act Adapter _ platform ⟨renderer.fullUpdate.1, scenes⟩ whole.1
      .updateBufferAndGetUpdateOperations
  · have settings := rest.2.1.trans (congrArg ImageComparer.settings spec.2.2.1)
    exact settings ▸ repaints.tileable
  · rw [adapter, rect]
    exact repaints.shows

variable [DecidableEq Adapter] [FrameNumber Number] (platform : DisplayPlatform)

/-- The client is ready, a full update is requested, and the timer fires before the next frame. -/
def nextFullFrame : List (DisplayAction Adapter) :=
  [.clientReady, .requestFullUpdate false, .updateCheckTimerTimeout, .takePendingMessages false]

theorem next_full_frame {run : DisplayRun Adapter Number} (attached : run.display.adapter.isSome = true)
    (repaints : Repaints run.display.renderer run.scenes) :
    let after := nextFullFrame.foldl (perform platform) run
    after.display.adapter.isSome = true ∧ Repaints after.display.renderer after.scenes ∧
      (ends after.log).length = (ends run.log).length + 1 := by
  intro after
  let ready := perform platform run .clientReady
  let requested := perform platform ready (.requestFullUpdate false)
  let available := perform platform requested .updateCheckTimerTimeout
  have free : available.display = { run.display with
      updateAvailable := true, updateCheckTimerActive := false, clientReady := true, patches := []
      fullUpdateRequested := true, renderer := run.display.renderer.fullUpdate.1 } := by
    simp only [available, requested, ready, perform, DisplayRun.continue, client_ready_eq,
      request_full_update_eq, updateCheckTimerTimeout]
    rfl
  have allowed : available.display.isUpdateAvailable = true := by
    rw [free]
    unfold isUpdateAvailable
    simp only [attached, if_true]
    rfl
  have painted : available.display.renderer = run.display.renderer.fullUpdate.1 := by rw [free]
  have operations := full_update_operations platform.toPlatform repaints
  have again := full_update_repaints platform.toPlatform repaints
  rw [← painted] at operations again
  have quiet : ends available.log = ends run.log := by
    have first : ends ready.log = ends run.log ++ [] := (perform_sends platform run .clientReady).2
    have second : ends requested.log = ends ready.log ++ [] :=
      (perform_sends platform ready (.requestFullUpdate false)).2
    have third : ends available.log = ends requested.log ++ [] :=
      (perform_sends platform requested .updateCheckTimerTimeout).2
    rw [third, second, first]
    simp
  have sends : sendsFrame platform available (.takePendingMessages false) = true := by
    unfold sendsFrame
    rw [allowed, Bool.true_and, Bool.not_eq_true', List.isEmpty_eq_false_iff]
    exact operations
  rcases take_pending_cases platform available.scenes false available.display with
    ⟨held, _⟩ | ⟨_, ops, takes⟩
  · rw [allowed] at held
    cases held
  · refine ⟨?_, ?_, ?_⟩
    · show (available.display.takePendingMessages platform available.scenes false).1.adapter.isSome = _
      rw [takes.same, free]
      exact attached
    · show Repaints (available.display.takePendingMessages platform available.scenes
        false).1.renderer _
      rw [takes.renderer]
      exact again
    · have sent := (perform_sends platform available (.takePendingMessages false)).2
      rw [sends, if_pos rfl, quiet] at sent
      show (ends (perform platform available (.takePendingMessages false)).log).length = _
      rw [sent, List.length_append]
      rfl

theorem frames_sent {run : DisplayRun Adapter Number}
    (reached : Reach (DisplayStep platform) always (Constructed platform) run)
    (attached : run.display.adapter.isSome = true)
    (repaints : Repaints run.display.renderer run.scenes) (count : Nat) :
    ∃ after : DisplayRun Adapter Number,
      Reach (DisplayStep platform) always (Constructed platform) after ∧
      after.display.adapter.isSome = true ∧ Repaints after.display.renderer after.scenes ∧
      (ends after.log).length = (ends run.log).length + count := by
  induction count with
  | zero => exact ⟨run, reached, attached, repaints, rfl⟩
  | succ count induction =>
      obtain ⟨before, reachedBefore, attachedBefore, repaintsBefore, length⟩ := induction
      have next := next_full_frame platform attachedBefore repaintsBefore
      refine ⟨nextFullFrame.foldl (perform platform) before,
        reach_perform reachedBefore nextFullFrame, next.1, next.2.1, ?_⟩
      rw [next.2.2, length]
      rfl

end Repainting

section Flow

theorem ends_ascending [LT Number] {run : DisplayRun Adapter Number}
    (controlled : FlowControlled run) : (ends run.log).Pairwise (· < ·) := by
  unfold ends
  rw [List.pairwise_filterMap, List.pairwise_iff_forall_sublist]
  intro earlier later inside first firstEnd second secondEnd
  obtain ⟨front, back, same, member, rest⟩ := List.cons_sublist_iff.mp inside
  obtain ⟨before, between, rfl⟩ := List.append_of_mem member
  obtain ⟨middle, after, rfl⟩ := List.append_of_mem (List.singleton_sublist.mp rest)
  have event : ∀ {event : DisplayEvent Number} {frame : Number}, endFrame event = some frame →
      event = .sent (.frameEnd frame) := by
    intro event frame found
    unfold endFrame at found
    split at found
    · cases found
      rfl
    · cases found
  rw [event firstEnd, event secondEnd] at same
  apply controlled.ascending before (between ++ middle) after first second
  rw [same]
  simp

variable [DecidableEq Adapter] (platform : DisplayPlatform)

/-- The number of the frame 2^31 is below that of the one before it. -/
theorem numbers_fall {run : DisplayRun Adapter Int32}
    (reached : Reach (DisplayStep platform) always (Constructed platform) run)
    (many : 2147483648 ≤ (ends run.log).length) : ¬ FlowControlled run := by
  intro controlled
  have ascending := ends_ascending controlled
  rw [(reach_counted platform int_counting reached).ends, List.pairwise_map,
    List.pairwise_iff_getElem] at ascending
  have below := ascending 2147483646 2147483647 (by rw [List.length_range]; omega)
    (by rw [List.length_range]; omega) (by decide)
  rw [List.getElem_range, List.getElem_range] at below
  exact absurd below (by decide)

/-- The flow of frames is controlled in exactly the runs with fewer than 2^31 frames. -/
theorem frame_flow_controlled {run : DisplayRun Adapter Int32}
    (reached : Reach (DisplayStep platform) always (Constructed platform) run) :
    FlowControlled run ↔ (ends run.log).length < 2147483648 := by
  constructor
  · intro controlled
    by_contra many
    exact numbers_fall platform reached (Nat.le_of_not_lt many) controlled
  · intro few
    obtain ⟨natural, reachedNatural, same⟩ := run_renumbered platform reached few
    have counted := reach_counted platform nat_counting reachedNatural
    rw [same]
    apply controlled_renumbered (natural_flow_controlled platform reachedNatural)
    intro first _ second member less
    apply int_ordered less
    have length : (ends natural.log).length < 2147483648 := by
      rw [same] at few
      show (ends natural.log).length < 2147483648
      rw [← List.length_map (f := Int32.ofNat), ← ends_renumbered]
      exact few
    rw [counted.ends] at member
    obtain ⟨index, inside, rfl⟩ := List.mem_map.mp member
    exact lt_of_le_of_lt (List.mem_range.mp inside) length

end Flow

section Sample

def sampleStart : DisplayRun Unit Int32 where
  display := create DisplayPlatform.reference (fun _ => ⟨1, 1, fun _ => 0xFFFFFFFF⟩) "d" (some ())
  scenes := fun _ => ⟨1, 1, fun _ => 0xFFFFFFFF⟩
  log := []

def sampleActions : List (DisplayAction Unit) :=
  [.setEncoderSettings { EncoderSettings.default with inlineMaxBytes := 0 },
    .setComparerSettings { ComparerSettings.default with tileWidth := 1, analyzeFills := false },
    .takePendingMessages false, .takePatch "d_1_0", .clientReady, .requestFullUpdate false,
    .updateCheckTimerTimeout, .takePendingMessages false, .clientReady]

def samplePatch : GraphicsSceneFramePatch where
  id := "d_1_0"
  rect := ⟨0, 0, 0, 0⟩
  artefactMargin := 0
  data := [0xFF, 0xFF, 0xFF, 0xFF]
  mimeType := "image/bmp"
  packedAlpha := false

theorem frame_flow_controlled_sample :
    (sampleActions.foldl (perform DisplayPlatform.reference) sampleStart).display.patches = [] ∧
      (1 : Int32) < 2 ∧ samplePatch.id = "d_1_0" := by
  have reached : Reach (DisplayStep DisplayPlatform.reference) always
      (Constructed DisplayPlatform.reference)
      (sampleActions.foldl (perform DisplayPlatform.reference) sampleStart) :=
    reach_perform (Reach.start ⟨"d", (), rfl, rfl⟩) sampleActions
  have flow := frame_flow_controlled DisplayPlatform.reference reached
  have logged : (sampleActions.foldl (perform DisplayPlatform.reference) sampleStart).log =
      [.sent (.fullUpdate 1), .sent (.dI 1 ⟨0, 0, 0, 0⟩ 0 "image/bmp" (.fetch "d_1_0")),
        .sent (.frameEnd 1), .tookPatch "d_1_0" (some samplePatch), .ready,
        .sent (.fullUpdate 2), .sent (.dI 2 ⟨0, 0, 0, 0⟩ 0 "image/bmp" (.fetch "d_2_0")),
        .sent (.frameEnd 2), .ready] := by
    decide +kernel
  have controlled := flow.mpr (by rw [logged]; decide)
  refine ⟨controlled.backPressure (by decide +kernel), ?_, ?_⟩
  · exact controlled.ascending [.sent (.fullUpdate 1),
        .sent (.dI 1 ⟨0, 0, 0, 0⟩ 0 "image/bmp" (.fetch "d_1_0"))]
      [.tookPatch "d_1_0" (some samplePatch), .ready, .sent (.fullUpdate 2),
        .sent (.dI 2 ⟨0, 0, 0, 0⟩ 0 "image/bmp" (.fetch "d_2_0"))] [.ready] 1 2 logged
  · have taken := controlled.fetched [.sent (.fullUpdate 1)] [.sent (.frameEnd 1)]
      [.ready, .sent (.fullUpdate 2), .sent (.dI 2 ⟨0, 0, 0, 0⟩ 0 "image/bmp" (.fetch "d_2_0")),
        .sent (.frameEnd 2), .ready] 1 ⟨0, 0, 0, 0⟩ 0 "image/bmp" "d_1_0" (some samplePatch) logged
    exact taken.2 samplePatch rfl

/-- A white scene of one pixel is sent as often as it is asked for. -/
theorem frame_number_overflows :
    ¬ ∀ run : DisplayRun Unit Int32, Reach (DisplayStep DisplayPlatform.reference) always
      (Constructed DisplayPlatform.reference) run → FlowControlled run := by
  intro controlled
  have formed : WellFormed sampleStart.display.renderer :=
    @well_formed_act Unit _ Platform.reference
      ⟨GraphicsSceneBufferRenderer.create Platform.reference, sampleStart.scenes⟩
      (well_formed_fresh Platform.reference rfl) (.setTarget (some ()))
  have repaints : Repaints sampleStart.display.renderer sampleStart.scenes :=
    ⟨formed, ⟨by decide, by decide⟩, (), rfl, ⟨0, 0⟩, by decide, by decide⟩
  obtain ⟨after, reached, _, _, length⟩ := frames_sent DisplayPlatform.reference
    (Reach.start ⟨"d", (), rfl, rfl⟩) rfl repaints 2147483648
  exact numbers_fall DisplayPlatform.reference reached (length ▸ Nat.le_add_left _ _)
    (controlled after reached)

end Sample

end Viridity.FrameNumbers
