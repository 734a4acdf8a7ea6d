import Viridity.PatchEncoding
import Viridity.ReplayedFrames

/-!
# Replaying a dump

Runs of a display with a recorder, which may be given a file at any time. The dump replays to
the recorded buffers as long as every frame builds on the one recorded before it: the messages
tell nothing of the buffers that a full update or a new size clears in between.
-/

namespace Viridity.DumpReplay

open Viridity.QtRectangle
open Viridity.ImageAux
open Viridity.ImageComparerOpTools
open Viridity.FrameComparison
open Viridity.BufferRenderer
open Viridity.WorkBuffer
open Viridity.DamageBookkeeping
open Viridity.SceneDisplay
open Viridity.FrameFlow
open Viridity.LabelledRuns
open Viridity.TextEncoding
open Viridity.DisplayMessageText
open Viridity.PlayerPainting
open Viridity.PatchEncoding
open Viridity.DisplayDumps
open Viridity.ReplayedFrames
open GraphicsSceneBufferRenderer
open GraphicsSceneDisplay
open GraphicsSceneDisplayDumpIterator
open UpdateOperationType

set_option autoImplicit false

variable {Adapter : Type}

/-- A display with its recorder, and the frames in the file of the differential ones. -/
structure Recording (Adapter : Type) where
  run : DisplayRun Adapter
  recorder : GraphicsSceneDisplayRecorder
  frames : List RecordedFrame

/-- The slots of the display, with the clock and the order of the patches in its hash
afterwards, and the setters of its renderer and of the recorder. -/
inductive RecordAction (Adapter : Type) where
  | display (action : DisplayAction Adapter) (now : Int) (patches : List GraphicsSceneFramePatch)
  | setMinimizeDamageRegion (value : Bool)
  | setFullFrameFilename (filename : String)
  | setDiffFrameFilename (filename : String)
  | setNextFrameTimeStamp (ts : Int)

/-- The messages given to `newFrameMessagesGenerated`, if it is emitted. -/
def generated (platform : DisplayPlatform) (run : DisplayRun Adapter) :
    DisplayAction Adapter → Option (List DisplayMessage)
  | .takePendingMessages returnBinary =>
      if run.display.isUpdateAvailable then
        some (run.display.takePendingMessages platform run.scenes returnBinary).2
      else none
  | _ => none

def Recording.captured (recording : Recording Adapter) (frame : RecordedFrame) :
    Recording Adapter :=
  { recording with
    recorder := recording.recorder.displayNewFrameMessagesGenerated frame
    frames :=
      if recording.recorder.diffFrameFile.fileName = "" then recording.frames
      else recording.frames ++ [recording.recorder.stamped frame] }

def record [DecidableEq Adapter] (platform : DisplayPlatform) (decoder : Decoder)
    (recording : Recording Adapter) : RecordAction Adapter → Recording Adapter
  | .display action now patches =>
      let after := { recording with run := FrameFlow.perform platform recording.run action }
      match generated platform recording.run action with
      | some messages =>
          after.captured
            { frameTimeStamp := now
              buffer := after.run.display.renderer.workBuffer
              messages := messages.map (messageBytes decoder recording.run.display.id)
              patches := patches }
      | none => after
  | .setMinimizeDamageRegion value =>
      { recording with
        run := recording.run.continue
          { recording.run.display with
            renderer := recording.run.display.renderer.setMinimizeDamageRegion value } [] }
  | .setFullFrameFilename filename =>
      { recording with recorder := recording.recorder.setFullFrameFilename filename }
  | .setDiffFrameFilename filename =>
      { recording with recorder := recording.recorder.setDiffFrameFilename filename, frames := [] }
  | .setNextFrameTimeStamp ts =>
      { recording with recorder := recording.recorder.setNextFrameTimeStamp ts }

def RecordStep [DecidableEq Adapter] (platform : DisplayPlatform) (decoder : Decoder)
    (recording : Recording Adapter) (action : RecordAction Adapter) (after : Recording Adapter) :
    Prop :=
  (∀ act now patches, action = .display act now patches →
    patches.Perm (FrameFlow.perform platform recording.run act).display.patches) ∧
      after = record platform decoder recording action

/-- A new display, with an adapter or without one, and a new recorder. -/
def StartsRecording [DecidableEq Adapter] (platform : DisplayPlatform)
    (recording : Recording Adapter) : Prop :=
  ∃ id adapter, recording.run.display =
      GraphicsSceneDisplay.create platform recording.run.scenes id adapter ∧
    recording.run.log = [] ∧ recording.recorder = .create ∧ recording.frames = []

def Recording.lastBuffer (recording : Recording Adapter) : QImage :=
  (recording.frames.getLast?.map RecordedFrame.buffer).getD nullImage

/-- A slot is replayable unless it records a frame that is not. -/
def Replayable (platform : DisplayPlatform) (recording : Recording Adapter) :
    RecordAction Adapter → Prop
  | .display (.setComparerSettings settings) _ _ => settings.Tileable
  | .display (.takePendingMessages returnBinary) _ _ =>
      recording.run.display.isUpdateAvailable = true →
        recording.recorder.diffFrameFile.fileName ≠ "" →
          FrameReplayable platform recording.run.scenes returnBinary recording.run.display
            recording.lastBuffer
  | _ => True

/-- A renderer that compares proper images in proper tiles. -/
structure Prepared (renderer : GraphicsSceneBufferRenderer Adapter) : Prop where
  formed : WellFormed renderer
  tileable : renderer.settings.Tileable
  settings : renderer.comparer.settings = renderer.settings
  proper : ProperSize renderer.workBuffer

section Renderer

variable {platform : Platform} {stage : Stage Adapter}

theorem blank_image_proper (width height : Int) : ProperSize (blankImage width height) := by
  unfold blankImage ProperSize
  split_ifs
  · dsimp only
    omega
  · exact Iff.rfl

theorem resize_buffer_proper {buffer : QImage} (proper : ProperSize buffer) (width height : Int) :
    ProperSize (resizeBuffer buffer width height) := by
  unfold resizeBuffer resizedCopy
  split_ifs
  · exact blank_image_proper width height
  · unfold ProperSize
    dsimp only
    omega
  · exact Iff.rfl
  · exact proper

/-- A slot that leaves the comparer, the settings and the size of the work buffer. -/
theorem prepared_same {renderer after : GraphicsSceneBufferRenderer Adapter}
    (prepared : Prepared renderer) (formed : WellFormed after)
    (comparer : after.comparer.settings = renderer.comparer.settings)
    (settings : after.settings = renderer.settings)
    (work : QImage.SameSize after.workBuffer renderer.workBuffer) : Prepared after where
  formed := formed
  tileable := settings ▸ prepared.tileable
  settings := by
    rw [comparer, settings]
    exact prepared.settings
  proper := by
    unfold ProperSize
    rw [work.1, work.2]
    exact prepared.proper

theorem prepared_detached {renderer : GraphicsSceneBufferRenderer Adapter}
    (prepared : Prepared renderer) : Prepared renderer.sceneDetached where
  formed := (well_formed_detached prepared.formed).1
  tileable := prepared.tileable
  settings := prepared.settings
  proper := by
    rw [detached_work]
    exact Iff.rfl

theorem prepared_set_size {renderer : GraphicsSceneBufferRenderer Adapter}
    (prepared : Prepared renderer) (width height : Int) :
    Prepared (renderer.setSize platform width height).1 := by
  have formed := @well_formed_set_size Adapter platform ⟨renderer, fun _ => ⟨0, 0, fun _ => 0⟩⟩
    prepared.formed width height
  unfold setSize at formed ⊢
  split_ifs at formed ⊢
  · exact prepared
  · refine ⟨formed, prepared.tileable, rfl, ?_⟩
    have proper := prepared.proper
    unfold GraphicsSceneBufferRenderer.workBuffer at proper
    change ProperSize (if renderer.workIsBuffer1 then resizeBuffer renderer.buffer1 width height
      else resizeBuffer renderer.buffer2 width height)
    split_ifs at proper ⊢
    · exact resize_buffer_proper proper width height
    · exact resize_buffer_proper proper width height
  · exact prepared

variable [DecidableEq Adapter]

theorem prepared_act (prepared : Prepared stage.renderer) {action : StageAction Adapter}
    (tileable : ∀ settings, action = .setSettings settings → settings.Tileable) :
    Prepared (act platform stage action).renderer := by
  have formed := @well_formed_act Adapter _ platform stage prepared.formed action
  cases action with
  | changeScene adapter scene rects =>
      simp only [act] at formed ⊢
      split_ifs at formed ⊢
      · have rest := scene_changed_rest stage.renderer rects
        have work := (scene_changed_reports prepared.formed rects).work
        exact prepared_same prepared formed (congrArg ImageComparer.settings rest.1) rest.2
          (by rw [work]; exact ⟨rfl, rfl⟩)
      · exact prepared
  | fullUpdate =>
      have rest := @full_update_rest Adapter stage.renderer
      have size : QImage.SameSize stage.renderer.fullUpdate.1.workBuffer
          stage.renderer.workBuffer := by
        rw [rest.2.2]
        exact ⟨rfl, rfl⟩
      exact prepared_same prepared formed (congrArg ImageComparer.settings rest.1) rest.2.1 size
  | setSize width height => exact prepared_set_size prepared width height
  | setTarget adapter =>
      have attached : ∀ renderer shown, Prepared renderer →
          Prepared (assigned stage renderer shown).renderer := fun renderer shown kept =>
        ⟨well_formed_assigned kept.formed shown, kept.tileable, kept.settings, kept.proper⟩
      have detached := prepared_detached prepared
      rcases @set_target_cases Adapter _ platform stage adapter with
        same | ⟨_, renderer, origin, same⟩ | ⟨shown, renderer, _, origin, same⟩
      · rw [same]
        exact prepared
      · rw [same]
        rcases origin with kept | taken
        · rw [kept]
          exact attached _ none prepared
        · rw [taken]
          exact attached _ none detached
      · rw [same]
        rcases origin with ⟨kept, _⟩ | taken
        · rw [kept]
          exact prepared_set_size (attached _ (some shown) prepared) _ _
        · rw [taken]
          exact prepared_set_size (attached _ (some shown) detached) _ _
  | destroyAdapter =>
      have detached := prepared_detached prepared
      exact ⟨formed, detached.tileable, detached.settings, detached.proper⟩
  | pushFullFrame image =>
      simp only [act, GraphicsSceneBufferRenderer.pushFullFrame] at formed ⊢
      split_ifs at formed ⊢
      · exact prepared_same prepared formed rfl rfl ⟨rfl, rfl⟩
      · exact prepared
  | setSettings settings => exact ⟨formed, tileable settings rfl, rfl, prepared.proper⟩
  | setMinimizeDamageRegion value => exact prepared_same prepared formed rfl rfl ⟨rfl, rfl⟩
  | paintUpdatesToBuffer =>
      have paints := paint_updates_paints platform stage.scenes prepared.formed
      have rest := @paint_updates_rest Adapter platform stage.scenes stage.renderer
      have comparer := congrArg ImageComparer.settings rest.1
      rw [ImageComparer.swap_settings] at comparer
      exact prepared_same prepared formed comparer rest.2.2 paints.sameSize
  | updateBufferAndGetUpdateOperations =>
      have paints := update_buffer_paints platform stage.scenes prepared.formed
      have rest := @update_buffer_rest Adapter platform stage
      exact prepared_same prepared formed rest.2.1 rest.1 paints.sameSize

end Renderer

structure Settled (display : GraphicsSceneDisplay Adapter) : Prop where
  prepared : Prepared display.renderer
  distinct : (display.patches.map GraphicsSceneFramePatch.id).Nodup

section Display

variable {platform : DisplayPlatform} {run : DisplayRun Adapter}

theorem settled_slot {display : GraphicsSceneDisplay Adapter} (settled : Settled display)
    {outcome : GraphicsSceneBufferRenderer Adapter × Bool} (prepared : Prepared outcome.1) :
    Settled (display.rendererSlot outcome) := by
  rw [renderer_slot_eq]
  exact ⟨prepared, settled.distinct⟩

variable [DecidableEq Adapter]

theorem settled_take (settled : Settled run.display) (returnBinary : Bool) :
    Settled (run.display.takePendingMessages platform run.scenes returnBinary).1 := by
  rcases take_pending_cases platform run.scenes returnBinary run.display with
    ⟨_, unchanged⟩ | ⟨_, ops, takes⟩
  · rw [unchanged]
    exact settled
  · have patches := (congrArg GraphicsSceneDisplay.patches takes.same).trans rfl
    constructor
    · rw [takes.renderer]
      exact @prepared_act Adapter platform.toPlatform ⟨run.display.renderer, run.scenes⟩ _
        settled.prepared .updateBufferAndGetUpdateOperations (by simp)
    · rw [patches]
      exact insert_patches_distinct _ settled.distinct

theorem settled_perform (settled : Settled run.display) {action : DisplayAction Adapter}
    (tileable : ∀ settings, action = .setComparerSettings settings → settings.Tileable) :
    Settled (FrameFlow.perform platform run action).display := by
  have slot := fun staged (kept : ∀ settings, staged = .setSettings settings → settings.Tileable) =>
    @prepared_act Adapter platform.toPlatform ⟨run.display.renderer, run.scenes⟩ _
      settled.prepared staged kept
  cases action with
  | takePendingMessages returnBinary => exact settled_take settled returnBinary
  | takePatch patchId =>
      exact ⟨settled.prepared, settled.distinct.sublist (List.filter_sublist.map _)⟩
  | clientReady =>
      simp only [FrameFlow.perform, DisplayRun.continue]
      rw [client_ready_eq]
      exact ⟨settled.prepared, List.nodup_nil⟩
  | requestFullUpdate forced =>
      simp only [FrameFlow.perform, DisplayRun.continue]
      rw [request_full_update_eq]
      split_ifs
      · exact settled
      · exact ⟨slot .fullUpdate (by simp), List.nodup_nil⟩
      · exact ⟨slot .fullUpdate (by simp), settled.distinct⟩
  | updateCheckTimerTimeout =>
      simp only [FrameFlow.perform, DisplayRun.continue, updateCheckTimerTimeout]
      split_ifs
      · exact ⟨settled.prepared, settled.distinct⟩
      · exact ⟨settled.prepared, settled.distinct⟩
  | changeScene adapter scene rects =>
      have changed := slot (.changeScene adapter scene rects) (by simp)
      simp only [FrameFlow.perform, act] at changed ⊢
      split_ifs at changed ⊢
      · exact settled_slot settled changed
      · exact settled
  | resize width height => exact settled_slot settled (slot (.setSize width height) (by simp))
  | pushFullFrame image => exact settled_slot settled (slot (.pushFullFrame image) (by simp))
  | destroyAdapter =>
      exact @settled_slot Adapter run.display settled (run.display.renderer.sceneDestroyed, false)
        (slot .destroyAdapter (by simp))
  | setEncoderSettings settings => exact ⟨settled.prepared, settled.distinct⟩
  | setComparerSettings settings =>
      apply @settled_slot Adapter run.display settled
        (run.display.renderer.setSettings platform.toPlatform settings, false)
      apply slot (.setSettings settings)
      intro other same
      exact tileable other (by rw [StageAction.setSettings.inj same])

end Display

/-- The dump of a recording shows its frames. -/
structure Replays (codec : PatchCodec) (decoder : Decoder) (recording : Recording Adapter) :
    Prop where
  settled : Settled recording.run.display
  written : recording.recorder.diffFrameFile.items = dumpItems recording.frames
  named : recording.recorder.diffFrameFile.fileName = "" → recording.frames = []
  shown : ∀ count (inside : count < recording.frames.length), QImage.SamePixels
    ((recording.frames.take (count + 1)).foldl (RecordedFrame.shown codec decoder) nullImage)
    recording.frames[count].buffer

section Recording

variable {platform : DisplayPlatform} {codec : PatchCodec} {decoder : Decoder}
  {recording : Recording Adapter}

/-- What the iterator shows after all frames looks like the buffer recorded last. -/
theorem last_shown (replays : Replays codec decoder recording) :
    QImage.SamePixels
      (recording.frames.foldl (RecordedFrame.shown codec decoder) nullImage)
      recording.lastBuffer := by
  unfold Recording.lastBuffer
  by_cases empty : recording.frames = []
  · rw [empty]
    exact ⟨⟨rfl, rfl⟩, fun _ _ => rfl⟩
  · have length := List.length_pos_iff.mpr empty
    have inside : recording.frames.length - 1 < recording.frames.length := by omega
    have shown := replays.shown _ inside
    rw [List.take_of_length_le (by omega)] at shown
    rw [List.getLast?_eq_getElem?, List.getElem?_eq_getElem inside]
    exact shown

/-- A frame whose messages only ask for a full update shows what was there before. -/
theorem full_update_shown (reads : ReadsAscii decoder) {displayId : String}
    (unmarked : '>' ∉ displayId.toList) {messages : List DisplayMessage}
    (silent : ∀ message ∈ messages, ∃ frame, message = .fullUpdate frame) (image : QImage)
    (patches : List (Units × Bytes)) :
    shownFrame codec decoder image image.width image.height
      (messages.map (messageBytes decoder displayId)) patches = image := by
  have painted : (messages.map (messageBytes decoder displayId)).filterMap
      (messageOperation codec decoder patches image) = [] := by
    rw [List.filterMap_map, List.filterMap_eq_nil_iff]
    intro message member
    obtain ⟨frame, same⟩ := silent message member
    have readable : ReadableMessage (.fullUpdate frame) := trivial
    rw [same]
    exact message_operation reads unmarked readable patches image
  unfold shownFrame resized
  rw [if_neg (by simp), painted]
  rfl

theorem record_taken [DecidableEq Adapter] (returnBinary : Bool) (now : Int)
    (patches : List GraphicsSceneFramePatch)
    (available : recording.run.display.isUpdateAvailable = true) :
    record platform decoder recording (.display (.takePendingMessages returnBinary) now patches) =
      ({ recording with
        run := FrameFlow.perform platform recording.run (.takePendingMessages returnBinary)
        } : Recording Adapter).captured
        { frameTimeStamp := now
          buffer := (recording.run.display.takePendingMessages platform recording.run.scenes
            returnBinary).1.renderer.workBuffer
          messages := (recording.run.display.takePendingMessages platform recording.run.scenes
            returnBinary).2.map (messageBytes decoder recording.run.display.id)
          patches := patches } := by
  simp only [record, generated, available, if_true]
  rfl

theorem stamped_frame (recorder : GraphicsSceneDisplayRecorder) (frame : RecordedFrame) :
    (recorder.stamped frame).buffer = frame.buffer ∧ ∀ workBuffer,
      (recorder.stamped frame).shown codec decoder workBuffer =
        frame.shown codec decoder workBuffer := by
  unfold GraphicsSceneDisplayRecorder.stamped
  split_ifs
  · exact ⟨rfl, fun _ => rfl⟩
  · exact ⟨rfl, fun _ => rfl⟩

theorem replays_captured (replays : Replays codec decoder recording) {frame : RecordedFrame}
    (shown : recording.recorder.diffFrameFile.fileName ≠ "" → QImage.SamePixels
      (frame.shown codec decoder
        (recording.frames.foldl (RecordedFrame.shown codec decoder) nullImage))
      frame.buffer) : Replays codec decoder (recording.captured frame) := by
  have stamped := @stamped_frame codec decoder recording.recorder frame
  unfold Recording.captured
  by_cases unnamed : recording.recorder.diffFrameFile.fileName = ""
  · have empty := replays.named unnamed
    have items : recording.recorder.diffFrameFile.items = [] := by
      rw [replays.written, empty]
      rfl
    have file : (recording.recorder.displayNewFrameMessagesGenerated frame).diffFrameFile =
        recording.recorder.diffFrameFile := write_unnamed unnamed items _ _
    rw [if_pos unnamed]
    exact
      { settled := replays.settled
        written := (congrArg DumpFile.items file).trans replays.written
        named := fun _ => empty
        shown := replays.shown }
  · obtain ⟨items, name⟩ := @dump_items_snoc (recording.recorder.stamped frame) _ _ unnamed
      replays.written
    rw [if_neg unnamed]
    refine ⟨replays.settled, items, fun none => absurd (name.symm.trans none) unnamed, ?_⟩
    intro count inside
    rw [List.length_append, List.length_singleton] at inside
    by_cases earlier : count < recording.frames.length
    · rw [List.take_append_of_le_length (by omega), List.getElem_append_left earlier]
      exact replays.shown count earlier
    · have last : count = recording.frames.length := by omega
      rw [List.take_of_length_le (by simp [last]), List.foldl_append,
        List.getElem_append_right (by omega)]
      simp only [List.foldl_cons, List.foldl_nil, List.getElem_singleton]
      rw [stamped.1, stamped.2]
      exact shown unnamed

theorem replays_same (replays : Replays codec decoder recording) {after : Recording Adapter}
    (settled : Settled after.run.display) (recorder : after.recorder = recording.recorder)
    (frames : after.frames = recording.frames) : Replays codec decoder after where
  settled := settled
  written := by
    rw [recorder, frames]
    exact replays.written
  named := by
    rw [recorder, frames]
    exact replays.named
  shown := by
    intro count inside
    simp only [frames] at inside ⊢
    exact replays.shown count inside

theorem captured_frame_replayed (replays : Replays codec decoder recording) {frame : RecordedFrame}
    (named : recording.recorder.diffFrameFile.fileName ≠ "") {count : Nat}
    (behind : recording.frames.length = count) :
    ∃ inside : count < (recording.captured frame).frames.length,
      (replayed codec decoder (recording.captured frame).recorder.diffFrameFile.items
          (count + 1)).outputFrame =
        frame.shown codec decoder
          (recording.frames.foldl (RecordedFrame.shown codec decoder) nullImage) ∧
      (recording.captured frame).frames[count].buffer = frame.buffer := by
  have stamped := @stamped_frame codec decoder recording.recorder frame
  have frames : (recording.captured frame).frames =
      recording.frames ++ [recording.recorder.stamped frame] := by
    unfold Recording.captured
    rw [if_neg named]
  have items : (recording.captured frame).recorder.diffFrameFile.items =
      dumpItems (recording.captured frame).frames := by
    rw [frames]
    exact (dump_items_snoc named replays.written).1
  have inside : count < (recording.captured frame).frames.length := by
    rw [frames, List.length_append, behind]
    exact Nat.lt_succ_self count
  refine ⟨inside, ?_, ?_⟩
  · rw [items, replayed_frame codec decoder _ inside, frames,
      List.take_of_length_le (by simp [behind]), List.foldl_append, List.foldl_cons, List.foldl_nil,
      stamped.2]
  · simp only [frames, List.getElem_append_right (Nat.le_of_eq behind), List.getElem_singleton]
    exact stamped.1

variable [DecidableEq Adapter]

theorem replays_performed (replays : Replays codec decoder recording) (returnBinary : Bool) :
    Replays codec decoder { recording with
      run := FrameFlow.perform platform recording.run (.takePendingMessages returnBinary) } :=
  replays_same replays (settled_take replays.settled returnBinary) rfl rfl

/-- Whatever the frame builds on, it is shown on top of the frames recorded before. -/
theorem taken_frame_replayed (replays : Replays codec decoder recording) (returnBinary : Bool)
    (now : Int) (patches : List GraphicsSceneFramePatch)
    (available : recording.run.display.isUpdateAvailable = true)
    (named : recording.recorder.diffFrameFile.fileName ≠ "") {count : Nat}
    (behind : recording.frames.length = count) :
    ∃ inside : count < (record platform decoder recording
        (.display (.takePendingMessages returnBinary) now patches)).frames.length,
      (replayed codec decoder (record platform decoder recording
          (.display (.takePendingMessages returnBinary) now patches)).recorder.diffFrameFile.items
          (count + 1)).outputFrame =
        RecordedFrame.shown codec decoder
          (recording.frames.foldl (RecordedFrame.shown codec decoder) nullImage)
          { frameTimeStamp := now
            buffer := (recording.run.display.takePendingMessages platform recording.run.scenes
              returnBinary).1.renderer.workBuffer
            messages := (recording.run.display.takePendingMessages platform recording.run.scenes
              returnBinary).2.map (messageBytes decoder recording.run.display.id)
            patches := patches } ∧
      (record platform decoder recording
          (.display (.takePendingMessages returnBinary) now patches)).frames[count].buffer =
        (recording.run.display.takePendingMessages platform recording.run.scenes
          returnBinary).1.renderer.workBuffer := by
  rw [record_taken returnBinary now patches available]
  exact captured_frame_replayed (replays_performed replays returnBinary) named behind

theorem replays_taken (lossless : Lossless platform.createPatch codec) (reads : ReadsAscii decoder)
    (replays : Replays codec decoder recording) {returnBinary : Bool} {now : Int}
    {patches : List GraphicsSceneFramePatch}
    (permitted : Replayable platform recording
      (.display (.takePendingMessages returnBinary) now patches))
    (hash : patches.Perm
      (FrameFlow.perform platform recording.run (.takePendingMessages returnBinary)).display.patches) :
    Replays codec decoder
      (record platform decoder recording (.display (.takePendingMessages returnBinary) now patches)) := by
  have after := @replays_performed Adapter platform codec decoder recording _ replays returnBinary
  simp only [record, generated]
  rcases take_pending_cases platform recording.run.scenes returnBinary recording.run.display with
    ⟨unavailable, unchanged⟩ | ⟨available, ops, takes⟩
  · simp only [unavailable, Bool.false_eq_true, if_false]
    exact after
  · simp only [available, if_true]
    apply replays_captured after
    intro named
    have tileable := replays.settled.prepared.settings ▸ replays.settled.prepared.tileable
    exact taken_frame_shown lossless reads replays.settled.prepared.formed tileable
      replays.settled.prepared.proper replays.settled.distinct takes (permitted available named)
      hash (last_shown after)

theorem replays_step (lossless : Lossless platform.createPatch codec) (reads : ReadsAscii decoder)
    (replays : Replays codec decoder recording) {action : RecordAction Adapter}
    (permitted : Replayable platform recording action) {after : Recording Adapter}
    (taken : RecordStep platform decoder recording action after) : Replays codec decoder after := by
  obtain ⟨hash, same⟩ := taken
  rw [same]
  cases action with
  | display action now patches =>
      have settled := fun tileable => @settled_perform Adapter platform recording.run _
        replays.settled action tileable
      cases action with
      | takePendingMessages returnBinary =>
          exact replays_taken lossless reads replays permitted (hash _ _ _ rfl)
      | setComparerSettings settings =>
          have tileable : ∀ other, DisplayAction.setComparerSettings settings =
              (.setComparerSettings other : DisplayAction Adapter) → other.Tileable := by
            intro other equal
            rw [← DisplayAction.setComparerSettings.inj equal]
            exact permitted
          exact replays_same replays (settled tileable) rfl rfl
      | takePatch patchId => exact replays_same replays (settled (by simp)) rfl rfl
      | clientReady => exact replays_same replays (settled (by simp)) rfl rfl
      | requestFullUpdate forced => exact replays_same replays (settled (by simp)) rfl rfl
      | updateCheckTimerTimeout => exact replays_same replays (settled (by simp)) rfl rfl
      | changeScene adapter scene rects => exact replays_same replays (settled (by simp)) rfl rfl
      | resize width height => exact replays_same replays (settled (by simp)) rfl rfl
      | pushFullFrame image => exact replays_same replays (settled (by simp)) rfl rfl
      | destroyAdapter => exact replays_same replays (settled (by simp)) rfl rfl
      | setEncoderSettings settings => exact replays_same replays (settled (by simp)) rfl rfl
  | setMinimizeDamageRegion value =>
      have prepared := @prepared_act Adapter platform.toPlatform
        ⟨recording.run.display.renderer, recording.run.scenes⟩ _ replays.settled.prepared
        (.setMinimizeDamageRegion value) (by simp)
      exact replays_same replays ⟨prepared, replays.settled.distinct⟩ rfl rfl
  | setFullFrameFilename filename =>
      exact ⟨replays.settled, replays.written, replays.named, replays.shown⟩
  | setDiffFrameFilename filename =>
      exact ⟨replays.settled, rfl, fun _ => rfl, fun count inside => absurd inside (Nat.not_lt_zero _)⟩
  | setNextFrameTimeStamp ts =>
      exact ⟨replays.settled, replays.written, replays.named, replays.shown⟩

theorem replays_start (starts : StartsRecording platform recording) :
    Replays codec decoder recording := by
  obtain ⟨id, adapter, display, _, recorder, frames⟩ := starts
  have tileable : ComparerSettings.default.Tileable := ⟨by decide, by decide⟩
  let bare : GraphicsSceneBufferRenderer Adapter := .create platform.toPlatform
  have formed := @well_formed_fresh Adapter platform.toPlatform ⟨bare, recording.run.scenes⟩ rfl
  have fresh : Prepared bare := ⟨formed, tileable, rfl, Iff.rfl⟩
  have prepared := @prepared_act Adapter platform.toPlatform ⟨_, recording.run.scenes⟩ _ fresh
    (.setTarget adapter) (by simp)
  constructor
  · rw [display]
    exact ⟨prepared, List.nodup_nil⟩
  · rw [recorder, frames]
    rfl
  · exact fun _ => frames
  · intro count inside
    rw [frames] at inside
    exact absurd inside (Nat.not_lt_zero _)

end Recording

theorem reach_replays [DecidableEq Adapter] {platform : DisplayPlatform} {codec : PatchCodec}
    {decoder : Decoder} (lossless : Lossless platform.createPatch codec) (reads : ReadsAscii decoder)
    {recording : Recording Adapter}
    (reached : Reach (RecordStep platform decoder) (Replayable platform)
      (StartsRecording platform) recording) : Replays codec decoder recording := by
  apply Reach.invariant _ _ reached
  · intro start starts
    exact replays_start starts
  · intro before action after earlier permitted taken
    exact replays_step lossless reads earlier permitted taken

/-- A dump replays to the recorded buffers when every frame in it is replayable. -/
theorem recorded_frames_replayed [DecidableEq Adapter] {platform : DisplayPlatform}
    {codec : PatchCodec} {decoder : Decoder} (lossless : Lossless platform.createPatch codec)
    (reads : ReadsAscii decoder) {recording : Recording Adapter}
    (reached : Reach (RecordStep platform decoder) (Replayable platform)
      (StartsRecording platform) recording) {count : Nat}
    (inside : count < recording.frames.length) :
    QImage.SamePixels
      (replayed codec decoder recording.recorder.diffFrameFile.items (count + 1)).outputFrame
      recording.frames[count].buffer := by
  have replays := reach_replays lossless reads reached
  rw [replays.written, replayed_frame codec decoder recording.frames inside]
  exact replays.shown count inside

section Sample

def rowsPlatform : DisplayPlatform :=
  { Platform.reference with createPatch := PatchEncoding.createPatch rowsEncoder }

def onePixel (pixel : QRgb) : Scene := ⟨1, 1, fun _ => pixel⟩

def newRecording : Recording Unit where
  run :=
    { display := GraphicsSceneDisplay.create rowsPlatform (fun _ => onePixel 0xFF000000) "d" (some ())
      scenes := fun _ => onePixel 0xFF000000
      log := [] }
  recorder := .create
  frames := []

def recorded (recording : Recording Unit) (actions : List (RecordAction Unit)) : Recording Unit :=
  actions.foldl (record rowsPlatform lenientDecoder) recording

theorem recorded_single (recording : Recording Unit) (action : RecordAction Unit) :
    recorded recording [action] = record rowsPlatform lenientDecoder recording action := rfl

theorem recorded_first (recording : Recording Unit) (action : RecordAction Unit)
    (actions : List (RecordAction Unit)) :
    recorded recording (action :: actions) = recorded (recorded recording [action]) actions := rfl

def firstFrameDue : Recording Unit :=
  recorded newRecording [.setDiffFrameFilename "diff", .display (.setComparerSettings
    { ComparerSettings.default with tileWidth := 1, analyzeFills := false }) 0 []]

def firstFrameTaken : Recording Unit :=
  recorded firstFrameDue [.display (.takePendingMessages false) 1 []]

/-- The pixel becomes white, and the frame will be taken as binary data. -/
def secondFrameDue : Recording Unit :=
  recorded firstFrameTaken [.display .clientReady 1 [],
    .display (.changeScene () (onePixel 0xFFFFFFFF) [⟨0, 0, 0, 0⟩]) 1 [],
    .display .updateCheckTimerTimeout 1 []]

def secondFrameTaken : Recording Unit :=
  recorded secondFrameDue [.display (.takePendingMessages true) 2 []]

/-- The pixel becomes transparent, and a full update is requested. -/
def clearedFrameDue : Recording Unit :=
  recorded firstFrameTaken [.display .clientReady 1 [],
    .display (.changeScene () (onePixel 0) []) 1 [], .display (.requestFullUpdate false) 1 [],
    .display .updateCheckTimerTimeout 1 []]

def clearedFrameTaken : Recording Unit :=
  recorded clearedFrameDue [.display (.takePendingMessages false) 2 []]

theorem reach_slot {allowed : Recording Unit → RecordAction Unit → Prop} {recording : Recording Unit}
    (reached : Reach (RecordStep rowsPlatform lenientDecoder) allowed (StartsRecording rowsPlatform)
      recording) {action : DisplayAction Unit} {now : Int}
    (permitted : allowed recording (.display action now []))
    (taken : (FrameFlow.perform rowsPlatform recording.run action).display.patches = []) :
    Reach (RecordStep rowsPlatform lenientDecoder) allowed (StartsRecording rowsPlatform)
      (recorded recording [.display action now []]) := by
  apply Reach.next reached permitted
  refine ⟨?_, rfl⟩
  intro act other patches same
  rw [← (RecordAction.display.inj same).1, ← (RecordAction.display.inj same).2.2, taken]

theorem pixel_frame_replayable {recording : Recording Unit} {returnBinary : Bool} {shown : QImage}
    (name : recording.run.display.id = "d")
    (settings : recording.run.display.encoderSettings = EncoderSettings.default)
    (size : recording.run.display.renderer.workBuffer.width = 1 ∧
      recording.run.display.renderer.workBuffer.height = 1)
    {op : UpdateOperation} (still : op.type ≠ uotMove)
    (operations : nextOperations rowsPlatform.toPlatform
      ⟨recording.run.display.renderer, recording.run.scenes⟩ = [op])
    {next : QImage} (frame : nextFrame rowsPlatform.toPlatform
      ⟨recording.run.display.renderer, recording.run.scenes⟩ = next)
    (changes : recording.run.display.renderer.workBuffer.pixel ⟨0, 0⟩ ≠ next.pixel ⟨0, 0⟩)
    (small : (createPatch rowsEncoder .default next op.srcRect).data.length < 2048)
    (colonless : utf8.unit ':' ∉ (createPatch rowsEncoder .default next op.srcRect).data) :
    FrameReplayable rowsPlatform recording.run.scenes returnBinary recording.run.display shown where
  named _ := by
    rw [name]
    decide
  updates := by
    intro found member _
    rw [operations, List.mem_singleton] at member
    rw [frame, settings, member]
    have inlined : isInline EncoderSettings.default (createPatch rowsEncoder .default next op.srcRect) = true := by
      unfold isInline
      rw [Bool.or_eq_true, decide_eq_true_iff]
      left
      change (((createPatch rowsEncoder .default next op.srcRect).data.length : Nat) : Int) < 2048
      exact_mod_cast small
    refine ⟨Or.inl rfl, ?_⟩
    change ReadsPayload EncoderSettings.default returnBinary _ (createPatch rowsEncoder .default next op.srcRect)
    unfold ReadsPayload
    rw [if_pos inlined]
    exact fun _ => colonless
  alike :=
    { unchanged := by
        intro point inside same
        have origin : point = ⟨0, 0⟩ := by
          rw [QImage.mem_rect, size.1, size.2] at inside
          apply QPoint.ext_coordinates
          · simp only
            omega
          · simp only
            omega
        rw [origin, frame] at same
        exact absurd same changes
      moves := by
        intro found member moves
        rw [operations, List.mem_singleton] at member
        rw [member] at moves
        exact absurd moves still }

theorem first_frame_replayable :
    FrameReplayable rowsPlatform firstFrameDue.run.scenes false firstFrameDue.run.display
      firstFrameDue.lastBuffer := by
  apply @pixel_frame_replayable firstFrameDue _ _ (by decide +kernel) (by decide +kernel)
    (by decide +kernel) ⟨uotUpdate, ⟨0, 0, 0, 0⟩, ⟨0, 0⟩, none⟩ (by decide) (by decide +kernel) _ rfl
  · decide +kernel
  · decide +kernel
  · decide +kernel

theorem second_frame_replayable :
    FrameReplayable rowsPlatform secondFrameDue.run.scenes true secondFrameDue.run.display
      secondFrameDue.lastBuffer := by
  apply @pixel_frame_replayable secondFrameDue _ _ (by decide +kernel) (by decide +kernel)
    (by decide +kernel) ⟨uotUpdate, ⟨0, 0, 0, 0⟩, ⟨0, 0⟩, none⟩ (by decide) (by decide +kernel) _ rfl
  · decide +kernel
  · decide +kernel
  · decide +kernel

theorem first_frame_reached :
    Reach (RecordStep rowsPlatform lenientDecoder) (Replayable rowsPlatform)
      (StartsRecording rowsPlatform) firstFrameTaken := by
  have new : Reach (RecordStep rowsPlatform lenientDecoder) (Replayable rowsPlatform)
      (StartsRecording rowsPlatform) newRecording := .start ⟨"d", some (), rfl, rfl, rfl, rfl⟩
  have named : Reach (RecordStep rowsPlatform lenientDecoder) (Replayable rowsPlatform)
      (StartsRecording rowsPlatform) (recorded newRecording [.setDiffFrameFilename "diff"]) := by
    have permitted : Replayable rowsPlatform newRecording (.setDiffFrameFilename "diff") := trivial
    apply Reach.next new permitted
    refine ⟨?_, rfl⟩
    intro act now patches same
    cases same
  have due : Reach (RecordStep rowsPlatform lenientDecoder) (Replayable rowsPlatform)
      (StartsRecording rowsPlatform) firstFrameDue :=
    reach_slot named ⟨by decide, by decide⟩ (by decide +kernel)
  exact reach_slot due (fun _ _ => first_frame_replayable) (by decide +kernel)

theorem second_frame_reached :
    Reach (RecordStep rowsPlatform lenientDecoder) (Replayable rowsPlatform)
      (StartsRecording rowsPlatform) secondFrameTaken := by
  have ready := @reach_slot _ _ first_frame_reached .clientReady 1 trivial (by decide +kernel)
  have changed := @reach_slot _ _ ready
    (.changeScene () (onePixel 0xFFFFFFFF) [⟨0, 0, 0, 0⟩]) 1 trivial (by decide +kernel)
  have due : Reach (RecordStep rowsPlatform lenientDecoder) (Replayable rowsPlatform)
      (StartsRecording rowsPlatform) secondFrameDue := by
    unfold secondFrameDue
    rw [recorded_first, recorded_first]
    exact @reach_slot _ _ changed .updateCheckTimerTimeout 1 trivial (by decide +kernel)
  exact @reach_slot _ secondFrameDue due (.takePendingMessages true) 2
    (fun _ _ => second_frame_replayable) (by decide +kernel)

theorem two_frames_replayed : ∃ inside : 1 < secondFrameTaken.frames.length,
    QImage.SamePixels
      (replayed rowsCodec lenientDecoder secondFrameTaken.recorder.diffFrameFile.items 2).outputFrame
      secondFrameTaken.frames[1].buffer := by
  have inside : 1 < secondFrameTaken.frames.length := by decide +kernel
  exact ⟨inside,
    recorded_frames_replayed rows_lossless lenient_reads second_frame_reached inside⟩

/-- The frame behind a full update that clears a pixel the scene has made transparent: nothing is
left to be sent, and the player keeps the pixel. -/
theorem cleared_pixel_not_replayed :
    Lossless rowsPlatform.createPatch rowsCodec ∧ ReadsAscii lenientDecoder ∧
      Reach (RecordStep rowsPlatform lenientDecoder) always (StartsRecording rowsPlatform)
        clearedFrameTaken ∧
      ∃ inside : 1 < clearedFrameTaken.frames.length, ¬ QImage.SamePixels
        (replayed rowsCodec lenientDecoder
          clearedFrameTaken.recorder.diffFrameFile.items 2).outputFrame
        clearedFrameTaken.frames[1].buffer := by
  have ready := @reach_slot _ _ first_frame_reached .clientReady 1 trivial (by decide +kernel)
  have changed := @reach_slot _ _ ready (.changeScene () (onePixel 0) []) 1 trivial
    (by decide +kernel)
  have requested := @reach_slot _ _ changed (.requestFullUpdate false) 1 trivial
    (by decide +kernel)
  have due : Reach (RecordStep rowsPlatform lenientDecoder) (Replayable rowsPlatform)
      (StartsRecording rowsPlatform) clearedFrameDue := by
    unfold clearedFrameDue
    rw [recorded_first, recorded_first, recorded_first]
    exact @reach_slot _ _ requested .updateCheckTimerTimeout 1 trivial (by decide +kernel)
  have everywhere : Reach (RecordStep rowsPlatform lenientDecoder) always
      (StartsRecording rowsPlatform) clearedFrameDue := due.mono fun _ _ _ => trivial
  refine ⟨rows_lossless, lenient_reads, @reach_slot _ _ everywhere (.takePendingMessages false) 2
    trivial (by decide +kernel), ?_⟩
  have replays := reach_replays rows_lossless lenient_reads due
  have available : clearedFrameDue.run.display.isUpdateAvailable = true := by decide +kernel
  have named : clearedFrameDue.recorder.diffFrameFile.fileName ≠ "" := by decide +kernel
  have single : clearedFrameDue.frames.length = 1 := by decide +kernel
  obtain ⟨inside, shown, buffer⟩ := @taken_frame_replayed Unit rowsPlatform rowsCodec lenientDecoder
    clearedFrameDue _ replays false 2 [] available named 1 single
  unfold clearedFrameTaken
  rw [recorded_single]
  refine ⟨inside, ?_⟩
  intro same
  rw [shown, buffer] at same
  -- the player has the black pixel, the buffer a transparent one
  have kept : clearedFrameDue.lastBuffer.width = 1 ∧ clearedFrameDue.lastBuffer.height = 1 ∧
      clearedFrameDue.lastBuffer.pixel ⟨0, 0⟩ = 0xFF000000 := by decide +kernel
  have sent : (clearedFrameDue.run.display.takePendingMessages rowsPlatform
      clearedFrameDue.run.scenes false).2 = [.fullUpdate 1] := by decide +kernel
  have cleared : (clearedFrameDue.run.display.takePendingMessages rowsPlatform
        clearedFrameDue.run.scenes false).1.renderer.workBuffer.width = 1 ∧
      (clearedFrameDue.run.display.takePendingMessages rowsPlatform
        clearedFrameDue.run.scenes false).1.renderer.workBuffer.height = 1 ∧
      (clearedFrameDue.run.display.takePendingMessages rowsPlatform
        clearedFrameDue.run.scenes false).1.renderer.workBuffer.pixel ⟨0, 0⟩ = 0 := by
    decide +kernel
  have last := last_shown replays
  generalize clearedFrameDue.frames.foldl (RecordedFrame.shown rowsCodec lenientDecoder)
    nullImage = image at last same
  have size : image.width = 1 ∧ image.height = 1 :=
    ⟨last.1.1.trans kept.1, last.1.2.trans kept.2.1⟩
  have silent := @full_update_shown rowsCodec lenientDecoder lenient_reads "d" (by decide)
    [.fullUpdate 1] (fun message member => ⟨1, List.mem_singleton.mp member⟩) image
    (([] : List GraphicsSceneFramePatch).map storedEntry).reverse
  have name : clearedFrameDue.run.display.id = "d" := by decide +kernel
  rw [size.1, size.2] at silent
  unfold RecordedFrame.shown at same
  dsimp only at same
  rw [sent, name, cleared.1, cleared.2.1, silent] at same
  have inside : (⟨0, 0⟩ : QPoint) ∈ image.rect := by
    rw [QImage.mem_rect, size.1, size.2]
    decide
  have black := (last.2 _ inside).symm.trans (same.2 _ inside)
  rw [kept.2.2, cleared.2.2] at black
  exact absurd black (by decide)

end Sample

end Viridity.DumpReplay
