import Viridity.SceneDisplay

/-!
# Frame flow control

Runs of one display with an adapter, recorded as a log of the messages sent, the
patches taken, the `ready()` of the client and the forced full updates that took
effect. A display sends no second frame before one of the last two.
-/

namespace Viridity.FrameFlow

open Viridity.QtRectangle
open Viridity.ImageAux
open Viridity.ImageComparerOpTools
open Viridity.FrameComparison
open Viridity.BufferRenderer
open Viridity.SceneDisplay
open Viridity.EventLogs
open Viridity.LabelledRuns
open GraphicsSceneDisplay
open UpdateOperationType

set_option autoImplicit false

variable {Adapter Number : Type}

inductive DisplayAction (Adapter : Type) where
  | takePendingMessages (returnBinary : Bool)
  | takePatch (patchId : String)
  | clientReady
  | requestFullUpdate (forced : Bool)
  | updateCheckTimerTimeout
  | changeScene (adapter : Adapter) (scene : Scene) (rects : List QRect)
  | resize (width height : Int)
  | pushFullFrame (image : QImage)
  | destroyAdapter
  | setEncoderSettings (settings : EncoderSettings)
  | setComparerSettings (settings : ComparerSettings)

inductive DisplayEvent (Number : Type := Nat) where
  | sent (message : DisplayMessage Number)
  | tookPatch (patchId : String) (patch : Option GraphicsSceneFramePatch)
  | ready
  | forcedFullUpdate
deriving DecidableEq

structure DisplayRun (Adapter : Type) (Number : Type := Nat) where
  display : GraphicsSceneDisplay Adapter Number
  scenes : Adapter → Scene
  log : List (DisplayEvent Number)

/-- The display continues with `display` and the events are recorded. -/
def DisplayRun.continue (run : DisplayRun Adapter Number)
    (display : GraphicsSceneDisplay Adapter Number) (events : List (DisplayEvent Number)) :
    DisplayRun Adapter Number :=
  { run with display := display, log := run.log ++ events }

def perform [DecidableEq Adapter] [FrameNumber Number] (platform : DisplayPlatform)
    (run : DisplayRun Adapter Number) : DisplayAction Adapter → DisplayRun Adapter Number
  | .takePendingMessages returnBinary =>
      let outcome := run.display.takePendingMessages platform run.scenes returnBinary
      run.continue outcome.1 (outcome.2.map .sent)
  | .takePatch patchId =>
      let outcome := run.display.takePatch patchId
      run.continue outcome.2 [.tookPatch patchId outcome.1]
  | .clientReady => run.continue run.display.handleClientReady [.ready]
  | .requestFullUpdate forced =>
      run.continue (run.display.requestFullUpdate forced)
        (if forced && !run.display.fullUpdateRequested then [.forcedFullUpdate] else [])
  | .updateCheckTimerTimeout => run.continue run.display.updateCheckTimerTimeout.1 []
  | .changeScene adapter scene rects =>
      let changed := { run with scenes := Function.update run.scenes adapter scene }
      if run.display.renderer.adapter = some adapter then
        changed.continue (run.display.rendererSlot (run.display.renderer.sceneChanged rects)) []
      else changed
  | .resize width height =>
      run.continue
        (run.display.rendererSlot (run.display.renderer.setSize platform.toPlatform width height)) []
  | .pushFullFrame image =>
      run.continue (run.display.rendererSlot (run.display.renderer.pushFullFrame image)) []
  | .destroyAdapter =>
      run.continue (run.display.rendererSlot (run.display.renderer.sceneDestroyed, false)) []
  | .setEncoderSettings settings =>
      run.continue { run.display with encoderSettings := settings } []
  | .setComparerSettings settings =>
      run.continue
        (run.display.rendererSlot (run.display.renderer.setSettings platform.toPlatform settings, false))
        []

def DisplayStep [DecidableEq Adapter] [FrameNumber Number] (platform : DisplayPlatform)
    (run : DisplayRun Adapter Number) (action : DisplayAction Adapter)
    (after : DisplayRun Adapter Number) : Prop :=
  after = perform platform run action

def Constructed [DecidableEq Adapter] [FrameNumber Number] (platform : DisplayPlatform)
    (run : DisplayRun Adapter Number) : Prop :=
  ∃ id adapter, run.display = create platform run.scenes id (some adapter) ∧ run.log = []

def patchEntry : DisplayEvent Number → Option (Entry String)
  | .sent (.dI _ _ _ _ (.fetch patchId)) => some (.add patchId)
  | .tookPatch patchId _ => some (.take patchId)
  | .ready => some .reset
  | .forcedFullUpdate => some .reset
  | _ => none

/-- What an event does to the frame waiting to be acknowledged. -/
def endEntry : DisplayEvent Number → Option (Entry Unit)
  | .sent (.frameEnd _) => some (.add ())
  | .ready => some .reset
  | .forcedFullUpdate => some .reset
  | _ => none

def announcedId : DisplayMessage Number → Option String
  | .dI _ _ _ _ (.fetch patchId) => some patchId
  | .dI _ _ _ _ (.inline _ _) => none
  | .fullUpdate _ => none
  | .mI _ _ _ => none
  | .fR _ _ _ => none
  | .frameEnd _ => none

def announcedIn : DisplayEvent Number → Option String
  | .sent message => announcedId message
  | _ => none

def endFrame : DisplayEvent Number → Option Number
  | .sent (.frameEnd frame) => some frame
  | _ => none

def FlowAllowed (log : List DisplayEvent) : DisplayEvent → Prop
  | .sent (.frameEnd frame) =>
      () ∉ pending (log.filterMap endEntry) ∧ ∀ earlier ∈ log.filterMap endFrame, earlier < frame
  | .tookPatch patchId patch =>
      (patch.isSome = true ↔ patchId ∈ pending (log.filterMap patchEntry)) ∧
        ∀ taken, patch = some taken → taken.id = patchId
  | _ => True

structure FlowInvariant (run : DisplayRun Adapter) : Prop where
  attached : run.display.adapter.isSome = true
  backPressure : run.display.clientReady = true → run.display.patches = []
  unacknowledged : () ∈ pending (run.log.filterMap endEntry) → run.display.clientReady = false
  frames : ∀ frame ∈ run.log.filterMap endFrame, frame ≤ run.display.frame
  stored : ∀ patchId, patchId ∈ run.display.patches.map GraphicsSceneFramePatch.id ↔
    patchId ∈ pending (run.log.filterMap patchEntry)
  named : ∀ id ∈ run.log.filterMap announcedIn, ∃ frame index,
    frame ≤ run.display.frame ∧ id = patchId run.display.id frame index
  distinct : (run.log.filterMap announcedIn).Nodup
  lawful : Lawful FlowAllowed run.log

section PatchIds

theorem repr_injective {first second : Nat} (same : Nat.repr first = Nat.repr second) :
    first = second := by
  have digits := congrArg String.toList same
  rw [Nat.toList_repr, Nat.toList_repr] at digits
  have numbers := congrArg (fun list => Nat.ofDigitChars 10 list 0) digits
  simpa only [Nat.ofDigitChars_ten_toDigits] using numbers

/-- Frame and index can be read off a patch identifier. -/
theorem patch_id_injective {displayId : String} {firstFrame firstIndex secondFrame secondIndex : Nat}
    (same : patchId displayId firstFrame firstIndex = patchId displayId secondFrame secondIndex) :
    firstFrame = secondFrame ∧ firstIndex = secondIndex := by
  have lists := congrArg String.toList same
  simp only [patchId, String.toList_append, List.append_assoc, List.append_cancel_left_eq] at lists
  have separated : ∀ number : Nat, '_' ∉ (Nat.repr number).toList := by
    intro number
    rw [Nat.toList_repr]
    exact Nat.underscore_not_in_toDigits
  have marker : "_".toList = ['_'] := rfl
  rw [marker, List.singleton_append, List.singleton_append] at lists
  have parts := (List.append_cons_inj_of_notMem (separated firstFrame)
    (separated firstIndex)).mp lists
  exact ⟨repr_injective (String.toList_injective parts.1),
    repr_injective (String.toList_injective parts.2.2)⟩

end PatchIds

section Operations

variable (createPatch : QRect → GraphicsSceneFramePatch) (settings : EncoderSettings)
variable (returnBinary : Bool) (displayId : String)

section Numbers

variable [FrameNumber Number] (frame : Number)

theorem operation_messages_announced (index : Nat) (ops : List UpdateOperation) :
    (operationMessages createPatch settings returnBinary displayId frame index ops).1.filterMap
        announcedId =
      (operationMessages createPatch settings returnBinary displayId frame index ops).2.map
        GraphicsSceneFramePatch.id := by
  induction ops generalizing index with
  | nil => rfl
  | cons op ops induction =>
      have remaining := induction (index + 1)
      cases kind : op.type with
      | uotUpdate =>
          simp only [operationMessages, kind]
          split_ifs
          · simpa [announcedId, List.filterMap_cons] using remaining
          · simpa [announcedId, List.filterMap_cons] using remaining
      | uotMove => simpa [operationMessages, kind, announcedId, List.filterMap_cons] using remaining
      | uotFill => simpa [operationMessages, kind, announcedId, List.filterMap_cons] using remaining
      | uotNoOp => simpa [operationMessages, kind] using remaining

theorem operation_messages_ends (index : Nat) (ops : List UpdateOperation) :
    ∀ message ∈ (operationMessages createPatch settings returnBinary displayId frame index ops).1,
      ∀ number, message ≠ .frameEnd number := by
  induction ops generalizing index with
  | nil =>
      intro message member
      exact absurd member List.not_mem_nil
  | cons op ops induction =>
      have remaining := induction (index + 1)
      cases kind : op.type with
      | uotUpdate =>
          simp only [operationMessages, kind]
          split_ifs
          · simpa using remaining
          · simpa using remaining
      | uotMove => simpa [operationMessages, kind] using remaining
      | uotFill => simpa [operationMessages, kind] using remaining
      | uotNoOp => simpa [operationMessages, kind] using remaining

end Numbers

theorem operation_messages_ids (frame index : Nat) (ops : List UpdateOperation) :
    (∀ patch ∈ (operationMessages createPatch settings returnBinary displayId frame index ops).2,
      ∃ position, index ≤ position ∧ patch.id = patchId displayId frame position) ∧
    ((operationMessages createPatch settings returnBinary displayId frame index ops).2.map
      GraphicsSceneFramePatch.id).Nodup := by
  induction ops generalizing index with
  | nil => simp [operationMessages]
  | cons op ops induction =>
      obtain ⟨positions, distinct⟩ := induction (index + 1)
      have later : ∀ patch ∈ (operationMessages createPatch settings returnBinary displayId frame
          (index + 1) ops).2,
          ∃ position, index ≤ position ∧ patch.id = patchId displayId frame position := by
        intro patch member
        obtain ⟨position, bound, same⟩ := positions patch member
        exact ⟨position, by omega, same⟩
      cases kind : op.type with
      | uotUpdate =>
          simp only [operationMessages, kind]
          split_ifs
          · exact ⟨later, distinct⟩
          · constructor
            · intro patch member
              rcases List.mem_cons.mp member with same | earlier
              · exact ⟨index, Nat.le_refl index, by rw [same]⟩
              · exact later patch earlier
            · rw [List.map_cons, List.nodup_cons]
              refine ⟨?_, distinct⟩
              intro member
              obtain ⟨patch, patchMember, same⟩ := List.mem_map.mp member
              obtain ⟨position, bound, named⟩ := positions patch patchMember
              have equal := (patch_id_injective (named.symm.trans same)).2
              omega
      | uotMove => exact ⟨by simpa [operationMessages, kind] using later,
          by simpa [operationMessages, kind] using distinct⟩
      | uotFill => exact ⟨by simpa [operationMessages, kind] using later,
          by simpa [operationMessages, kind] using distinct⟩
      | uotNoOp => exact ⟨by simpa [operationMessages, kind] using later,
          by simpa [operationMessages, kind] using distinct⟩

end Operations

theorem mem_insert_patches (kept patches : List GraphicsSceneFramePatch) (wanted : String) :
    wanted ∈ (kept.foldl insertPatch patches).map GraphicsSceneFramePatch.id ↔
      wanted ∈ patches.map GraphicsSceneFramePatch.id ∨
        wanted ∈ kept.map GraphicsSceneFramePatch.id := by
  induction kept generalizing patches with
  | nil => simp
  | cons patch kept induction =>
      rw [List.foldl_cons, induction]
      simp only [insertPatch, List.map_append, List.map_cons, List.map_nil, List.mem_append,
        List.mem_cons, List.not_mem_nil, or_false, List.mem_map, List.mem_filter]
      constructor
      · rintro ((⟨other, ⟨member, _⟩, same⟩ | same) | later)
        · exact Or.inl ⟨other, member, same⟩
        · exact Or.inr (Or.inl same)
        · exact Or.inr (Or.inr later)
      · rintro (⟨other, member, same⟩ | same | later)
        · by_cases replaced : other.id = patch.id
          · exact Or.inl (Or.inr (same.symm.trans replaced))
          · exact Or.inl (Or.inl ⟨other, ⟨member, by simpa using replaced⟩, same⟩)
        · exact Or.inl (Or.inr same)
        · exact Or.inr later

section Sent

variable (messages : List (DisplayMessage Number))

theorem sent_patch_entries : (messages.map DisplayEvent.sent).filterMap patchEntry =
    (messages.filterMap announcedId).map Entry.add := by
  rw [List.filterMap_map, List.map_filterMap]
  congr 1
  funext message
  cases message with
  | dI frame rect margin mimeType payload =>
      cases payload with
      | inline data base64 => rfl
      | fetch patchId => rfl
  | fullUpdate frame => rfl
  | mI frame rect dstPoint => rfl
  | fR frame rect fillColor => rfl
  | frameEnd frame => rfl

theorem sent_announced :
    (messages.map DisplayEvent.sent).filterMap announcedIn = messages.filterMap announcedId := by
  rw [List.filterMap_map]
  rfl

variable (quiet : ∀ message ∈ messages, ∀ number, message ≠ .frameEnd number)

include quiet

theorem quiet_end_entries : (messages.map DisplayEvent.sent).filterMap endEntry = [] := by
  rw [List.filterMap_map, List.filterMap_eq_nil_iff]
  intro message member
  cases message with
  | frameEnd frame => exact absurd rfl (quiet _ member frame)
  | fullUpdate frame => rfl
  | dI frame rect margin mimeType payload => rfl
  | mI frame rect dstPoint => rfl
  | fR frame rect fillColor => rfl

theorem quiet_end_frames : (messages.map DisplayEvent.sent).filterMap endFrame = [] := by
  rw [List.filterMap_map, List.filterMap_eq_nil_iff]
  intro message member
  cases message with
  | frameEnd frame => exact absurd rfl (quiet _ member frame)
  | fullUpdate frame => rfl
  | dI frame rect margin mimeType payload => rfl
  | mI frame rect dstPoint => rfl
  | fR frame rect fillColor => rfl

end Sent

theorem quiet_lawful (messages : List DisplayMessage)
    (quiet : ∀ message ∈ messages, ∀ number, message ≠ .frameEnd number) {log : List DisplayEvent}
    (lawful : Lawful FlowAllowed log) :
    Lawful FlowAllowed (log ++ messages.map DisplayEvent.sent) := by
  apply lawful_append lawful
  intro earlier event later split
  have member : event ∈ messages.map DisplayEvent.sent := by simp [split]
  rcases List.mem_map.mp member with ⟨message, messageMember, rfl⟩
  cases message with
  | frameEnd frame => exact absurd rfl (quiet _ messageMember frame)
  | fullUpdate frame => trivial
  | dI frame rect margin mimeType payload => trivial
  | mI frame rect dstPoint => trivial
  | fR frame rect fillColor => trivial

section Steps

variable {run : DisplayRun Adapter} (invariant : FlowInvariant run)

include invariant

theorem flow_same {after : DisplayRun Adapter}
    (sameAdapter : after.display.adapter = run.display.adapter)
    (sameReady : after.display.clientReady = run.display.clientReady)
    (samePatches : after.display.patches = run.display.patches)
    (sameFrame : after.display.frame = run.display.frame)
    (sameId : after.display.id = run.display.id) (sameLog : after.log = run.log) :
    FlowInvariant after where
  attached := by rw [sameAdapter]; exact invariant.attached
  backPressure := by rw [sameReady, samePatches]; exact invariant.backPressure
  unacknowledged := by rw [sameReady, sameLog]; exact invariant.unacknowledged
  frames := by rw [sameFrame, sameLog]; exact invariant.frames
  stored := by rw [samePatches, sameLog]; exact invariant.stored
  named := by rw [sameFrame, sameId, sameLog]; exact invariant.named
  distinct := by rw [sameLog]; exact invariant.distinct
  lawful := by rw [sameLog]; exact invariant.lawful

theorem flow_continue {scenes : Adapter → Scene} {display : GraphicsSceneDisplay Adapter}
    (sameAdapter : display.adapter = run.display.adapter)
    (sameReady : display.clientReady = run.display.clientReady)
    (samePatches : display.patches = run.display.patches)
    (sameFrame : display.frame = run.display.frame) (sameId : display.id = run.display.id) :
    FlowInvariant (({ run with scenes := scenes } : DisplayRun Adapter).continue display []) :=
  flow_same invariant sameAdapter sameReady samePatches sameFrame sameId (List.append_nil run.log)

theorem flow_take_patch (patchId : String) :
    FlowInvariant (run.continue (run.display.takePatch patchId).2
      [.tookPatch patchId (run.display.takePatch patchId).1]) where
  attached := invariant.attached
  backPressure := by
    intro ready
    have empty := invariant.backPressure ready
    simp [DisplayRun.continue, takePatch, empty]
  unacknowledged := by
    simp only [DisplayRun.continue, List.filterMap_append, List.filterMap_cons, endEntry,
      List.filterMap_nil, List.append_nil]
    exact invariant.unacknowledged
  frames := by
    simp only [DisplayRun.continue, List.filterMap_append, List.filterMap_cons, endFrame,
      List.filterMap_nil, List.append_nil]
    exact invariant.frames
  stored := by
    intro wanted
    have stored := invariant.stored wanted
    simp only [DisplayRun.continue, List.filterMap_append, List.filterMap_cons, patchEntry,
      List.filterMap_nil, pending_append, List.foldl_cons, List.foldl_nil, pendingAfter,
      List.mem_filter, ← stored, takePatch, List.mem_map, decide_eq_true_eq]
    constructor
    · rintro ⟨patch, ⟨member, kept⟩, same⟩
      exact ⟨⟨patch, member, same⟩, by rw [← same]; simpa using kept⟩
    · rintro ⟨⟨patch, member, same⟩, kept⟩
      exact ⟨patch, ⟨member, by rw [← same] at kept; simpa using kept⟩, same⟩
  named := by
    simp only [DisplayRun.continue, List.filterMap_append, List.filterMap_cons, announcedIn,
      List.filterMap_nil, List.append_nil]
    exact invariant.named
  distinct := by
    simp only [DisplayRun.continue, List.filterMap_append, List.filterMap_cons, announcedIn,
      List.filterMap_nil, List.append_nil]
    exact invariant.distinct
  lawful := by
    apply lawful_snoc invariant.lawful
    constructor
    · rw [← invariant.stored patchId]
      simp [takePatch, List.mem_map]
    · intro taken found
      have accepted := List.find?_some found
      simpa using accepted

/-- `ready()` and a forced full update drop the patches and acknowledge the frame. -/
theorem flow_reset {event : DisplayEvent} (kind : event = .ready ∨ event = .forcedFullUpdate)
    {display : GraphicsSceneDisplay Adapter} (sameAdapter : display.adapter = run.display.adapter)
    (empty : display.patches = []) (sameFrame : display.frame = run.display.frame)
    (sameId : display.id = run.display.id) : FlowInvariant (run.continue display [event]) := by
  have endReset : endEntry event = some .reset := by
    rcases kind with rfl | rfl
    · rfl
    · rfl
  have patchReset : patchEntry event = some .reset := by
    rcases kind with rfl | rfl
    · rfl
    · rfl
  have silent : announcedIn event = none ∧ endFrame event = none := by
    rcases kind with rfl | rfl
    · exact ⟨rfl, rfl⟩
    · exact ⟨rfl, rfl⟩
  constructor
  · rw [show (run.continue display [event]).display.adapter = run.display.adapter from sameAdapter]
    exact invariant.attached
  · intro _
    exact empty
  · simp [DisplayRun.continue, endReset, pending_append, pendingAfter]
  · simp only [DisplayRun.continue, List.filterMap_append, List.filterMap_cons, silent.2,
      List.filterMap_nil, List.append_nil, sameFrame]
    exact invariant.frames
  · simp [DisplayRun.continue, patchReset, pending_append, pendingAfter, empty]
  · simp only [DisplayRun.continue, List.filterMap_append, List.filterMap_cons, silent.1,
      List.filterMap_nil, List.append_nil, sameFrame, sameId]
    exact invariant.named
  · simp only [DisplayRun.continue, List.filterMap_append, List.filterMap_cons, silent.1,
      List.filterMap_nil, List.append_nil]
    exact invariant.distinct
  · apply lawful_snoc invariant.lawful
    rcases kind with rfl | rfl
    · trivial
    · trivial

theorem flow_sent_nothing {after : GraphicsSceneDisplay Adapter} {messages : List DisplayMessage}
    (sameAdapter : after.adapter = run.display.adapter) (sameId : after.id = run.display.id)
    (sameFrame : after.frame = run.display.frame) (samePatches : after.patches = run.display.patches)
    (free : run.display.patches = []) (acknowledged : () ∉ pending (run.log.filterMap endEntry))
    (quiet : ∀ message ∈ messages, ∀ number, message ≠ .frameEnd number)
    (announced : messages.filterMap announcedId = []) :
    FlowInvariant (run.continue after (messages.map .sent)) where
  attached := by
    rw [show (run.continue after _).display.adapter = run.display.adapter from sameAdapter]
    exact invariant.attached
  backPressure := by
    intro _
    exact samePatches.trans free
  unacknowledged := by
    simp only [DisplayRun.continue, List.filterMap_append, quiet_end_entries _ quiet,
      List.append_nil]
    intro waiting
    exact absurd waiting acknowledged
  frames := by
    simp only [DisplayRun.continue, List.filterMap_append, quiet_end_frames _ quiet,
      List.append_nil, sameFrame]
    exact invariant.frames
  stored := by
    intro patchId
    simp only [DisplayRun.continue, samePatches, List.filterMap_append, sent_patch_entries,
      announced]
    simpa using invariant.stored patchId
  named := by
    simp only [DisplayRun.continue, List.filterMap_append, sent_announced, announced, sameFrame,
      sameId]
    simpa using invariant.named
  distinct := by
    simp only [DisplayRun.continue, List.filterMap_append, sent_announced, announced]
    simpa using invariant.distinct
  lawful := quiet_lawful _ quiet invariant.lawful

theorem flow_sent_frame {after : GraphicsSceneDisplay Adapter} {messages : List DisplayMessage}
    {kept : List GraphicsSceneFramePatch} (sameAdapter : after.adapter = run.display.adapter)
    (sameId : after.id = run.display.id) (sameFrame : after.frame = run.display.frame + 1)
    (unready : after.clientReady = false)
    (samePatches : after.patches = kept.foldl insertPatch run.display.patches)
    (acknowledged : () ∉ pending (run.log.filterMap endEntry))
    (quiet : ∀ message ∈ messages, ∀ number, message ≠ .frameEnd number)
    (announced : messages.filterMap announcedId = kept.map GraphicsSceneFramePatch.id)
    (newIds : ∀ id ∈ kept.map GraphicsSceneFramePatch.id, ∃ position,
      id = patchId run.display.id after.frame position)
    (newDistinct : (kept.map GraphicsSceneFramePatch.id).Nodup) :
    FlowInvariant (run.continue after
      ((messages ++ [DisplayMessage.frameEnd after.frame]).map .sent)) := by
  have grows : run.display.frame ≤ after.frame := by
    rw [sameFrame]
    exact Nat.le_succ _
  have events : (messages ++ [DisplayMessage.frameEnd after.frame]).map DisplayEvent.sent =
      messages.map DisplayEvent.sent ++ [.sent (.frameEnd after.frame)] := by
    rw [List.map_append, List.map_cons, List.map_nil]
  rw [events]
  constructor
  · rw [show (run.continue after _).display.adapter = run.display.adapter from sameAdapter]
    exact invariant.attached
  · intro ready
    exact absurd (ready.symm.trans unready) (by simp)
  · intro _
    exact unready
  · intro number member
    simp only [DisplayRun.continue, List.filterMap_append, quiet_end_frames _ quiet,
      List.filterMap_cons, List.filterMap_nil, endFrame, List.nil_append, List.mem_append,
      List.mem_singleton] at member
    rcases member with earlier | last
    · exact Nat.le_trans (invariant.frames number earlier) grows
    · exact Nat.le_of_eq last
  · intro wanted
    simp only [DisplayRun.continue, samePatches, List.filterMap_append, sent_patch_entries,
      announced, List.filterMap_cons, List.filterMap_nil, patchEntry, List.append_nil,
      pending_append, mem_insert_patches, mem_pending_adds, invariant.stored wanted]
    exact or_comm
  · intro id member
    simp only [DisplayRun.continue, List.filterMap_append, sent_announced, announced,
      List.filterMap_cons, List.filterMap_nil, announcedIn, announcedId, List.append_nil,
      List.mem_append] at member
    rcases member with earlier | new
    · obtain ⟨frame, index, bound, named⟩ := invariant.named id earlier
      refine ⟨frame, index, Nat.le_trans bound grows, ?_⟩
      rw [named, ← sameId]
      rfl
    · obtain ⟨position, named⟩ := newIds id new
      refine ⟨after.frame, position, Nat.le_refl _, ?_⟩
      rw [named, ← sameId]
      rfl
  · simp only [DisplayRun.continue, List.filterMap_append, sent_announced, announced,
      List.filterMap_cons, List.filterMap_nil, announcedIn, announcedId, List.append_nil]
    apply List.Nodup.append invariant.distinct newDistinct
    intro id earlier new
    obtain ⟨frame, index, bound, named⟩ := invariant.named id earlier
    obtain ⟨position, renamed⟩ := newIds id new
    have sameNumber := (patch_id_injective (named.symm.trans renamed)).1
    omega
  · show Lawful FlowAllowed (run.log ++ (_ ++ _))
    rw [← List.append_assoc]
    apply lawful_snoc (quiet_lawful _ quiet invariant.lawful)
    constructor
    · rw [List.filterMap_append, quiet_end_entries _ quiet, List.append_nil]
      exact acknowledged
    · intro earlier member
      rw [List.filterMap_append, quiet_end_frames _ quiet, List.append_nil] at member
      have bound := invariant.frames earlier member
      omega

theorem flow_take {platform : DisplayPlatform} {returnBinary : Bool}
    {after : GraphicsSceneDisplay Adapter} {ops : List UpdateOperation}
    {messages : List DisplayMessage} (available : run.display.isUpdateAvailable = true)
    (takes : TakesFrame platform run.scenes returnBinary run.display after ops messages) :
    FlowInvariant (run.continue after (messages.map .sent)) := by
  have free : run.display.clientReady = true ∧ run.display.patches = [] := by
    unfold isUpdateAvailable at available
    rw [if_pos invariant.attached] at available
    simp only [Bool.and_eq_true, List.isEmpty_iff] at available
    exact available.1
  have acknowledged : () ∉ pending (run.log.filterMap endEntry) := by
    intro waiting
    exact absurd (free.1.symm.trans (invariant.unacknowledged waiting)) (by simp)
  obtain ⟨body, kept, produced⟩ : ∃ body kept, operationMessages
      (platform.createPatch run.display.encoderSettings after.renderer.workBuffer)
      run.display.encoderSettings returnBinary run.display.id after.frame 0 ops = (body, kept) :=
    ⟨_, _, rfl⟩
  have announced := operation_messages_announced
    (platform.createPatch run.display.encoderSettings after.renderer.workBuffer)
    run.display.encoderSettings returnBinary run.display.id after.frame 0 ops
  have bodyEnds := operation_messages_ends
    (platform.createPatch run.display.encoderSettings after.renderer.workBuffer)
    run.display.encoderSettings returnBinary run.display.id after.frame 0 ops
  have ids := operation_messages_ids
    (platform.createPatch run.display.encoderSettings after.renderer.workBuffer)
    run.display.encoderSettings returnBinary run.display.id after.frame 0 ops
  have same := takes.same
  have sent := takes.sent
  rw [produced] at announced bodyEnds ids same sent
  simp only at announced bodyEnds ids same sent
  obtain ⟨start, startSame⟩ : ∃ start, start =
      if run.display.fullUpdateRequested then [DisplayMessage.fullUpdate after.frame] else [] :=
    ⟨_, rfl⟩
  rw [← startSame] at sent
  have startQuiet : (∀ message ∈ start, ∀ number, message ≠ .frameEnd number) ∧
      start.filterMap announcedId = [] := by
    rw [startSame]
    split_ifs
    · simp [announcedId]
    · simp
  have quiet : ∀ message ∈ start ++ body, ∀ number, message ≠ .frameEnd number := by
    intro message member
    rcases List.mem_append.mp member with early | late
    · exact startQuiet.1 message early
    · exact bodyEnds message late
  have quietAnnounced : (start ++ body).filterMap announcedId =
      kept.map GraphicsSceneFramePatch.id := by
    rw [List.filterMap_append, startQuiet.2, announced, List.nil_append]
  have sameId : after.id = run.display.id := by rw [same]
  have samePatches : after.patches = kept.foldl insertPatch run.display.patches :=
    congrArg GraphicsSceneDisplay.patches same
  have sameFrame : after.frame = if ops = [] then run.display.frame else run.display.frame + 1 :=
    congrArg GraphicsSceneDisplay.frame same
  have sameReady : after.clientReady = if ops = [] then run.display.clientReady else false :=
    congrArg GraphicsSceneDisplay.clientReady same
  have sameAdapter : after.adapter = run.display.adapter := by rw [same]
  by_cases empty : ops = []
  · have keptNil : kept = [] := by
      rw [empty] at produced
      simp only [operationMessages, Prod.mk.injEq] at produced
      exact produced.2.symm
    rw [if_pos empty] at sent sameFrame
    rw [List.append_nil] at sent
    rw [keptNil] at samePatches quietAnnounced
    subst sent
    exact flow_sent_nothing invariant sameAdapter sameId sameFrame samePatches free.2 acknowledged
      quiet quietAnnounced
  · rw [if_neg empty] at sent sameFrame sameReady
    subst sent
    have newIds : ∀ id ∈ kept.map GraphicsSceneFramePatch.id, ∃ position,
        id = patchId run.display.id after.frame position := by
      intro id member
      rcases List.mem_map.mp member with ⟨patch, patchMember, rfl⟩
      obtain ⟨position, _, named⟩ := ids.1 patch patchMember
      exact ⟨position, named⟩
    exact flow_sent_frame invariant sameAdapter sameId sameFrame sameReady samePatches acknowledged
      quiet quietAnnounced newIds ids.2

theorem flow_request_full_update (forced : Bool) :
    FlowInvariant (run.continue (run.display.requestFullUpdate forced)
      (if forced && !run.display.fullUpdateRequested then [.forcedFullUpdate] else [])) := by
  rw [request_full_update_eq]
  cases requested : run.display.fullUpdateRequested with
  | true =>
      rw [Bool.not_true, Bool.and_false, if_pos rfl, if_neg Bool.false_ne_true]
      exact flow_continue invariant rfl rfl rfl rfl rfl
  | false =>
      rw [if_neg Bool.false_ne_true]
      cases forced with
      | true =>
          apply flow_reset invariant (Or.inr rfl)
          · rfl
          · rfl
          · rfl
          · rfl
      | false => exact flow_continue invariant rfl rfl rfl rfl rfl

theorem flow_renderer_slot (scenes : Adapter → Scene)
    (outcome : GraphicsSceneBufferRenderer Adapter × Bool) :
    FlowInvariant (({ run with scenes := scenes } : DisplayRun Adapter).continue
      (run.display.rendererSlot outcome) []) := by
  rw [renderer_slot_eq]
  exact flow_continue invariant rfl rfl rfl rfl rfl

theorem flow_perform [DecidableEq Adapter] (platform : DisplayPlatform)
    (action : DisplayAction Adapter) : FlowInvariant (perform platform run action) := by
  cases action with
  | takePendingMessages returnBinary =>
      simp only [perform]
      rcases take_pending_cases platform run.scenes returnBinary run.display with
        ⟨_, unchanged⟩ | ⟨available, ops, takes⟩
      · rw [unchanged]
        exact flow_continue invariant rfl rfl rfl rfl rfl
      · exact flow_take invariant available takes
  | takePatch patchId => exact flow_take_patch invariant patchId
  | clientReady =>
      simp only [perform]
      rw [client_ready_eq]
      apply flow_reset invariant (Or.inl rfl)
      · rfl
      · rfl
      · rfl
      · rfl
  | requestFullUpdate forced => exact flow_request_full_update invariant forced
  | updateCheckTimerTimeout =>
      simp only [perform, updateCheckTimerTimeout]
      cases fires : (run.display.clientReady && run.display.patches.isEmpty) with
      | true =>
          simp only [if_true]
          exact flow_continue invariant rfl rfl rfl rfl rfl
      | false =>
          simp only [Bool.false_eq_true, if_false]
          exact flow_continue invariant rfl rfl rfl rfl rfl
  | changeScene adapter scene rects =>
      simp only [perform]
      split_ifs
      · exact flow_renderer_slot invariant _ _
      · apply flow_same invariant
        · rfl
        · rfl
        · rfl
        · rfl
        · rfl
        · rfl
  | resize width height => exact flow_renderer_slot invariant run.scenes _
  | pushFullFrame image => exact flow_renderer_slot invariant run.scenes _
  | destroyAdapter => exact flow_renderer_slot invariant run.scenes _
  | setEncoderSettings settings => exact flow_continue invariant rfl rfl rfl rfl rfl
  | setComparerSettings settings => exact flow_renderer_slot invariant run.scenes _

end Steps

section Runs

variable [DecidableEq Adapter] (platform : DisplayPlatform)

theorem constructed_flow {run : DisplayRun Adapter} (constructed : Constructed platform run) :
    FlowInvariant run := by
  obtain ⟨id, adapter, same, logEmpty⟩ := constructed
  constructor
  · rw [same]
    rfl
  · intro _
    rw [same]
    rfl
  · intro waiting
    rw [logEmpty] at waiting
    exact absurd waiting List.not_mem_nil
  · intro frame member
    rw [logEmpty] at member
    exact absurd member List.not_mem_nil
  · intro patchId
    rw [logEmpty, same]
    exact Iff.rfl
  · intro announced member
    rw [logEmpty] at member
    exact absurd member List.not_mem_nil
  · rw [logEmpty]
    exact List.nodup_nil
  · rw [logEmpty]
    exact lawful_nil FlowAllowed

theorem reach_flow {run : DisplayRun Adapter}
    (reached : Reach (DisplayStep platform) always (Constructed platform) run) :
    FlowInvariant run := by
  apply Reach.invariant _ _ reached
  · intro start begins
    exact constructed_flow platform begins
  · intro before action after invariant _ taken
    unfold DisplayStep at taken
    subst taken
    exact flow_perform invariant platform action

end Runs

section Reading

variable {run : DisplayRun Adapter} (invariant : FlowInvariant run)

include invariant

/-- Between two sent frames the earlier one was acknowledged. -/
theorem flow_frames_acknowledged {earlier between later : List DisplayEvent} {first second : Nat}
    (split : run.log = earlier ++ .sent (.frameEnd first) :: between ++
      .sent (.frameEnd second) :: later) :
    (.ready ∈ between ∨ .forcedFullUpdate ∈ between) ∧ first < second := by
  have permitted := invariant.lawful _ _ _ split
  constructor
  · by_contra silent
    rw [not_or] at silent
    apply permitted.1
    rw [List.filterMap_append, List.filterMap_cons]
    show () ∈ pending (_ ++ .add () :: between.filterMap endEntry)
    rw [pending_append, List.foldl_cons]
    apply mem_pending_fold List.mem_cons_self
    constructor
    · intro member
      obtain ⟨event, _, same⟩ := List.mem_filterMap.mp member
      revert same
      unfold endEntry
      split
      · simp
      · simp
      · simp
      · simp
    · intro member
      obtain ⟨event, eventMember, same⟩ := List.mem_filterMap.mp member
      revert same
      unfold endEntry
      split
      · simp
      · intro _
        exact silent.1 eventMember
      · intro _
        exact silent.2 eventMember
      · simp
  · apply permitted.2
    simp [endFrame]

theorem flow_patch_taken {earlier between later : List DisplayEvent} {frame : Nat} {rect : QRect}
    {artefactMargin : Int} {mimeType patchId : String} {patch : Option GraphicsSceneFramePatch}
    (split : run.log = earlier ++ .sent (.dI frame rect artefactMargin mimeType (.fetch patchId)) ::
      between ++ .tookPatch patchId patch :: later) :
    (patch.isSome = true ↔
      .ready ∉ between ∧ .forcedFullUpdate ∉ between ∧ ∀ other, .tookPatch patchId other ∉ between) ∧
    ∀ taken, patch = some taken → taken.id = patchId := by
  have permitted := invariant.lawful _ _ _ split
  refine ⟨?_, permitted.2⟩
  rw [permitted.1, List.filterMap_append, List.filterMap_cons]
  show patchId ∈ pending (_ ++ .add patchId :: between.filterMap patchEntry) ↔ _
  have once : Entry.add patchId ∉ between.filterMap patchEntry := by
    intro again
    have distinct := invariant.distinct
    rw [split, List.append_assoc, List.filterMap_append, List.cons_append,
      List.filterMap_cons] at distinct
    have absent := (List.nodup_cons.mp (List.Nodup.of_append_right distinct)).1
    apply absent
    obtain ⟨event, member, same⟩ := List.mem_filterMap.mp again
    rw [List.filterMap_append]
    apply List.mem_append_left
    apply List.mem_filterMap.mpr
    refine ⟨event, member, ?_⟩
    revert same
    unfold patchEntry
    split
    · intro same
      cases same
      rfl
    · simp
    · simp
    · simp
    · simp
  rw [mem_pending_added _ _ once]
  constructor
  · rintro ⟨notTaken, notReset⟩
    refine ⟨?_, ?_, ?_⟩
    · intro member
      exact notReset (List.mem_filterMap.mpr ⟨_, member, rfl⟩)
    · intro member
      exact notReset (List.mem_filterMap.mpr ⟨_, member, rfl⟩)
    · intro other member
      exact notTaken (List.mem_filterMap.mpr ⟨_, member, rfl⟩)
  · rintro ⟨notReady, notForced, notTaken⟩
    constructor
    · intro member
      obtain ⟨event, eventMember, same⟩ := List.mem_filterMap.mp member
      revert same
      unfold patchEntry
      split
      · simp
      · intro same
        cases same
        exact notTaken _ eventMember
      · simp
      · simp
      · simp
    · intro member
      obtain ⟨event, eventMember, same⟩ := List.mem_filterMap.mp member
      revert same
      unfold patchEntry
      split
      · simp
      · simp
      · intro _
        exact notReady eventMember
      · intro _
        exact notForced eventMember
      · simp

end Reading

theorem reach_perform [DecidableEq Adapter] [FrameNumber Number] {platform : DisplayPlatform}
    {run : DisplayRun Adapter Number}
    (reached : Reach (DisplayStep platform) always (Constructed platform) run)
    (actions : List (DisplayAction Adapter)) :
    Reach (DisplayStep platform) always (Constructed platform)
      (actions.foldl (perform platform) run) := by
  induction actions generalizing run with
  | nil => exact reached
  | cons action actions induction => exact induction (Reach.next reached trivial rfl)

/-- A ready client has no patches left, sent frames are acknowledged and numbered upwards, and an
announced patch is handed out once, until the client is ready or a full update is forced. -/
structure FlowControlled [LT Number] (run : DisplayRun Adapter Number) : Prop where
  backPressure : run.display.clientReady = true → run.display.patches = []
  acknowledged : ∀ earlier between later first second,
    run.log = earlier ++ .sent (.frameEnd first) :: between ++ .sent (.frameEnd second) :: later →
      .ready ∈ between ∨ .forcedFullUpdate ∈ between
  ascending : ∀ earlier between later first second,
    run.log = earlier ++ .sent (.frameEnd first) :: between ++ .sent (.frameEnd second) :: later →
      first < second
  fetched : ∀ earlier between later frame rect artefactMargin mimeType patchId patch,
    run.log = earlier ++ .sent (.dI frame rect artefactMargin mimeType (.fetch patchId)) ::
      between ++ .tookPatch patchId patch :: later →
      (patch.isSome = true ↔ .ready ∉ between ∧ .forcedFullUpdate ∉ between ∧
        ∀ other, .tookPatch patchId other ∉ between) ∧
      ∀ taken, patch = some taken → taken.id = patchId

/-- Over every run of a display with an adapter, as long as the numbers of frames have no bound. -/
theorem natural_flow_controlled [DecidableEq Adapter] (platform : DisplayPlatform)
    {run : DisplayRun Adapter}
    (reached : Reach (DisplayStep platform) always (Constructed platform) run) :
    FlowControlled run := by
  have invariant := reach_flow platform reached
  constructor
  · exact invariant.backPressure
  · intro earlier between later first second split
    exact (flow_frames_acknowledged invariant split).1
  · intro earlier between later first second split
    exact (flow_frames_acknowledged invariant split).2
  · intro earlier between later frame rect artefactMargin mimeType patchId patch split
    exact flow_patch_taken invariant split

def DisplayPlatform.reference : DisplayPlatform :=
  { Platform.reference with
    createPatch := fun _ image rect =>
      { id := ""
        rect := rect
        artefactMargin := 0
        data := rect.rowMajor.flatMap fun point =>
          [⟨(image.pixel point).extractLsb' 0 8⟩, ⟨(image.pixel point).extractLsb' 8 8⟩,
            ⟨(image.pixel point).extractLsb' 16 8⟩, ⟨(image.pixel point).extractLsb' 24 8⟩]
        mimeType := "image/bmp"
        packedAlpha := false } }

end Viridity.FrameFlow
