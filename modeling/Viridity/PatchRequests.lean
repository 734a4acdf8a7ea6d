import Mathlib.Data.Bool.AllAny
import Mathlib.Data.List.Infix
import Viridity.FrameFlow
import Viridity.RequestTargets
import Viridity.ServerMessages

/-!
# Requests for patches

`PatchRequestHandler` reads session, display and patch off the URL again that the browser asks
for once the client has made one of an announced patch identifier. The displays of a manager are those of its hash, each with
its log.
-/

namespace Viridity.PatchRequests

open Viridity.QtRectangle
open Viridity.ImageComparerOpTools
open Viridity.SceneDisplay
open Viridity.FrameFlow
open Viridity.TextEncoding
open Viridity.TextScanning
open Viridity.RequestTargets
open Viridity.ServerMessages
open GraphicsSceneDisplay

set_option autoImplicit false

variable {Adapter : Type}

def qString (text : String) : Units := utf16.encode text.toList

theorem q_string_injective {first second : String} (same : qString first = qString second) :
    first = second :=
  String.toList_injective (utf16_injective same)

theorem q_string_eq_iff (first second : String) : qString first = qString second ↔ first = second :=
  ⟨q_string_injective, congrArg qString⟩

section LastPosition

variable {Unit : Type} [DecidableEq Unit]

def lastPosition (unit : Unit) (text : List Unit) : Int :=
  if unit ∈ text then text.length - 1 - text.reverse.idxOf unit else -1

theorem last_position_append {unit : Unit} (front : List Unit) {rest : List Unit}
    (absent : unit ∉ rest) : lastPosition unit (front ++ unit :: rest) = front.length := by
  have member : unit ∈ front ++ unit :: rest := by simp
  have reversed : (front ++ unit :: rest).reverse = rest.reverse ++ unit :: front.reverse := by
    simp
  have behind : unit ∉ rest.reverse := by
    rw [List.mem_reverse]
    exact absent
  unfold lastPosition
  rw [if_pos member, reversed, List.idxOf_append_of_notMem behind, List.idxOf_cons_self,
    List.length_reverse, List.length_append, List.length_cons]
  omega

theorem split_head (unit : Unit) (text : List Unit) :
    (text.splitOn unit).headD [] = text.takeWhile fun other => other ≠ unit := by
  induction text with
  | nil => rfl
  | cons first text induction =>
      rw [List.splitOn_cons_eq_if_modifyHead]
      by_cases same : first = unit
      · rw [if_pos (beq_iff_eq.mpr same), same]
        simp
      · rw [if_neg (by rw [beq_iff_eq]; exact same), List.takeWhile_cons_of_pos (by simpa using same),
          ← induction]
        cases pieces : text.splitOn unit with
        | nil => exact absurd pieces (List.splitOn_ne_nil unit text)
        | cons piece pieces => rfl

end LastPosition

structure Response where
  status : Nat
  headers : List (String × String)
  body : Bytes
deriving DecidableEq

def noCachingResponseHeaders : List (String × String) :=
  [("Cache-Control", "no-store, no-cache, must-revalidate"), ("Pragma", "no-cache"), ("Expires", "0")]

def notFound : Response where
  status := 404
  headers := []
  body := utf8.encode "Not found".toList

def patchResponse (patch : GraphicsSceneFramePatch) : Response where
  status := 200
  headers := ("Content-Type", patch.mimeType) :: noCachingResponseHeaders
  body := patch.data

/-- A manager with its session and its hash of displays, each under its identifier. -/
structure DisplayManager (Adapter : Type) where
  session : Option Nat
  displays : Units → Option (DisplayRun Adapter)
  keyed : ∀ key run, displays key = some run → qString run.display.id = key

/-- The hash from identifiers to sessions, in which a session stands once, and the display
managers of all sessions. -/
structure PatchServer (Adapter : Type) where
  sessions : Units → Option Nat
  single : ∀ first second object,
    sessions first = some object → sessions second = some object → first = second
  activeDisplayManagers : List (DisplayManager Adapter)

namespace DisplayManager

def setDisplay (manager : DisplayManager Adapter) (run : DisplayRun Adapter) :
    DisplayManager Adapter where
  session := manager.session
  displays := Function.update manager.displays (qString run.display.id) (some run)
  keyed := by
    intro key other found
    by_cases same : key = qString run.display.id
    · rw [same, Function.update_self] at found
      cases found
      exact same.symm
    · rw [Function.update_of_ne same] at found
      exact manager.keyed key other found

theorem set_shown (manager : DisplayManager Adapter) (run : DisplayRun Adapter) :
    (manager.setDisplay run).displays (qString run.display.id) = some run :=
  Function.update_self _ _ _

def perform [DecidableEq Adapter] (platform : DisplayPlatform) (key : Units)
    (manager : DisplayManager Adapter) (action : DisplayAction Adapter) : DisplayManager Adapter :=
  match manager.displays key with
  | some run => manager.setDisplay (FrameFlow.perform platform run action)
  | none => manager

end DisplayManager

def takePatchNamed (run : DisplayRun Adapter) (patchId : Units) :
    Option GraphicsSceneFramePatch × DisplayRun Adapter :=
  match run.display.patches.find? fun patch => qString patch.id = patchId with
  | some patch =>
      let outcome := run.display.takePatch patch.id
      (outcome.1, run.continue outcome.2 [.tookPatch patch.id outcome.1])
  | none => (none, run)

/-- The loop over the display managers. A display that lacks the patch ends it. -/
def servePatch (session : Nat) (displayId patchId : Units) : List (DisplayManager Adapter) →
    Option GraphicsSceneFramePatch × List (DisplayManager Adapter)
  | [] => (none, [])
  | manager :: rest =>
      let remaining := servePatch session displayId patchId rest
      if manager.session = some session then
        match manager.displays displayId with
        | some run =>
            match takePatchNamed run patchId with
            | (some patch, taken) => (some patch, manager.setDisplay taken :: rest)
            | (none, _) => (none, manager :: rest)
        | none => (remaining.1, manager :: remaining.2)
      else (remaining.1, manager :: remaining.2)

section Handler

variable (decoder : Decoder)

def parseIdFromUrl (url : Bytes) : Units := toQString decoder (mid url 1 10)

def doesHandleRequest (server : PatchServer Adapter) (url : Bytes) : Bool :=
  decide (utf8.encode ['/', 'p', '/'] <:+: url) && decide (utf8.unit '_' ∈ url) &&
    (server.sessions (parseIdFromUrl decoder url)).isSome

def patchIdOfUrl (url : Bytes) : Units :=
  let url := toQString decoder url
  let indexOfSlash := lastPosition (utf16.unit '/') url
  if indexOfSlash > -1 then mid url (indexOfSlash + 1) (-1) else []

def handleRequest (server : PatchServer Adapter) (url : Bytes) : Response × PatchServer Adapter :=
  match server.sessions (parseIdFromUrl decoder url) with
  | none => (notFound, server)
  | some session =>
      let patchId := patchIdOfUrl decoder url
      let displayId := (patchId.splitOn (utf16.unit '_')).headD []
      let served := servePatch session displayId patchId server.activeDisplayManagers
      ((served.1.map patchResponse).getD notFound, { server with activeDisplayManagers := served.2 })

end Handler

section Patches

variable {display : GraphicsSceneDisplay Adapter} {patchId : String}

theorem find_insert_other {patches : List GraphicsSceneFramePatch} {patch : GraphicsSceneFramePatch}
    (other : patch.id ≠ patchId) :
    (insertPatch patches patch).find? (fun kept => kept.id == patchId) =
      patches.find? fun kept => kept.id == patchId := by
  have last : ([patch].find? fun kept => kept.id == patchId) = none := by
    rw [List.find?_singleton, if_neg (by rw [beq_iff_eq]; exact other)]
  unfold insertPatch
  rw [List.find?_append, last, Option.or_none, List.find?_filter]
  congr 1
  funext kept
  by_cases same : kept.id = patchId
  · have distinct : kept.id ≠ patch.id := by
      rw [same]
      exact other.symm
    simp [same, other.symm]
  · simp [same]

theorem find_insert_others {patches : List GraphicsSceneFramePatch}
    (kept : List GraphicsSceneFramePatch) (others : ∀ patch ∈ kept, patch.id ≠ patchId) :
    (kept.foldl insertPatch patches).find? (fun other => other.id == patchId) =
      patches.find? fun other => other.id == patchId := by
  induction kept generalizing patches with
  | nil => rfl
  | cons patch kept induction =>
      rw [List.foldl_cons, induction fun other member => others other (List.mem_cons_of_mem _ member),
        find_insert_other (others patch List.mem_cons_self)]

theorem find_inserted {patches kept : List GraphicsSceneFramePatch}
    (distinct : (kept.map GraphicsSceneFramePatch.id).Nodup) {patch : GraphicsSceneFramePatch}
    (member : patch ∈ kept) :
    (kept.foldl insertPatch patches).find? (fun other => other.id == patch.id) = some patch := by
  induction kept generalizing patches with
  | nil => exact absurd member List.not_mem_nil
  | cons first kept induction =>
      rw [List.map_cons, List.nodup_cons] at distinct
      rw [List.foldl_cons]
      rcases List.mem_cons.mp member with same | later
      · have others : ∀ other ∈ kept, other.id ≠ patch.id := by
          intro other otherMember equal
          rw [same] at equal
          exact distinct.1 (equal ▸ List.mem_map_of_mem otherMember)
        have gone : (patches.filter fun other => other.id != first.id).find?
            (fun other => other.id == patch.id) = none := by
          rw [List.find?_eq_none]
          intro other filtered found
          have differs := (List.mem_filter.mp filtered).2
          rw [beq_iff_eq] at found
          rw [found, same] at differs
          simp at differs
        rw [find_insert_others kept others]
        unfold insertPatch
        rw [List.find?_append, gone, Option.none_or, ← same, List.find?_singleton,
          if_pos (beq_self_eq_true _)]
      · exact induction distinct.2 later

theorem find_taken_other {other : String} (differs : other ≠ patchId) :
    (display.takePatch other).2.patches.find? (fun patch => patch.id == patchId) =
      display.patches.find? fun patch => patch.id == patchId := by
  unfold takePatch
  rw [List.find?_filter]
  congr 1
  funext patch
  by_cases same : patch.id = patchId
  · simp [same, differs.symm]
  · simp [same]

theorem find_taken : (display.takePatch patchId).2.patches.find?
    (fun patch => patch.id == patchId) = none := by
  unfold takePatch
  rw [List.find?_eq_none]
  intro patch member found
  have differs := (List.mem_filter.mp member).2
  rw [beq_iff_eq] at found
  rw [found] at differs
  simp at differs

end Patches

/-- The actions that leave an announced patch where it is. -/
def KeepsPatch (patchId : String) (action : DisplayAction Adapter) : Prop :=
  action ≠ .clientReady ∧ action ≠ .requestFullUpdate true ∧ action ≠ .takePatch patchId

/-- What a slot does to the patch of a frame sent before: it stays or is lost for good. -/
structure PatchStep (patchId : String) (keeps : Prop) (display after : GraphicsSceneDisplay Adapter) :
    Prop where
  id : after.id = display.id
  frame : display.frame ≤ after.frame
  kept : keeps → after.patches.find? (fun patch => patch.id == patchId) =
    display.patches.find? fun patch => patch.id == patchId
  lost : display.patches.find? (fun patch => patch.id == patchId) = none →
    after.patches.find? (fun patch => patch.id == patchId) = none

section Slots

variable {patchId : String} {keeps : Prop} {display after : GraphicsSceneDisplay Adapter}

theorem patch_step_same (id : after.id = display.id) (frame : after.frame = display.frame)
    (patches : after.patches = display.patches) : PatchStep patchId keeps display after where
  id := id
  frame := Nat.le_of_eq frame.symm
  kept := fun _ => by rw [patches]
  lost := fun absent => by rw [patches, absent]

theorem patch_step_cleared (id : after.id = display.id) (frame : after.frame = display.frame)
    (patches : after.patches = []) : PatchStep patchId False display after where
  id := id
  frame := Nat.le_of_eq frame.symm
  kept := False.elim
  lost := fun _ => by rw [patches]; rfl

theorem patch_step_taken {other : String} :
    PatchStep patchId (other ≠ patchId) display (display.takePatch other).2 where
  id := rfl
  frame := Nat.le_refl _
  kept := find_taken_other
  lost := by
    intro absent
    rw [List.find?_eq_none] at absent ⊢
    intro patch member
    exact absent patch (List.mem_filter.mp member).1

theorem patch_step_slot (outcome : BufferRenderer.GraphicsSceneBufferRenderer Adapter × Bool) :
    PatchStep patchId keeps display (display.rendererSlot outcome) := by
  rw [renderer_slot_eq]
  exact patch_step_same rfl rfl rfl

theorem patch_step_frame {platform : DisplayPlatform} {scenes : Adapter → BufferRenderer.Scene}
    {returnBinary : Bool} {frame index : Nat}
    (named : patchId = GraphicsSceneDisplay.patchId display.id frame index)
    (earlier : frame ≤ display.frame) :
    PatchStep patchId keeps display (display.takePendingMessages platform scenes returnBinary).1 := by
  rcases take_pending_cases platform scenes returnBinary display with
    ⟨_, nothing⟩ | ⟨_, ops, taken⟩
  · rw [nothing]
    exact patch_step_same rfl rfl rfl
  · have same := taken.same
    generalize (display.takePendingMessages platform scenes returnBinary).1 = after at same
    have others : ∀ patch ∈ (operationMessages
        (platform.createPatch display.encoderSettings after.renderer.workBuffer)
        display.encoderSettings returnBinary display.id after.frame 0 ops).2,
        patch.id ≠ patchId := by
      intro patch member equal
      obtain ⟨position, _, name⟩ := (operation_messages_ids _ _ _ _ _ 0 ops).1 patch member
      have frames := (patch_id_injective (name.symm.trans (equal.trans named))).1
      cases ops with
      | nil => exact absurd member List.not_mem_nil
      | cons op ops =>
          have number : after.frame = display.frame + 1 := congrArg GraphicsSceneDisplay.frame same
          omega
    have found := @find_insert_others patchId display.patches _ others
    have patches : after.patches = (operationMessages
        (platform.createPatch display.encoderSettings after.renderer.workBuffer)
        display.encoderSettings returnBinary display.id after.frame 0 ops).2.foldl insertPatch
        display.patches := congrArg GraphicsSceneDisplay.patches same
    rw [← patches] at found
    have id : after.id = display.id := (congrArg GraphicsSceneDisplay.id same).trans rfl
    have number : after.frame = if ops = [] then display.frame else display.frame + 1 :=
      congrArg GraphicsSceneDisplay.frame same
    refine ⟨id, ?_, fun _ => found, found.trans⟩
    rw [number]
    split_ifs
    · exact Nat.le_refl _
    · exact Nat.le_succ _

theorem patch_step_perform [DecidableEq Adapter] (platform : DisplayPlatform)
    (run : DisplayRun Adapter) (action : DisplayAction Adapter) {frame index : Nat}
    (named : patchId = GraphicsSceneDisplay.patchId run.display.id frame index)
    (earlier : frame ≤ run.display.frame) :
    PatchStep patchId (KeepsPatch patchId action) run.display
      (FrameFlow.perform platform run action).display := by
  cases action with
  | takePendingMessages returnBinary => exact patch_step_frame named earlier
  | takePatch other =>
      have taken := @patch_step_taken Adapter patchId run.display other
      exact ⟨taken.id, taken.frame,
        fun keeps => taken.kept fun same => keeps.2.2 (congrArg DisplayAction.takePatch same),
        taken.lost⟩
  | clientReady =>
      have cleared : PatchStep patchId False run.display run.display.handleClientReady := by
        rw [client_ready_eq]
        exact patch_step_cleared rfl rfl rfl
      exact ⟨cleared.id, cleared.frame, fun keeps => absurd rfl keeps.1, cleared.lost⟩
  | requestFullUpdate forced =>
      have step : ∀ after, after = run.display.requestFullUpdate forced →
          PatchStep patchId (KeepsPatch patchId (.requestFullUpdate forced : DisplayAction Adapter))
            run.display after := by
        intro after same
        rw [request_full_update_eq] at same
        split_ifs at same with requested cleared
        · rw [same]
          exact patch_step_same rfl rfl rfl
        · rw [same, cleared]
          have step : PatchStep patchId False run.display
              { run.display with
                renderer := run.display.renderer.fullUpdate.1
                updateCheckTimerActive := true
                clientReady := true || run.display.clientReady
                patches := []
                fullUpdateRequested := true } := patch_step_cleared rfl rfl rfl
          exact ⟨step.id, step.frame, fun keeps => absurd rfl keeps.2.1, step.lost⟩
        · rw [same]
          exact patch_step_same rfl rfl rfl
      exact step _ rfl
  | updateCheckTimerTimeout =>
      unfold FrameFlow.perform DisplayRun.continue updateCheckTimerTimeout
      dsimp only
      split_ifs
      · exact patch_step_same rfl rfl rfl
      · exact patch_step_same rfl rfl rfl
  | changeScene adapter scene rects =>
      unfold FrameFlow.perform
      dsimp only
      split_ifs
      · exact patch_step_slot (run.display.renderer.sceneChanged rects)
      · exact patch_step_same rfl rfl rfl
  | resize width height => exact patch_step_slot _
  | pushFullFrame image => exact patch_step_slot _
  | destroyAdapter => exact patch_step_slot (run.display.renderer.sceneDestroyed, false)
  | setEncoderSettings settings => exact patch_step_same rfl rfl rfl
  | setComparerSettings settings =>
      exact patch_step_slot (run.display.renderer.setSettings platform.toPlatform settings, false)

/-- A whole run. -/
theorem patch_step_run [DecidableEq Adapter] (platform : DisplayPlatform)
    (actions : List (DisplayAction Adapter)) (run : DisplayRun Adapter) {frame index : Nat}
    (named : patchId = GraphicsSceneDisplay.patchId run.display.id frame index)
    (earlier : frame ≤ run.display.frame) :
    PatchStep patchId (∀ action ∈ actions, KeepsPatch patchId action) run.display
      (actions.foldl (FrameFlow.perform platform) run).display := by
  induction actions generalizing run with
  | nil => exact patch_step_same rfl rfl rfl
  | cons action actions induction =>
      have first := patch_step_perform platform run action named earlier
      have rest := induction (FrameFlow.perform platform run action)
        (by rw [first.id]; exact named) (Nat.le_trans earlier first.frame)
      constructor
      · exact rest.id.trans first.id
      · exact Nat.le_trans first.frame rest.frame
      · intro keeps
        exact (rest.kept fun other member => keeps other (List.mem_cons_of_mem _ member)).trans
          (first.kept (keeps action List.mem_cons_self))
      · exact fun absent => rest.lost (first.lost absent)

end Slots

def announcedPatch (platform : DisplayPlatform) (run : DisplayRun Adapter) (returnBinary : Bool)
    (rect : QRect) (patchId : String) : GraphicsSceneFramePatch :=
  { platform.createPatch run.display.encoderSettings
      (run.display.takePendingMessages platform run.scenes returnBinary).1.renderer.workBuffer rect with
    id := patchId }

section Announced

variable {platform : DisplayPlatform} {run : DisplayRun Adapter} {returnBinary : Bool}
variable {frame : Nat} {rect : QRect} {artefactMargin : Int} {mimeType patchId : String}

theorem operation_announces {createPatch : QRect → GraphicsSceneFramePatch}
    {settings : EncoderSettings} {displayId : String} {number start : Nat}
    {ops : List UpdateOperation}
    (announced : DisplayMessage.dI frame rect artefactMargin mimeType (.fetch patchId) ∈
      (operationMessages createPatch settings returnBinary displayId number start ops).1) :
    { createPatch rect with id := patchId } ∈
      (operationMessages createPatch settings returnBinary displayId number start ops).2 := by
  induction ops generalizing start with
  | nil => exact absurd announced List.not_mem_nil
  | cons op ops induction =>
      cases kind : op.type with
      | uotUpdate =>
          simp only [operationMessages, kind] at announced ⊢
          split_ifs at announced ⊢ with inline
          · rcases List.mem_cons.mp announced with same | later
            · cases same
            · exact induction later
          · rcases List.mem_cons.mp announced with same | later
            · cases same
              exact List.mem_cons_self
            · exact List.mem_cons_of_mem _ (induction later)
      | uotMove =>
          simp only [operationMessages, kind] at announced ⊢
          rcases List.mem_cons.mp announced with same | later
          · cases same
          · exact induction later
      | uotFill =>
          simp only [operationMessages, kind] at announced ⊢
          rcases List.mem_cons.mp announced with same | later
          · cases same
          · exact induction later
      | uotNoOp =>
          simp only [operationMessages, kind] at announced ⊢
          exact induction announced

/-- Behind the announcement the patch is found under its name, which is one of this frame. -/
theorem announced_found (announced : DisplayMessage.dI frame rect artefactMargin mimeType
      (.fetch patchId) ∈ (run.display.takePendingMessages platform run.scenes returnBinary).2) :
    (∃ number index, number ≤
        (run.display.takePendingMessages platform run.scenes returnBinary).1.frame ∧
      patchId = GraphicsSceneDisplay.patchId run.display.id number index) ∧
    (run.display.takePendingMessages platform run.scenes returnBinary).1.id = run.display.id ∧
    (run.display.takePendingMessages platform run.scenes returnBinary).1.patches.find?
        (fun patch => patch.id == patchId) =
      some (announcedPatch platform run returnBinary rect patchId) := by
  rcases take_pending_cases platform run.scenes returnBinary run.display with
    ⟨_, nothing⟩ | ⟨_, ops, taken⟩
  · rw [nothing] at announced
    exact absurd announced List.not_mem_nil
  · have sent := taken.sent
    have same := taken.same
    unfold announcedPatch
    generalize (run.display.takePendingMessages platform run.scenes returnBinary).2 = messages at *
    generalize (run.display.takePendingMessages platform run.scenes returnBinary).1 = after at *
    have operation : DisplayMessage.dI frame rect artefactMargin mimeType (.fetch patchId) ∈
        (operationMessages (platform.createPatch run.display.encoderSettings
          after.renderer.workBuffer) run.display.encoderSettings returnBinary run.display.id
          after.frame 0 ops).1 := by
      rw [sent, List.mem_append, List.mem_append] at announced
      rcases announced with (full | operation) | last
      · split_ifs at full
        · cases List.mem_singleton.mp full
        · exact absurd full List.not_mem_nil
      · exact operation
      · split_ifs at last
        · exact absurd last List.not_mem_nil
        · cases List.mem_singleton.mp last
    have kept := operation_announces operation
    have ids := operation_messages_ids (platform.createPatch run.display.encoderSettings
      after.renderer.workBuffer) run.display.encoderSettings returnBinary run.display.id after.frame
      0 ops
    obtain ⟨position, _, name⟩ := ids.1 _ kept
    have patches : after.patches = (operationMessages (platform.createPatch
        run.display.encoderSettings after.renderer.workBuffer) run.display.encoderSettings
        returnBinary run.display.id after.frame 0 ops).2.foldl insertPatch run.display.patches :=
      (congrArg GraphicsSceneDisplay.patches same).trans rfl
    refine ⟨⟨after.frame, position, Nat.le_refl _, name⟩,
      (congrArg GraphicsSceneDisplay.id same).trans rfl, ?_⟩
    rw [patches]
    exact find_inserted ids.2 kept

end Announced

/-- The first ten digits of a hash. -/
structure SessionId where
  text : Text
  length : text.length = 10
  hex : ∀ letter ∈ text, letter ∈ "0123456789abcdef".toList

/-- What the client appends to its host for an announced patch. -/
def patchLocation (session : SessionId) (patchId : String) : Text :=
  '/' :: (session.text ++ (['/', 'p', '/'] ++ patchId.toList))

def patchUrl (session : SessionId) (patchId : String) : Bytes :=
  utf8.encode (requestTarget (patchLocation session patchId))

/-- The browser asks for an announced patch as it was announced. -/
structure Requested (session : SessionId) (patchId : String) : Prop where
  url : requestTarget (patchLocation session patchId) = patchLocation session patchId
  letters : ∀ letter ∈ patchLocation session patchId, isEncodedAnywhere letter = false

section Urls

variable (decoder : Decoder) (session : SessionId) (patchId : String)

theorem session_id_plain {letter : Char} (member : letter ∈ session.text) :
    IsAscii letter ∧ letter ≠ zero ∧ letter ≠ byteOrderMark := by
  have digits : ∀ digit ∈ "0123456789abcdef".toList,
      IsAscii digit ∧ digit ≠ zero ∧ digit ≠ byteOrderMark :=
    List.all_iff_forall_prop.mp (by decide)
  exact digits letter (session.hex letter member)

theorem location_joined :
    patchLocation session patchId = joined [session.text, ['p']] ++ '/' :: patchId.toList := by
  simp [patchLocation, joined]

theorem location_heads : ∀ segment ∈ [session.text, ['p']], PlainSegment segment := by
  intro segment member
  simp only [List.mem_cons, List.not_mem_nil, or_false] at member
  rcases member with rfl | rfl
  · have digits : ∀ digit ∈ "0123456789abcdef".toList,
        pathEncodes digit = false ∧ digit ≠ '/' ∧ digit ≠ '\\' :=
      List.all_iff_forall_prop.mp (by decide)
    refine ⟨fun letter inside => digits letter (session.hex letter inside), ?_⟩
    have lengths : (session.text.map Char.toLower).length = 10 := by
      rw [List.length_map]
      exact session.length
    unfold isSingleDot isDoubleDot
    rw [decide_eq_false_iff_not, decide_eq_false_iff_not]
    generalize session.text.map Char.toLower = lowered at lengths
    constructor
    · rintro (rfl | rfl) <;> cases lengths
    · rintro (rfl | rfl | rfl | rfl) <;> cases lengths
  · exact ⟨List.all_iff_forall_prop.mp (by decide), by decide, by decide⟩

theorem session_of_location :
    parseIdFromUrl decoder (utf8.encode (patchLocation session patchId)) =
      utf16.encode session.text := by
  have size : (utf8.encode session.text).length = 10 := by
    rw [utf8.encode_ascii_length fun letter member => (session_id_plain session member).1]
    exact session.length
  have part := mid_middle [utf8.unit '/'] (utf8.encode session.text)
    (utf8.encode (['/', 'p', '/'] ++ patchId.toList))
  rw [size] at part
  have url : utf8.encode (patchLocation session patchId) =
      [utf8.unit '/'] ++ (utf8.encode session.text ++
        utf8.encode (['/', 'p', '/'] ++ patchId.toList)) := by
    unfold patchLocation
    rw [utf8.encode_ascii_cons (show IsAscii '/' by decide), utf8.encode_append]
    rfl
  unfold parseIdFromUrl
  rw [url]
  refine (congrArg (toQString decoder) part).trans ?_
  rw [to_string_encoded, (kept_iff session.text).mpr]
  constructor
  · exact fun member => (session_id_plain session member).2.1 rfl
  · intro mark
    have member := List.mem_of_mem_head? mark
    exact (session_id_plain session member).2.2 rfl

variable {patchId}

/-- The handler takes what is behind the last slash of a plain URL for the patch. -/
theorem patch_id_of_text {text : Text}
    (plain : ∀ letter ∈ text, isEncodedAnywhere letter = false) :
    (∀ {front last : Text}, text = front ++ '/' :: last → '/' ∉ last →
      patchIdOfUrl decoder (utf8.encode text) = utf16.encode last) ∧
      ('/' ∉ text → patchIdOfUrl decoder (utf8.encode text) = []) := by
  have url : toQString decoder (utf8.encode text) = utf16.encode text := by
    rw [to_string_encoded, (kept_iff text).mpr]
    constructor
    · exact fun member => absurd (plain zero member) (by decide)
    · exact fun mark => absurd (plain byteOrderMark (List.mem_of_mem_head? mark)) (by decide)
  unfold patchIdOfUrl
  dsimp only
  rw [url]
  constructor
  · rintro front last rfl absent
    have outside : utf16.unit '/' ∉ utf16.encode last := by
      rw [utf16.unit_mem_encode (by decide)]
      exact absent
    have rest := mid_rest (utf16.encode front ++ [utf16.unit '/']) (utf16.encode last)
    rw [List.append_assoc, List.length_append] at rest
    rw [utf16.encode_append, utf16.encode_ascii_cons (show IsAscii '/' by decide),
      last_position_append _ outside, if_pos (by omega)]
    exact rest
  · intro absent
    have outside : utf16.unit '/' ∉ utf16.encode text := by
      rw [utf16.unit_mem_encode (by decide)]
      exact absent
    unfold lastPosition
    rw [if_neg outside, if_neg (by decide)]

theorem requested_of_sent (absent : '/' ∉ patchId.toList) (separator : '_' ∈ patchId.toList)
    (sent : SentAsIs patchId.toList) : Requested session patchId := by
  have dots : isSingleDot (inPath patchId.toList) = false ∧
      isDoubleDot (inPath patchId.toList) = false := by
    by_cases mark : '?' ∈ patchId.toList
    · exact sent.dots mark
    · have whole := parts_of_plain mark []
      rw [List.append_nil] at whole
      rw [whole.1.trans (List.append_nil _)]
      exact no_dots separator (by decide)
  have url : requestTarget (patchLocation session patchId) = patchLocation session patchId := by
    rw [location_joined]
    exact request_target_same (location_heads session) absent sent dots
  refine ⟨url, ?_⟩
  rw [← url]
  exact target_letters _

/-- What comes back from the URL as an announced patch was sent as it is. -/
theorem sent_of_read (absent : '/' ∉ patchId.toList) (separator : '_' ∈ patchId.toList)
    (read : patchIdOfUrl decoder (patchUrl session patchId) = qString patchId) :
    SentAsIs patchId.toList := by
  have whole := @patch_id_of_text decoder (requestTarget (patchLocation session patchId))
    (target_letters _)
  unfold patchUrl at read
  by_cases slash : '/' ∈ requestTarget (patchLocation session patchId)
  · obtain ⟨front, last, target, clean⟩ := append_last slash
    rw [whole.1 target clean] at read
    have same : last = patchId.toList := utf16_injective read
    rw [same, location_joined] at target
    exact sent_of_target (location_heads session) absent target
  · rw [whole.2 slash] at read
    have empty : patchId.toList = [] := utf16.encode_nil_iff.mp read.symm
    rw [empty] at separator
    exact absurd separator List.not_mem_nil

theorem patch_of_requested (absent : '/' ∉ patchId.toList)
    (requested : Requested session patchId) :
    patchIdOfUrl decoder (patchUrl session patchId) = qString patchId := by
  unfold patchUrl
  rw [requested.url]
  exact (patch_id_of_text decoder requested.letters).1 (location_joined session patchId) absent

theorem session_of_requested (requested : Requested session patchId) :
    parseIdFromUrl decoder (patchUrl session patchId) = utf16.encode session.text := by
  unfold patchUrl
  rw [requested.url]
  exact session_of_location decoder session patchId

theorem location_shape :
    utf8.encode ['/', 'p', '/'] <:+: utf8.encode (patchLocation session patchId) := by
  refine ⟨utf8.encode ('/' :: session.text), utf8.encode patchId.toList, ?_⟩
  unfold patchLocation
  rw [← utf8.encode_append, ← utf8.encode_append, List.cons_append, List.cons_append,
    List.append_assoc]

end Urls

namespace PatchServer

def displayAt (server : PatchServer Adapter) (index : Nat) (key : Units) :
    Option (DisplayRun Adapter) :=
  server.activeDisplayManagers[index]?.bind fun manager => manager.displays key

def performAll [DecidableEq Adapter] (platform : DisplayPlatform) (index : Nat) (key : Units)
    (actions : List (DisplayAction Adapter)) (server : PatchServer Adapter) : PatchServer Adapter :=
  { server with
    activeDisplayManagers := server.activeDisplayManagers.modify index fun manager =>
      actions.foldl (DisplayManager.perform platform key) manager }

end PatchServer

theorem modify_at_append {Entry : Type} (change : Entry → Entry) (front rest : List Entry)
    (entry : Entry) :
    (front ++ entry :: rest).modify front.length change = front ++ change entry :: rest := by
  induction front with
  | nil => rfl
  | cons first front induction =>
      rw [List.cons_append, List.length_cons, List.modify_succ_cons, induction, List.cons_append]

section Managers

variable {session : Nat} {displayId patchId key : Units} {front rest : List (DisplayManager Adapter)}
variable {manager : DisplayManager Adapter} {run : DisplayRun Adapter}

theorem display_at_front {server : PatchServer Adapter}
    (managers : server.activeDisplayManagers = front ++ manager :: rest) (key : Units) :
    server.displayAt front.length key = manager.displays key := by
  unfold PatchServer.displayAt
  rw [managers, List.getElem?_append_right (Nat.le_refl _), Nat.sub_self, List.getElem?_cons_zero]
  rfl

theorem display_at_apart {server after : PatchServer Adapter} {other : DisplayManager Adapter}
    (managers : server.activeDisplayManagers = front ++ manager :: rest)
    (replaced : after.activeDisplayManagers = front ++ other :: rest) {index : Nat}
    (apart : front.length ≠ index) (key : Units) :
    after.displayAt index key = server.displayAt index key := by
  have set : front ++ other :: rest = (front ++ manager :: rest).set front.length other := by simp
  unfold PatchServer.displayAt
  rw [replaced, set, List.getElem?_set_ne apart, managers]

def Unserved (session : Nat) (displayId : Units) (managers : List (DisplayManager Adapter)) : Prop :=
  ∀ manager ∈ managers, manager.session = some session → manager.displays displayId = none

theorem serve_passes (unserved : manager.session = some session → manager.displays displayId = none) :
    servePatch session displayId patchId (manager :: rest) =
      ((servePatch session displayId patchId rest).1,
        manager :: (servePatch session displayId patchId rest).2) := by
  rw [servePatch]
  split_ifs with own
  · rw [unserved own]
  · rfl

theorem serve_here (own : manager.session = some session)
    (shown : manager.displays displayId = some run) :
    servePatch session displayId patchId (manager :: rest) =
      match takePatchNamed run patchId with
      | (some patch, taken) => (some patch, manager.setDisplay taken :: rest)
      | (none, _) => (none, manager :: rest) := by
  rw [servePatch, if_pos own, shown]

/-- A manager that has the patch is the one that serves it when no other is asked before. -/
theorem serve_first (unserved : Unserved session displayId front)
    (own : manager.session = some session) (shown : manager.displays displayId = some run)
    {patch : GraphicsSceneFramePatch} {taken : DisplayRun Adapter}
    (found : takePatchNamed run patchId = (some patch, taken)) :
    servePatch session displayId patchId (front ++ manager :: rest) =
      (some patch, front ++ manager.setDisplay taken :: rest) := by
  induction front with
  | nil => rw [List.nil_append, serve_here own shown, found, List.nil_append]
  | cons first front induction =>
      rw [List.cons_append, serve_passes (unserved first List.mem_cons_self),
        induction fun other member => unserved other (List.mem_cons_of_mem _ member), List.cons_append]

theorem serve_lacking (unserved : Unserved session displayId front)
    (own : manager.session = some session) (shown : manager.displays displayId = some run)
    (absent : takePatchNamed run patchId = (none, run)) :
    servePatch session displayId patchId (front ++ manager :: rest) =
      (none, front ++ manager :: rest) := by
  induction front with
  | nil => rw [List.nil_append, serve_here own shown, absent]
  | cons first front induction =>
      rw [List.cons_append, serve_passes (unserved first List.mem_cons_self),
        induction fun other member => unserved other (List.mem_cons_of_mem _ member)]

/-- A request changes the first display of this name only, and only by taking a patch. -/
theorem serve_cases (session : Nat) (displayId patchId : Units)
    (managers : List (DisplayManager Adapter)) :
    (servePatch session displayId patchId managers = (none, managers)) ∨
    ∃ front manager rest run patch taken, managers = front ++ manager :: rest ∧
      Unserved session displayId front ∧ manager.session = some session ∧
      manager.displays displayId = some run ∧ takePatchNamed run patchId = (some patch, taken) ∧
      servePatch session displayId patchId managers =
        (some patch, front ++ manager.setDisplay taken :: rest) := by
  induction managers with
  | nil => exact Or.inl rfl
  | cons manager rest induction =>
      by_cases unserved : manager.session = some session → manager.displays displayId = none
      · rw [serve_passes unserved]
        rcases induction with nothing | ⟨front, other, behind, run, patch, taken, split, before, served⟩
        · left
          rw [nothing]
        · right
          refine ⟨manager :: front, other, behind, run, patch, taken, ?_, ?_, served.1, served.2.1,
            served.2.2.1, ?_⟩
          · rw [split]
            rfl
          · intro earlier member
            rcases List.mem_cons.mp member with same | later
            · rw [same]
              exact unserved
            · exact before earlier later
          · rw [served.2.2.2]
            rfl
      · rw [Classical.not_imp] at unserved
        obtain ⟨run, shown⟩ := Option.ne_none_iff_exists'.mp unserved.2
        rw [serve_here unserved.1 shown]
        cases found : takePatchNamed run patchId with
        | mk patch taken =>
            cases patch with
            | none => exact Or.inl rfl
            | some patch =>
                right
                exact ⟨[], manager, rest, run, patch, taken, rfl, fun _ member =>
                  absurd member List.not_mem_nil, unserved.1, shown, found, rfl⟩

end Managers

section TakeNamed

variable {run : DisplayRun Adapter} {patchId : String}

theorem named_same :
    (fun patch : GraphicsSceneFramePatch => decide (qString patch.id = qString patchId)) = fun patch => patch.id == patchId := by
  funext patch
  by_cases same : patch.id = patchId
  · simp [same]
  · have differs : qString patch.id ≠ qString patchId := fun equal => same (q_string_injective equal)
    simp [same, differs]

theorem take_named_found {patch : GraphicsSceneFramePatch}
    (found : run.display.patches.find? (fun patch => patch.id == patchId) = some patch) :
    takePatchNamed run (qString patchId) =
      (some patch, run.continue (run.display.takePatch patchId).2 [.tookPatch patchId (some patch)]) := by
  have name : patch.id = patchId := by
    have held := List.find?_some found
    rwa [beq_iff_eq] at held
  have taken : (run.display.takePatch patchId).1 = some patch := found
  unfold takePatchNamed
  rw [named_same, found]
  dsimp only
  rw [name, taken]

theorem take_named_absent
    (absent : run.display.patches.find? (fun patch => patch.id == patchId) = none) :
    takePatchNamed run (qString patchId) = (none, run) := by
  unfold takePatchNamed
  rw [named_same, absent]

theorem take_named_cases {name : Units} {patch : GraphicsSceneFramePatch} {taken : DisplayRun Adapter}
    (found : takePatchNamed run name = (some patch, taken)) :
    ∃ other, qString other = name ∧ taken.display = (run.display.takePatch other).2 := by
  unfold takePatchNamed at found
  split at found
  · rename_i first named
    have held := List.find?_some named
    rw [decide_eq_true_iff] at held
    have same := congrArg Prod.snd found
    exact ⟨first.id, held, congrArg DisplayRun.display same.symm⟩
  · cases found

end TakeNamed

section Names

variable {displayId : String} (frame index : Nat)

theorem number_letter {letter : Char}
    (member : letter ∈ (Nat.repr frame).toList ++ '_' :: (Nat.repr index).toList) :
    letter.isDigit = true ∨ letter = '_' := by
  have digits : ∀ number : Nat, letter ∈ (Nat.repr number).toList → letter.isDigit = true := by
    intro number inside
    rw [Nat.toList_repr] at inside
    exact Nat.isDigit_of_mem_toDigits (by decide) (by decide) inside
  rcases List.mem_append.mp member with first | second
  · exact Or.inl (digits frame first)
  · rcases List.mem_cons.mp second with separator | last
    · exact Or.inr separator
    · exact Or.inl (digits index last)

theorem patch_id_parts : ∃ tail : Text, (GraphicsSceneDisplay.patchId displayId frame index).toList =
    displayId.toList ++ '_' :: tail ∧ ∀ letter ∈ tail, letter.isDigit = true ∨ letter = '_' := by
  refine ⟨(Nat.repr frame).toList ++ '_' :: (Nat.repr index).toList, ?_, ?_⟩
  · simp [GraphicsSceneDisplay.patchId, FrameNumber.text]
  · intro letter member
    exact number_letter frame index member

/-- A letter that is no digit and no underscore is in a patch's identifier only if it is in the
display's. -/
theorem patch_id_without {letter : Char} (outside : letter ∉ displayId.toList)
    (noDigit : letter.isDigit = false) (noUnderscore : letter ≠ '_') :
    letter ∉ (GraphicsSceneDisplay.patchId displayId frame index).toList := by
  obtain ⟨tail, parts, letters⟩ := @patch_id_parts displayId frame index
  rw [parts]
  intro member
  rcases List.mem_append.mp member with inside | behind
  · exact outside inside
  · rcases List.mem_cons.mp behind with separator | late
    · exact noUnderscore separator
    · rcases letters letter late with digit | underscore
      · rw [noDigit] at digit
        cases digit
      · exact noUnderscore underscore

/-- The display's identifier, if it has no underscore, ends at the first one. -/
theorem patch_id_cut (separated : '_' ∉ displayId.toList) :
    ((GraphicsSceneDisplay.patchId displayId frame index).toList.takeWhile
      fun letter => letter ≠ '_') = displayId.toList := by
  obtain ⟨tail, parts, _⟩ := @patch_id_parts displayId frame index
  have letters : ∀ letter ∈ displayId.toList, decide (letter ≠ '_') = true := by
    intro letter member
    rw [decide_eq_true_iff]
    exact fun same => separated (same ▸ member)
  rw [parts, List.takeWhile_append_of_pos letters]
  simp

end Names

/-- A display's identifier is found again in the URLs of its patches, and in no display manager
of the session asked before. -/
structure Traceable (session : Nat) (displayId : String) (front : List (DisplayManager Adapter)) :
    Prop where
  separated : '_' ∉ displayId.toList
  sent : SentAsIs displayId.toList
  first : Unserved session (qString displayId) front

/-- A request for a patch is answered with it, once, and no request under another session's
identifier touches the display. -/
structure PatchFetched [DecidableEq Adapter] (platform : DisplayPlatform) (decoder : Decoder)
    (server : PatchServer Adapter) (session : SessionId) (index : Nat) (key : Units)
    (patch : GraphicsSceneFramePatch) : Prop where
  handled : doesHandleRequest decoder server (patchUrl session patch.id) = true
  answered : (handleRequest decoder server (patchUrl session patch.id)).1 = patchResponse patch
  taken : ∃ run, (handleRequest decoder server (patchUrl session patch.id)).2.displayAt index key =
    some run ∧ run.display.patches.find? (fun other => other.id == patch.id) = none
  again : ∀ later, (handleRequest decoder ((handleRequest decoder server
    (patchUrl session patch.id)).2.performAll platform index key later)
    (patchUrl session patch.id)).1 = notFound
  secret : ∀ url, parseIdFromUrl decoder url ≠ utf16.encode session.text →
    (handleRequest decoder server url).2.displayAt index key = server.displayAt index key

section Requests

variable [DecidableEq Adapter] {platform : DisplayPlatform} {decoder : Decoder}
variable {server : PatchServer Adapter} {session : SessionId} {object : Nat}
variable {front rest : List (DisplayManager Adapter)} {manager : DisplayManager Adapter}
variable {run : DisplayRun Adapter} {key : Units} {patch : GraphicsSceneFramePatch}

omit [DecidableEq Adapter] in
theorem handle_patch_url {patchId : String} (plain : '/' ∉ patchId.toList)
    (requested : Requested session patchId)
    (known : server.sessions (utf16.encode session.text) = some object) :
    handleRequest decoder server (patchUrl session patchId) =
      (((servePatch object
          (utf16.encode (patchId.toList.takeWhile fun letter => letter ≠ '_')) (qString patchId)
          server.activeDisplayManagers).1.map patchResponse).getD notFound,
        { server with
          activeDisplayManagers := (servePatch object
            (utf16.encode (patchId.toList.takeWhile fun letter => letter ≠ '_')) (qString patchId)
            server.activeDisplayManagers).2 }) := by
  unfold handleRequest
  rw [session_of_requested decoder session requested, known]
  dsimp only
  rw [patch_of_requested decoder session plain requested, split_head]
  unfold qString
  rw [utf16.encode_takeWhile (show IsAscii '_' by decide)]

omit [DecidableEq Adapter] in
theorem handles_patch_url {patchId : String} (separator : '_' ∈ patchId.toList)
    (requested : Requested session patchId)
    (known : server.sessions (utf16.encode session.text) = some object) :
    doesHandleRequest decoder server (patchUrl session patchId) = true := by
  have mark : utf8.unit '_' ∈ patchUrl session patchId := by
    unfold patchUrl
    rw [requested.url, utf8.unit_mem_encode (by decide)]
    unfold patchLocation
    simp [separator]
  have shape : utf8.encode ['/', 'p', '/'] <:+: patchUrl session patchId := by
    unfold patchUrl
    rw [requested.url]
    exact location_shape session
  unfold doesHandleRequest
  rw [decide_eq_true shape, decide_eq_true mark, session_of_requested decoder session requested,
    known]
  rfl

omit [DecidableEq Adapter] in
/-- A request changes the display at hand only when it takes a patch out of it. -/
theorem handle_changes_display (managers : server.activeDisplayManagers = front ++ manager :: rest)
    (shown : manager.displays key = some run) {displayId name : Units} {changed : DisplayRun Adapter}
    (found : (PatchServer.mk server.sessions server.single (servePatch object displayId name
      server.activeDisplayManagers).2).displayAt front.length key = some changed)
    (differs : changed.display.patches ≠ run.display.patches) :
    displayId = key ∧ Unserved object displayId front ∧
      ∃ other, qString other = name ∧ changed.display = (run.display.takePatch other).2 := by
  rcases serve_cases object displayId name server.activeDisplayManagers with nothing |
    ⟨before, asker, behind, asked, patch, taken, split, unserved, own, named, outcome, served⟩
  · rw [display_at_front (by rw [nothing]; exact managers), shown, Option.some.injEq] at found
    exact absurd (congrArg (fun run => run.display.patches) found.symm) differs
  · by_cases here : before.length = front.length
    · have same := List.append_inj (split.symm.trans managers) here
      have heads := List.cons.inj same.2
      obtain ⟨other, otherNamed, display⟩ := take_named_cases outcome
      have id : qString taken.display.id = displayId := by
        rw [display]
        exact asker.keyed displayId asked named
      rw [← same.1, display_at_front (congrArg Prod.snd served)] at found
      unfold DisplayManager.setDisplay at found
      dsimp only at found
      have elsewhere : key = displayId := by
        by_contra away
        rw [id, Function.update_of_ne away, heads.1, shown, Option.some.injEq] at found
        exact differs (congrArg (fun run => run.display.patches) found.symm)
      rw [elsewhere] at shown found
      rw [heads.1, shown, Option.some.injEq] at named
      rw [id, Function.update_self, Option.some.injEq] at found
      refine ⟨elsewhere.symm, same.1 ▸ unserved, other, otherNamed, ?_⟩
      rw [← found, display, named]
    · rw [display_at_apart split (congrArg Prod.snd served) here, display_at_front managers, shown,
        Option.some.injEq] at found
      exact absurd (congrArg (fun run => run.display.patches) found.symm) differs

omit [DecidableEq Adapter] in
/-- A request under another identifier than the session's leaves its displays. -/
theorem handle_other_session (managers : server.activeDisplayManagers = front ++ manager :: rest)
    (own : manager.session = some object)
    (known : server.sessions (utf16.encode session.text) = some object) {url : Bytes}
    (other : parseIdFromUrl decoder url ≠ utf16.encode session.text) :
    (handleRequest decoder server url).2.displayAt front.length key =
      server.displayAt front.length key := by
  unfold handleRequest
  cases found : server.sessions (parseIdFromUrl decoder url) with
  | none => rfl
  | some stranger =>
      have strange : stranger ≠ object := by
        intro same
        rw [same] at found
        exact other (server.single _ _ _ found known)
      dsimp only
      rcases serve_cases stranger (((patchIdOfUrl decoder url).splitOn (utf16.unit '_')).headD [])
          (patchIdOfUrl decoder url) server.activeDisplayManagers with nothing |
        ⟨before, asker, behind, asked, patch, taken, split, _, asking, _, _, served⟩
      · rw [nothing]
      · have here : before.length ≠ front.length := by
          intro here
          have same := (List.append_inj (split.symm.trans managers) here).2
          rw [(List.cons.inj same).1, own, Option.some.injEq] at asking
          exact strange asking.symm
        exact display_at_apart split (congrArg Prod.snd served) here key

theorem manager_performs (actions : List (DisplayAction Adapter))
    (shown : manager.displays key = some run) {frame index : Nat}
    (named : patch.id = GraphicsSceneDisplay.patchId run.display.id frame index)
    (earlier : frame ≤ run.display.frame) :
    (actions.foldl (DisplayManager.perform platform key) manager).session = manager.session ∧
      (actions.foldl (DisplayManager.perform platform key) manager).displays key =
        some (actions.foldl (FrameFlow.perform platform) run) := by
  induction actions generalizing manager run with
  | nil => exact ⟨rfl, shown⟩
  | cons action actions induction =>
      have step := patch_step_perform platform run action named earlier
      have first : DisplayManager.perform platform key manager action =
          manager.setDisplay (FrameFlow.perform platform run action) := by
        unfold DisplayManager.perform
        rw [shown]
      have updated : (manager.setDisplay (FrameFlow.perform platform run action)).displays key =
          some (FrameFlow.perform platform run action) := by
        have name := manager.keyed key run shown
        rw [← step.id] at name
        rw [← name]
        exact manager.set_shown _
      rw [List.foldl_cons, List.foldl_cons, first]
      exact induction updated (by rw [step.id]; exact named) (Nat.le_trans earlier step.frame)

omit [DecidableEq Adapter] in
theorem named_patch_plain (plain : '/' ∉ run.display.id.toList) {frame index : Nat}
    (named : patch.id = GraphicsSceneDisplay.patchId run.display.id frame index) :
    '/' ∉ patch.id.toList := by
  rw [named]
  exact patch_id_without frame index plain (by decide) (by decide)

omit [DecidableEq Adapter] in
/-- An announced patch is asked for as it is exactly if its display's identifier is one that a
browser leaves alone. -/
theorem sent_patch_iff (frame index : Nat) (displayId : String) :
    SentAsIs (GraphicsSceneDisplay.patchId displayId frame index).toList ↔
      SentAsIs displayId.toList := by
  obtain ⟨tail, parts, letters⟩ := @patch_id_parts displayId frame index
  have plain : ∀ letter ∈ '_' :: tail,
      pathEncodes letter = false ∧ letter ≠ '\\' ∧ queryEncodes letter = false := by
    intro letter member
    rcases List.mem_cons.mp member with rfl | behind
    · decide
    · rcases letters letter behind with digit | rfl
      · exact digit_plain digit
      · decide
  rw [parts]
  apply sent_append
  · exact fun letter member => ⟨(plain letter member).1, (plain letter member).2.1⟩
  · exact fun letter member => (plain letter member).2.2

/-- A request that takes a patch out of the display found the display by the patch's name. -/
theorem fetched_traceable (plain : '/' ∉ run.display.id.toList) {frame index : Nat}
    (named : patch.id = GraphicsSceneDisplay.patchId run.display.id frame index)
    (waiting : run.display.patches.find? (fun other => other.id == patch.id) = some patch)
    (known : server.sessions (utf16.encode session.text) = some object)
    (managers : server.activeDisplayManagers = front ++ manager :: rest)
    (shown : manager.displays key = some run)
    (fetched : PatchFetched platform decoder server session front.length key patch) :
    Traceable object run.display.id front := by
  obtain ⟨tail, parts, _⟩ := @patch_id_parts run.display.id frame index
  rw [← named] at parts
  have keyName := manager.keyed key run shown
  have absent := named_patch_plain plain named
  have separator : '_' ∈ patch.id.toList := by
    rw [parts]
    simp
  obtain ⟨changed, found, gone⟩ := fetched.taken
  have differs : changed.display.patches ≠ run.display.patches := by
    intro same
    rw [same, waiting] at gone
    cases gone
  -- whoever was asked, the patch was found by its name
  have requested : Requested session patch.id := by
    apply requested_of_sent session absent separator
    apply sent_of_read decoder session absent separator
    unfold handleRequest at found
    cases asked : server.sessions (parseIdFromUrl decoder (patchUrl session patch.id)) with
    | none =>
        rw [asked] at found
        dsimp only at found
        rw [display_at_front managers, shown, Option.some.injEq] at found
        exact absurd (congrArg (fun run => run.display.patches) found.symm) differs
    | some stranger =>
        rw [asked] at found
        obtain ⟨_, _, other, otherName, outcome⟩ :=
          handle_changes_display managers shown found differs
        have same : other = patch.id := by
          by_contra away
          rw [outcome, find_taken_other away, waiting] at gone
          cases gone
        rw [same] at otherName
        exact otherName.symm
  rw [handle_patch_url absent requested known] at found
  obtain ⟨display, unserved, _⟩ := handle_changes_display managers shown found differs
  rw [← keyName] at display
  have cut : (patch.id.toList.takeWhile fun letter => letter ≠ '_') = run.display.id.toList :=
    utf16_injective display
  refine ⟨?_, ?_, ?_⟩
  · rw [← cut]
    intro member
    have letter := List.mem_takeWhile_imp member
    simp at letter
  · have sent := sent_of_read decoder session absent separator
      (patch_of_requested decoder session absent requested)
    rw [named] at sent
    exact (sent_patch_iff frame index run.display.id).mp sent
  · rw [display] at unserved
    exact unserved

omit [DecidableEq Adapter] in
theorem traceable_requested (plain : '/' ∉ run.display.id.toList) {frame index : Nat}
    (named : patch.id = GraphicsSceneDisplay.patchId run.display.id frame index)
    (traceable : Traceable object run.display.id front) : Requested session patch.id := by
  obtain ⟨tail, parts, _⟩ := @patch_id_parts run.display.id frame index
  have absent := named_patch_plain plain named
  apply requested_of_sent session absent
  · rw [named, parts]
    simp
  · rw [named]
    exact (sent_patch_iff frame index run.display.id).mpr traceable.sent

omit [DecidableEq Adapter] in
theorem traceable_request (plain : '/' ∉ run.display.id.toList) {frame index : Nat}
    (named : patch.id = GraphicsSceneDisplay.patchId run.display.id frame index)
    (shown : manager.displays key = some run) (traceable : Traceable object run.display.id front)
    {any : PatchServer Adapter} (known : any.sessions (utf16.encode session.text) = some object) :
    handleRequest decoder any (patchUrl session patch.id) =
      (((servePatch object key (qString patch.id) any.activeDisplayManagers).1.map
        patchResponse).getD notFound, { any with activeDisplayManagers :=
          (servePatch object key (qString patch.id) any.activeDisplayManagers).2 }) := by
  have cut := patch_id_cut frame index traceable.separated
  rw [← named] at cut
  rw [handle_patch_url (named_patch_plain plain named)
    (traceable_requested plain named traceable) known, cut, ← manager.keyed key run shown]
  rfl

/-- The first request for a patch takes it out of a traceable display, and a later one, whatever
the display has done by then, does not find it. -/
theorem traceable_fetched (plain : '/' ∉ run.display.id.toList) {frame index : Nat}
    (named : patch.id = GraphicsSceneDisplay.patchId run.display.id frame index)
    (earlier : frame ≤ run.display.frame)
    (waiting : run.display.patches.find? (fun other => other.id == patch.id) = some patch)
    (known : server.sessions (utf16.encode session.text) = some object)
    (managers : server.activeDisplayManagers = front ++ manager :: rest)
    (own : manager.session = some object) (shown : manager.displays key = some run)
    (traceable : Traceable object run.display.id front) :
    PatchFetched platform decoder server session front.length key patch := by
  obtain ⟨tail, parts, _⟩ := @patch_id_parts run.display.id frame index
  rw [← named] at parts
  have keyName := manager.keyed key run shown
  have request (any : PatchServer Adapter) :=
    @traceable_request Adapter decoder session object front manager run key patch plain frame index
      named shown traceable any
  have first : Unserved object key front := by
    rw [← keyName]
    exact traceable.first
  -- the first request takes the patch out of the display
  have served := @serve_first Adapter object key (qString patch.id) front rest manager run first own
    shown _ _ (take_named_found waiting)
  generalize takenRun : run.continue (run.display.takePatch patch.id).2
    [.tookPatch patch.id (some patch)] = taken at served
  have display : taken.display = (run.display.takePatch patch.id).2 := by
    rw [← takenRun]
    rfl
  have gone : taken.display.patches.find? (fun other => other.id == patch.id) = none := by
    rw [display]
    exact find_taken
  have takenNamed : patch.id = GraphicsSceneDisplay.patchId taken.display.id frame index := by
    rw [display]
    exact named
  have takenEarlier : frame ≤ taken.display.frame := by
    rw [display]
    exact earlier
  have updated : (manager.setDisplay taken).displays key = some taken := by
    have id : qString taken.display.id = key := by
      rw [display]
      exact keyName
    rw [← id]
    exact manager.set_shown taken
  rw [← managers] at served
  have answer := request server known
  rw [served] at answer
  refine ⟨?_, ?_, ?_, ?_, ?_⟩
  · exact handles_patch_url (by rw [parts]; simp) (traceable_requested plain named traceable) known
  · rw [answer]
    rfl
  · refine ⟨taken, ?_, gone⟩
    rw [answer]
    exact (display_at_front rfl key).trans updated
  · intro later
    have performed := @manager_performs Adapter _ platform (manager.setDisplay taken) taken key
      patch later updated frame index takenNamed takenEarlier
    have absent := (patch_step_run platform later taken takenNamed takenEarlier).lost gone
    have lacking := @serve_lacking Adapter object key (qString patch.id) front rest _ _ first
      (performed.1.trans own) performed.2 (take_named_absent absent)
    have second := request (PatchServer.performAll platform front.length key later
      ⟨server.sessions, server.single, front ++ manager.setDisplay taken :: rest⟩) known
    rw [answer]
    refine (congrArg Prod.fst second).trans ?_
    unfold PatchServer.performAll
    dsimp only
    rw [modify_at_append, lacking]
    rfl
  · intro url other
    exact handle_other_session managers own known other

/-- A patch that waits under its name is fetched exactly when its display is traceable. -/
theorem patch_fetched_iff (plain : '/' ∉ run.display.id.toList) {frame index : Nat}
    (named : patch.id = GraphicsSceneDisplay.patchId run.display.id frame index)
    (earlier : frame ≤ run.display.frame)
    (waiting : run.display.patches.find? (fun other => other.id == patch.id) = some patch)
    (known : server.sessions (utf16.encode session.text) = some object)
    (managers : server.activeDisplayManagers = front ++ manager :: rest)
    (own : manager.session = some object) (shown : manager.displays key = some run) :
    PatchFetched platform decoder server session front.length key patch ↔
      Traceable object run.display.id front :=
  ⟨fetched_traceable plain named waiting known managers shown,
    traceable_fetched plain named earlier waiting known managers own shown⟩

/-- An announced patch is fetched, whatever happens before the client is ready or a full update
is forced, exactly when its display is traceable. -/
theorem announced_patch_fetched_iff {announcing : DisplayRun Adapter} {returnBinary : Bool}
    {frame : Nat} {rect : QRect} {artefactMargin : Int} {mimeType patchId : String}
    (plain : '/' ∉ announcing.display.id.toList)
    (announced : DisplayMessage.dI frame rect artefactMargin mimeType (.fetch patchId) ∈
      (announcing.display.takePendingMessages platform announcing.scenes returnBinary).2)
    {between : List (DisplayAction Adapter)} (keeps : ∀ action ∈ between, KeepsPatch patchId action)
    (known : server.sessions (utf16.encode session.text) = some object)
    (managers : server.activeDisplayManagers = front ++ manager :: rest)
    (own : manager.session = some object)
    (shown : manager.displays key = some (between.foldl (FrameFlow.perform platform)
      (FrameFlow.perform platform announcing (.takePendingMessages returnBinary)))) :
    PatchFetched platform decoder server session front.length key
        (announcedPatch platform announcing returnBinary rect patchId) ↔
      Traceable object announcing.display.id front := by
  obtain ⟨⟨number, index, earlier, named⟩, id, found⟩ := announced_found announced
  have step := patch_step_run platform between
    (FrameFlow.perform platform announcing (.takePendingMessages returnBinary))
    (show patchId = GraphicsSceneDisplay.patchId _ number index from by rw [named, ← id]; rfl) earlier
  have sameId := step.id.trans id
  rw [← sameId] at plain named ⊢
  exact patch_fetched_iff plain named (Nat.le_trans earlier step.frame)
    ((step.kept keeps).trans found) known managers own shown

end Requests

section Sample

/-- A display of one white pixel whose patches are all fetched. -/
def sampleAnnouncing (displayId : String) : DisplayRun Unit :=
  [.setEncoderSettings { EncoderSettings.default with inlineMaxBytes := 0 },
    .setComparerSettings { FrameComparison.ComparerSettings.default with
      tileWidth := 1, analyzeFills := false }].foldl (FrameFlow.perform DisplayPlatform.reference)
    { display := create DisplayPlatform.reference (fun _ => ⟨1, 1, fun _ => 0xFFFFFFFF⟩) displayId
        (some ())
      scenes := fun _ => ⟨1, 1, fun _ => 0xFFFFFFFF⟩
      log := [] }

def sampleSession : SessionId where
  text := "0123456789".toList
  length := rfl
  hex := List.all_iff_forall_prop.mp (by decide)

def emptyManager (session : Nat) : DisplayManager Unit where
  session := some session
  displays := fun _ => none
  keyed := by
    intro key run found
    cases found

def sampleAnnounced (displayId : String) : DisplayRun Unit :=
  FrameFlow.perform DisplayPlatform.reference (sampleAnnouncing displayId) (.takePendingMessages false)

def sampleServer (displayId : String) : PatchServer Unit where
  sessions := fun id => if id = utf16.encode sampleSession.text then some 0 else none
  single := by
    intro first second object firstFound secondFound
    rw [Option.ite_none_right_eq_some] at firstFound secondFound
    exact firstFound.1.trans secondFound.1.symm
  activeDisplayManagers := [(emptyManager 0).setDisplay (sampleAnnounced displayId)]

theorem sample_known (displayId : String) :
    (sampleServer displayId).sessions (utf16.encode sampleSession.text) = some 0 := by
  unfold sampleServer
  dsimp only
  rw [if_pos rfl]

theorem plain_display_patch_fetched :
    PatchFetched DisplayPlatform.reference strictDecoder (sampleServer "d") sampleSession 0
      (qString (sampleAnnounced "d").display.id)
      (announcedPatch DisplayPlatform.reference (sampleAnnouncing "d") false ⟨0, 0, 0, 0⟩ "d_1_0") := by
  have announced : DisplayMessage.dI 1 ⟨0, 0, 0, 0⟩ 0 "image/bmp" (.fetch "d_1_0") ∈
      ((sampleAnnouncing "d").display.takePendingMessages DisplayPlatform.reference
        (sampleAnnouncing "d").scenes false).2 := by
    decide
  have plain : '/' ∉ (sampleAnnouncing "d").display.id.toList := by
    decide
  have traceable : Traceable 0 (sampleAnnouncing "d").display.id ([] : List (DisplayManager Unit)) :=
    ⟨by decide, by decide, fun _ member => absurd member List.not_mem_nil⟩
  have shown := DisplayManager.set_shown (emptyManager 0) (sampleAnnounced "d")
  exact (announced_patch_fetched_iff plain announced (fun _ member => absurd member List.not_mem_nil)
    (sample_known "d") rfl rfl shown).mpr traceable

/-- The display is looked up as `a`. -/
theorem underscore_patch_not_found :
    DisplayMessage.dI 1 ⟨0, 0, 0, 0⟩ 0 "image/bmp" (.fetch "a_b_1_0") ∈
        ((sampleAnnouncing "a_b").display.takePendingMessages DisplayPlatform.reference
          (sampleAnnouncing "a_b").scenes false).2 ∧
      ¬ PatchFetched DisplayPlatform.reference strictDecoder (sampleServer "a_b") sampleSession 0
        (qString (sampleAnnounced "a_b").display.id)
        (announcedPatch DisplayPlatform.reference (sampleAnnouncing "a_b") false ⟨0, 0, 0, 0⟩
          "a_b_1_0") := by
  have announced : DisplayMessage.dI 1 ⟨0, 0, 0, 0⟩ 0 "image/bmp" (.fetch "a_b_1_0") ∈
      ((sampleAnnouncing "a_b").display.takePendingMessages DisplayPlatform.reference
        (sampleAnnouncing "a_b").scenes false).2 := by
    decide
  refine ⟨announced, ?_⟩
  intro fetched
  obtain ⟨⟨number, index, earlier, named⟩, _, found⟩ := announced_found announced
  have plain : '/' ∉ (sampleAnnounced "a_b").display.id.toList := by
    decide
  have shown := DisplayManager.set_shown (emptyManager 0) (sampleAnnounced "a_b")
  have traceable : PatchFetched DisplayPlatform.reference strictDecoder (sampleServer "a_b")
      sampleSession ([] : List (DisplayManager Unit)).length
      (qString (sampleAnnounced "a_b").display.id)
      (announcedPatch DisplayPlatform.reference (sampleAnnouncing "a_b") false ⟨0, 0, 0, 0⟩
        "a_b_1_0") ↔ Traceable 0 (sampleAnnounced "a_b").display.id [] :=
    patch_fetched_iff plain named earlier found (sample_known "a_b") rfl rfl shown
  exact (traceable.mp fetched).separated (by decide)

end Sample

end Viridity.PatchRequests
