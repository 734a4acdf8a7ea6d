import Mathlib.Data.List.Infix
import Viridity.DisplayMessageText
import Viridity.PatchRequests
import Viridity.PlayerPainting

/-!
# GraphicsSceneDisplayRecorder and GraphicsSceneDisplayDumpIterator

A dump is the list of the values that were streamed into it. The recorder appends a frame to
each file that has a name; the iterator reads the values back and paints the messages of a
frame on its work buffer, which it keeps from frame to frame.
-/

namespace Viridity.DisplayDumps

open Viridity.QtRectangle
open Viridity.ImageAux
open Viridity.PaintedCanvas
open Viridity.BufferRenderer
open Viridity.SceneDisplay
open Viridity.NumberText
open Viridity.TextEncoding
open Viridity.TextScanning
open Viridity.ServerMessages
open Viridity.PatchRequests
open Viridity.DisplayMessageText
open Viridity.PlayerPainting

set_option autoImplicit false

inductive DumpItem where
  | number (value : Int)
  | bytes (data : Bytes)
  | text (units : Units)
  | size (width height : Int)
  | messages (list : List Bytes)
  | image (image : QImage)

/-- A file of a dump; it is open once its type has been written. -/
structure DumpFile where
  fileName : String
  items : List DumpItem

def DumpFile.opened (file : DumpFile) (type : String) : DumpFile :=
  if file.fileName ≠ "" ∧ file.items = [] then
    { file with items := [.bytes (utf8.encode type.toList)] }
  else file

def DumpFile.write (file : DumpFile) (items : List DumpItem) : DumpFile :=
  if file.items = [] then file else { file with items := file.items ++ items }

structure GraphicsSceneDisplayRecorder where
  frameTimeStamp : Int
  fullFrameFile : DumpFile
  diffFrameFile : DumpFile

def GraphicsSceneDisplayRecorder.create : GraphicsSceneDisplayRecorder where
  frameTimeStamp := 0
  fullFrameFile := ⟨"", []⟩
  diffFrameFile := ⟨"", []⟩

/-- `setFileName` closes a file that is open. -/
def GraphicsSceneDisplayRecorder.setFullFrameFilename (recorder : GraphicsSceneDisplayRecorder)
    (filename : String) : GraphicsSceneDisplayRecorder :=
  { recorder with fullFrameFile := ⟨filename, []⟩ }

def GraphicsSceneDisplayRecorder.setDiffFrameFilename (recorder : GraphicsSceneDisplayRecorder)
    (filename : String) : GraphicsSceneDisplayRecorder :=
  { recorder with diffFrameFile := ⟨filename, []⟩ }

def GraphicsSceneDisplayRecorder.setNextFrameTimeStamp (recorder : GraphicsSceneDisplayRecorder)
    (ts : Int) : GraphicsSceneDisplayRecorder :=
  { recorder with frameTimeStamp := ts }

/-- What `displayNewFrameMessagesGenerated` finds: the clock, the buffer and the patches of the
display, in the order of its hash, and the messages. -/
structure RecordedFrame where
  frameTimeStamp : Int
  buffer : QImage
  messages : List Bytes
  patches : List GraphicsSceneFramePatch

def RecordedFrame.body (frame : RecordedFrame) : List DumpItem :=
  [.size frame.buffer.width frame.buffer.height, .messages frame.messages,
    .number frame.patches.length] ++
      frame.patches.flatMap fun patch => [.text (qString patch.id), .bytes patch.data]

def RecordedFrame.items (frame : RecordedFrame) : List DumpItem :=
  .number frame.frameTimeStamp :: frame.body

/-- The frame as it is recorded: with the time stamp that was set, if any. -/
def GraphicsSceneDisplayRecorder.stamped (recorder : GraphicsSceneDisplayRecorder)
    (frame : RecordedFrame) : RecordedFrame :=
  if recorder.frameTimeStamp > 0 then { frame with frameTimeStamp := recorder.frameTimeStamp }
  else frame

def GraphicsSceneDisplayRecorder.displayNewFrameMessagesGenerated
    (recorder : GraphicsSceneDisplayRecorder) (frame : RecordedFrame) :
    GraphicsSceneDisplayRecorder where
  frameTimeStamp := 0
  fullFrameFile := (recorder.fullFrameFile.opened "full").write
    [.number (recorder.stamped frame).frameTimeStamp, .image frame.buffer]
  diffFrameFile := (recorder.diffFrameFile.opened "diff").write (recorder.stamped frame).items

inductive DumpType where
  | invalid
  | full
  | diff
deriving DecidableEq

structure GraphicsSceneDisplayDumpIterator where
  type : DumpType
  inputData : List DumpItem
  startTimeStamp : Int
  currentTimeStamp : Int
  lastTimeStamp : Int
  workBuffer : QImage

section Stream

/-- `inputData_ >> value` for a number; the other readers do the same for their kinds. -/
def readNumber : List DumpItem → Int × List DumpItem
  | .number value :: rest => (value, rest)
  | rest => (0, rest)

def readBytes : List DumpItem → Bytes × List DumpItem
  | .bytes data :: rest => (data, rest)
  | rest => ([], rest)

def readText : List DumpItem → Units × List DumpItem
  | .text units :: rest => (units, rest)
  | rest => ([], rest)

def readSize : List DumpItem → (Int × Int) × List DumpItem
  | .size width height :: rest => ((width, height), rest)
  | rest => ((-1, -1), rest)

def readMessages : List DumpItem → List Bytes × List DumpItem
  | .messages list :: rest => (list, rest)
  | rest => ([], rest)

def readImage : List DumpItem → QImage × List DumpItem
  | .image image :: rest => (image, rest)
  | rest => (nullImage, rest)

/-- The loop over the patches; each is inserted into the hash. -/
def readPatches : Nat → List (Units × Bytes) → List DumpItem → List (Units × Bytes) × List DumpItem
  | 0, patches, items => (patches, items)
  | count + 1, patches, items =>
      let (patchId, afterId) := readText items
      let (imageData, rest) := readBytes afterId
      readPatches count ((patchId, imageData) :: patches) rest

/-- `patches.value(patchId)`: what was inserted last, or nothing. -/
def patchValue (patches : List (Units × Bytes)) (patchId : Units) : Bytes :=
  ((patches.find? fun patch => patch.1 = patchId).map Prod.snd).getD []

end Stream

namespace GraphicsSceneDisplayDumpIterator

def create : GraphicsSceneDisplayDumpIterator where
  type := .invalid
  inputData := []
  startTimeStamp := -1
  currentTimeStamp := 0
  lastTimeStamp := 0
  workBuffer := nullImage

def setFilename (iterator : GraphicsSceneDisplayDumpIterator) (content : List DumpItem) :
    GraphicsSceneDisplayDumpIterator :=
  let (type, rest) := readBytes content
  let dumpType :=
    if type = utf8.encode "full".toList then DumpType.full
    else if type = utf8.encode "diff".toList then DumpType.diff
    else DumpType.invalid
  if dumpType ≠ .invalid then
    let (startTimeStamp, inputData) := readNumber rest
    { iterator with
      type := dumpType
      inputData := inputData
      startTimeStamp := startTimeStamp
      currentTimeStamp := startTimeStamp
      lastTimeStamp := startTimeStamp }
  else { iterator with type := .invalid, inputData := rest, startTimeStamp := -1 }

variable (codec : PatchCodec) (decoder : Decoder)

/-- The data of a `dI` message: fetched, decoded or as it stands between two colons. -/
def imageData (patches : List (Units × Bytes)) (parts : List Bytes) (mimeType : Units) : Bytes :=
  if (utf8.encode "fb".toList).isPrefixOf (parts.getD 1 []) ∧ parts.length > 2 then
    patchValue patches (toQString decoder (parts.getD 2 []))
  else if qString ";base64" <:+: mimeType then Base64.decode (parts.getD 1 [])
  else parts.getD 1 []

def messageOperation (patches : List (Units × Bytes)) (imageBefore : QImage) (message : Bytes) :
    Option (Patch QPoint QRgb) :=
  let message := afterTarget message
  let split := splitMessage decoder message [] []
  let number := fun index => toInt (split.params.getD index [])
  if split.command = qString "dI" ∨ split.command = qString "drawImage" then
    let parts := message.splitOn (utf8.unit ':')
    if parts.length > 1 then
      let mimeType := split.params.getD 6 []
      some (drawPatch codec (imageData decoder patches parts mimeType)
        (decide (qString ";pa" <:+: mimeType)) (number 1) (number 2) (number 3) (number 4) (number 5))
    else none
  else if split.command = qString "fR" ∨ split.command = qString "fillRect" then
    some (fillRect (number 1) (number 2) (number 3) (number 4)
      (colourOf (number 5) (number 6) (number 7) (number 8)))
  else if split.command = qString "mI" ∨ split.command = qString "moveImage" then
    some (drawImagePart imageBefore (number 5) (number 6) (number 1) (number 2) (number 3) (number 4))
  else none

/-- The work buffer in the size of a frame; what it had is drawn over transparent pixels. -/
def resized (workBuffer : QImage) (width height : Int) : QImage :=
  if width ≠ workBuffer.width ∨ height ≠ workBuffer.height then
    painted (blankImage width height) (drawImage workBuffer 0 0 0 0)
  else workBuffer

/-- The frame after the messages; moves read the image before in its old size. -/
def shownFrame (workBuffer : QImage) (width height : Int) (messages : List Bytes)
    (patches : List (Units × Bytes)) : QImage :=
  { resized workBuffer width height with
    pixel := paintAll (resized workBuffer width height).pixel
      (messages.filterMap (messageOperation codec decoder patches workBuffer)) }

def advanceToNextFrame (iterator : GraphicsSceneDisplayDumpIterator) :
    Int × GraphicsSceneDisplayDumpIterator :=
  if iterator.type = .invalid then (-1, iterator)
  else
    let (workBuffer, rest) :=
      if iterator.type = .full then readImage iterator.inputData
      else
        let ((width, height), afterSize) := readSize iterator.inputData
        let (messages, afterMessages) := readMessages afterSize
        let (patchCount, afterCount) := readNumber afterMessages
        let (patches, afterPatches) := readPatches patchCount.toNat [] afterCount
        (shownFrame codec decoder iterator.workBuffer width height messages patches, afterPatches)
    let advanced := { iterator with
      currentTimeStamp := iterator.lastTimeStamp, workBuffer := workBuffer, inputData := rest }
    if rest = [] then (0, advanced)
    else
      let (frameTimeStamp, following) := readNumber rest
      (frameTimeStamp - iterator.lastTimeStamp,
        { advanced with inputData := following, lastTimeStamp := frameTimeStamp })

/-- The iterator after a number of calls of `advanceToNextFrame` on a dump. -/
def replayed (content : List DumpItem) : Nat → GraphicsSceneDisplayDumpIterator
  | 0 => create.setFilename content
  | count + 1 => ((replayed content count).advanceToNextFrame codec decoder).2

def outputFrame (iterator : GraphicsSceneDisplayDumpIterator) : QImage := iterator.workBuffer

end GraphicsSceneDisplayDumpIterator

def dumpItems : List RecordedFrame → List DumpItem
  | [] => []
  | frames => .bytes (utf8.encode "diff".toList) :: frames.flatMap RecordedFrame.items

def storedEntry (patch : GraphicsSceneFramePatch) : Units × Bytes :=
  (qString patch.id, patch.data)

def RecordedFrame.shown (codec : PatchCodec) (decoder : Decoder) (workBuffer : QImage)
    (frame : RecordedFrame) : QImage :=
  GraphicsSceneDisplayDumpIterator.shownFrame codec decoder workBuffer frame.buffer.width
    frame.buffer.height frame.messages (frame.patches.map storedEntry).reverse

section Recording

variable {frame : RecordedFrame} {frames : List RecordedFrame} {file : DumpFile}

theorem write_unnamed (unnamed : file.fileName = "") (empty : file.items = []) (type : String)
    (items : List DumpItem) : (file.opened type).write items = file := by
  have closed : file.opened type = file := by
    unfold DumpFile.opened
    rw [if_neg fun both => both.1 unnamed]
  rw [closed]
  unfold DumpFile.write
  rw [if_pos empty]

theorem dump_items_cons : dumpItems (frame :: frames) =
    .bytes (utf8.encode "diff".toList) :: (frame :: frames).flatMap RecordedFrame.items := rfl

theorem dump_items_snoc (named : file.fileName ≠ "") (items : file.items = dumpItems frames) :
    ((file.opened "diff").write frame.items).items = dumpItems (frames ++ [frame]) ∧
      ((file.opened "diff").write frame.items).fileName = file.fileName := by
  cases frames with
  | nil =>
      have opened : file.opened "diff" =
          { file with items := [.bytes (utf8.encode "diff".toList)] } := by
        unfold DumpFile.opened
        rw [if_pos ⟨named, items⟩]
      rw [opened]
      unfold DumpFile.write
      rw [if_neg (List.cons_ne_nil _ _), List.nil_append, dump_items_cons, List.flatMap_cons,
        List.flatMap_nil, List.append_nil]
      exact ⟨rfl, rfl⟩
  | cons first others =>
      rw [dump_items_cons] at items
      have opened : file.opened "diff" = file := by
        unfold DumpFile.opened
        rw [if_neg]
        intro both
        rw [items] at both
        exact List.cons_ne_nil _ _ both.2
      have written : file.items ≠ [] := by
        rw [items]
        exact List.cons_ne_nil _ _
      rw [opened]
      unfold DumpFile.write
      rw [if_neg written, items]
      refine ⟨?_, rfl⟩
      change _ = .bytes (utf8.encode "diff".toList) ::
        ((first :: others) ++ [frame]).flatMap RecordedFrame.items
      rw [List.flatMap_append, List.flatMap_singleton]
      rfl

end Recording

section Replaying

open GraphicsSceneDisplayDumpIterator

variable (codec : PatchCodec) (decoder : Decoder)

theorem read_patches_items (stored : List GraphicsSceneFramePatch) (patches : List (Units × Bytes))
    (rest : List DumpItem) :
    readPatches stored.length patches (stored.flatMap (fun patch =>
        [.text (qString patch.id), .bytes patch.data]) ++ rest) =
      ((stored.map storedEntry).reverse ++ patches, rest) := by
  induction stored generalizing patches with
  | nil => rfl
  | cons patch stored induction =>
      rw [List.map_cons, List.reverse_cons, List.append_assoc, List.singleton_append]
      exact induction _

theorem advance_frame {iterator : GraphicsSceneDisplayDumpIterator} (diff : iterator.type = .diff)
    {frame : RecordedFrame} {rest : List DumpItem} (input : iterator.inputData = frame.body ++ rest) :
    (iterator.advanceToNextFrame codec decoder).2.type = .diff ∧
      (iterator.advanceToNextFrame codec decoder).2.workBuffer =
        frame.shown codec decoder iterator.workBuffer ∧
      (iterator.advanceToNextFrame codec decoder).2.inputData = (readNumber rest).2 := by
  have patches := read_patches_items frame.patches [] rest
  rw [List.append_nil] at patches
  unfold advanceToNextFrame
  rw [diff, input]
  rw [if_neg (by decide), if_neg (by decide)]
  unfold RecordedFrame.body
  simp only [List.cons_append, List.nil_append, readSize, readMessages, readNumber,
    Int.toNat_natCast, patches]
  split_ifs with last
  · rw [last]
    exact ⟨rfl, rfl, rfl⟩
  · exact ⟨rfl, rfl, rfl⟩

theorem set_filename_dump (frame : RecordedFrame) (frames : List RecordedFrame) :
    (create.setFilename (dumpItems (frame :: frames))).type = .diff ∧
      (create.setFilename (dumpItems (frame :: frames))).workBuffer = nullImage ∧
      (create.setFilename (dumpItems (frame :: frames))).inputData =
        frame.body ++ frames.flatMap RecordedFrame.items := by
  have other : utf8.encode "diff".toList ≠ utf8.encode "full".toList := by decide
  rw [dump_items_cons]
  unfold setFilename
  simp only [readBytes, other, if_false, if_true, ne_eq, reduceCtorEq, not_false_eq_true]
  exact ⟨trivial, rfl, rfl⟩

theorem replayed_before (frames : List RecordedFrame) {count : Nat} (inside : count < frames.length) :
    (replayed codec decoder (dumpItems frames) count).type = .diff ∧
      (replayed codec decoder (dumpItems frames) count).workBuffer =
        (frames.take count).foldl (RecordedFrame.shown codec decoder) nullImage ∧
      (replayed codec decoder (dumpItems frames) count).inputData =
        frames[count].body ++ (frames.drop (count + 1)).flatMap RecordedFrame.items := by
  induction count with
  | zero =>
      cases frames with
      | nil => exact absurd inside (Nat.lt_irrefl 0)
      | cons frame frames => exact set_filename_dump frame frames
  | succ count induction =>
      have earlier : count < frames.length := by omega
      obtain ⟨type, shown, input⟩ := induction earlier
      have advanced := advance_frame codec decoder type input
      have following : frames.drop (count + 1) =
          frames[count + 1] :: frames.drop (count + 1 + 1) := List.drop_eq_getElem_cons inside
      refine ⟨advanced.1, ?_, ?_⟩
      · rw [List.take_succ_eq_append_getElem earlier, List.foldl_append, ← shown]
        exact advanced.2.1
      · unfold replayed
        rw [advanced.2.2, following, List.flatMap_cons]
        rfl

/-- The k-th call shows the k-th frame on top of those before it. -/
theorem replayed_frame (frames : List RecordedFrame) {count : Nat} (inside : count < frames.length) :
    (replayed codec decoder (dumpItems frames) (count + 1)).outputFrame =
      (frames.take (count + 1)).foldl (RecordedFrame.shown codec decoder) nullImage := by
  obtain ⟨type, shown, input⟩ := replayed_before codec decoder frames inside
  have advanced := advance_frame codec decoder type input
  rw [List.take_succ_eq_append_getElem inside, List.foldl_append, ← shown]
  exact advanced.2.1

end Replaying

/-- A message with a payload the iterator finds whole: a colon ends one that stands there as it
is, and an identifier must survive as a `QString`. -/
def ReadableMessage : DisplayMessage → Prop
  | .dI _ _ _ mimeType (.inline data base64) =>
      PlainType mimeType ∧ (qString ";base64" <:+: qString mimeType ↔ base64 = true) ∧
        (base64 = false → utf8.unit ':' ∉ data)
  | .dI _ _ _ mimeType (.fetch patchId) =>
      PlainType mimeType ∧ ':' ∉ patchId.toList ∧ kept patchId.toList = patchId.toList
  | _ => True

/-- The data of a patch, given those of the patches that are fetched. -/
def payloadData (fetched : String → Bytes) : PatchPayload → Bytes
  | .inline data _ => data
  | .fetch patchId => fetched patchId

def intendedOperation (codec : PatchCodec) (fetched : String → Bytes) (imageBefore : QImage) :
    DisplayMessage → Option (Patch QPoint QRgb)
  | .dI _ rect artefactMargin mimeType payload =>
      some (drawPatch codec (payloadData fetched payload) (decide (qString ";pa" <:+: qString mimeType))
        rect.x1 rect.y1 rect.width rect.height artefactMargin)
  | .mI _ rect dstPoint =>
      some (drawImagePart imageBefore dstPoint.x dstPoint.y rect.x1 rect.y1 rect.width rect.height)
  | .fR _ rect fillColor =>
      some (fillRect rect.x1 rect.y1 rect.width rect.height fillColor)
  | .fullUpdate _ => none
  | .frameEnd _ => none

section Messages

open GraphicsSceneDisplayDumpIterator

variable {codec : PatchCodec} {decoder : Decoder} {message : DisplayMessage}

theorem readable_plain (readable : ReadableMessage message) : PlainMessage message := by
  cases message with
  | dI frame rect artefactMargin mimeType payload =>
      cases payload with
      | inline data base64 => exact readable.1
      | fetch patchId => exact readable.1
  | fullUpdate frame => trivial
  | mI frame rect dstPoint => trivial
  | fR frame rect fillColor => trivial
  | frameEnd frame => trivial

/-- The call is the first part of a message and the pieces of its payload are the others. -/
theorem header_split (plain : PlainMessage message) {pieces : List Bytes} (nonempty : pieces ≠ [])
    (colonless : ∀ piece ∈ pieces, utf8.unit ':' ∉ piece) :
    (utf8.encode (headerText message) ++ [utf8.unit ':'].intercalate pieces).splitOn
        (utf8.unit ':') =
      utf8.encode (call (frameCall message).1 (frameCall message).2) :: pieces := by
  have whole : utf8.encode (headerText message) ++ [utf8.unit ':'].intercalate pieces =
      [utf8.unit ':'].intercalate
        (utf8.encode (call (frameCall message).1 (frameCall message).2) :: pieces) := by
    cases pieces with
    | nil => exact absurd rfl nonempty
    | cons first others =>
        unfold headerText
        rw [Coding.encode_append, List.intercalate_cons_cons]
        rfl
  rw [whole]
  apply List.splitOn_intercalate
  · intro piece member
    rcases List.mem_cons.mp member with first | later
    · rw [first, utf8.unit_mem_encode (by decide)]
      exact frame_call_colon plain
    · exact colonless piece later
  · exact List.cons_ne_nil _ _

theorem payload_read {frame : Nat} {rect : QRect} {artefactMargin : Int} {mimeType : String}
    {payload : PatchPayload} (patches : List (Units × Bytes))
    (readable : ReadableMessage (.dI frame rect artefactMargin mimeType payload)) :
    let parts := (utf8.encode (headerText (.dI frame rect artefactMargin mimeType payload)) ++
      payloadBytes (.dI frame rect artefactMargin mimeType payload)).splitOn (utf8.unit ':')
    parts.length > 1 ∧ imageData decoder patches parts (qString mimeType) =
      payloadData (fun patchId => patchValue patches (qString patchId)) payload := by
  have plain := readable_plain readable
  cases payload with
  | inline data base64 =>
      have written : payloadBytes (.dI frame rect artefactMargin mimeType (.inline data base64)) =
          if base64 then Base64.encode data else data := rfl
      have colonless : ∀ piece ∈ [if base64 then Base64.encode data else data],
          utf8.unit ':' ∉ piece := by
        intro piece member
        rw [List.mem_singleton.mp member]
        cases base64 with
        | true => exact Base64.colon_not_mem_encode data
        | false => exact readable.2.2 rfl
      have parts := header_split plain (List.cons_ne_nil _ _) colonless
      rw [List.intercalate_singleton] at parts
      rw [written, parts]
      refine ⟨Nat.lt_succ_self 1, ?_⟩
      unfold imageData
      rw [if_neg (fun both => absurd both.2 (Nat.lt_irrefl 2))]
      cases base64 with
      | true =>
          rw [if_pos (readable.2.1.mpr rfl)]
          exact Base64.decode_encode data
      | false =>
          rw [if_neg (fun found => absurd (readable.2.1.mp found) Bool.false_ne_true)]
          rfl
  | fetch patchId =>
      have written : payloadBytes (.dI frame rect artefactMargin mimeType (.fetch patchId)) =
          [utf8.unit ':'].intercalate [utf8.encode "fb".toList, utf8.encode patchId.toList] := by
        change utf8.encode ("fb:".toList ++ patchId.toList) = _
        rw [Coding.encode_append, List.intercalate_cons_cons, List.intercalate_singleton,
          List.append_assoc]
        rfl
      have colonless : ∀ piece ∈ [utf8.encode "fb".toList, utf8.encode patchId.toList],
          utf8.unit ':' ∉ piece := by
        intro piece member
        rcases List.mem_cons.mp member with tag | identifier
        · rw [tag]
          decide
        · rw [List.mem_singleton.mp identifier, utf8.unit_mem_encode (by decide)]
          exact readable.2.1
      rw [written, header_split plain (List.cons_ne_nil _ _) colonless]
      refine ⟨by simp, ?_⟩
      unfold imageData
      have fetches : (utf8.encode "fb".toList).isPrefixOf (utf8.encode "fb".toList) = true := by
        decide
      rw [if_pos ⟨fetches, Nat.lt_succ_self 2⟩]
      change patchValue patches (toQString decoder (utf8.encode patchId.toList)) = _
      rw [to_string_encoded, readable.2.2]
      rfl

theorem message_operation (reads : ReadsAscii decoder) {displayId : String}
    (unmarked : '>' ∉ displayId.toList) (readable : ReadableMessage message)
    (patches : List (Units × Bytes)) (imageBefore : QImage) :
    messageOperation codec decoder patches imageBefore (messageBytes decoder displayId message) =
      intendedOperation codec (fun patchId => patchValue patches (qString patchId))
        imageBefore message := by
  have plain := readable_plain readable
  have split := split_message reads plain (payloadBytes message)
  have number := to_int_number_text
  unfold messageOperation
  dsimp only
  rw [after_target reads unmarked plain, split.1, split.2]
  cases message with
  | fullUpdate frame =>
      have command : utf16.encode (frameCall (.fullUpdate frame)).1 = qString "fullUpdate" := rfl
      simp only [command, q_string_eq_iff, String.reduceEq, or_self, if_false]
      rfl
  | dI frame rect artefactMargin mimeType payload =>
      have command : utf16.encode (frameCall (.dI frame rect artefactMargin mimeType payload)).1 =
          qString "dI" := rfl
      have data := @payload_read decoder frame rect artefactMargin mimeType payload patches readable
      simp only [command, q_string_eq_iff, true_or, if_true]
      have params : (frameCall (.dI frame rect artefactMargin mimeType payload)).2 =
          [numberText frame, numberText rect.x1, numberText rect.y1, numberText rect.width,
            numberText rect.height, numberText artefactMargin, mimeType.toList] := rfl
      rw [if_pos data.1, params]
      simp only [List.map_cons, List.map_nil, List.getD_cons_zero, List.getD_cons_succ, number]
      change some (drawPatch codec (imageData decoder patches _ (qString mimeType)) _ rect.x1 rect.y1
        rect.width rect.height artefactMargin) = _
      rw [data.2]
      rfl
  | mI frame rect dstPoint =>
      have command : utf16.encode (frameCall (.mI frame rect dstPoint)).1 = qString "mI" := rfl
      simp only [command, q_string_eq_iff, String.reduceEq, or_self, true_or, if_false, if_true]
      have params : (frameCall (.mI frame rect dstPoint)).2 =
          [numberText frame, numberText rect.x1, numberText rect.y1, numberText rect.width,
            numberText rect.height, numberText dstPoint.x, numberText dstPoint.y] := rfl
      rw [params]
      simp only [List.map_cons, List.map_nil, List.getD_cons_zero, List.getD_cons_succ, number]
      rfl
  | fR frame rect fillColor =>
      have command : utf16.encode (frameCall (.fR frame rect fillColor)).1 = qString "fR" := rfl
      have colour := colour_read fillColor
      simp only [command, q_string_eq_iff, String.reduceEq, or_self, true_or, if_false, if_true]
      have params : (frameCall (.fR frame rect fillColor)).2 =
          [numberText frame, numberText rect.x1, numberText rect.y1, numberText rect.width,
            numberText rect.height, numberText ((colourComponents fillColor).getD 0 0),
            numberText ((colourComponents fillColor).getD 1 0),
            numberText ((colourComponents fillColor).getD 2 0),
            numberText ((colourComponents fillColor).getD 3 0)] := rfl
      rw [params]
      simp only [List.map_cons, List.map_nil, List.getD_cons_zero, List.getD_cons_succ, number]
      rw [colour]
      rfl
  | frameEnd frame =>
      have command : utf16.encode (frameCall (.frameEnd frame)).1 = qString "end" := rfl
      simp only [command, q_string_eq_iff, String.reduceEq, or_self, if_false]
      rfl

end Messages

end Viridity.DisplayDumps
