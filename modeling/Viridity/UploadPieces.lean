import Mathlib.Data.List.Forall2
import Viridity.UploadSteps

/-!
# Pieces of a well-formed body

The handler on the headers and the data of one part: it finds the end of the headers,
opens the file under the names of the part, and cuts off what stands in front of the
next boundary.
-/

namespace Viridity.UploadPieces

open Viridity.EventLogs
open Viridity.FileUpload
open Viridity.FormBody
open Viridity.HeaderParameters
open Viridity.UploadSteps

set_option autoImplicit false

def openHeaders : List Bytes → Bytes
  | [] => []
  | line :: rest => line ++ (crlf ++ openHeaders rest)

theorem header_lines_eq (lines : List Bytes) : headerLines lines = openHeaders lines ++ crlf := by
  induction lines with
  | nil => rfl
  | cons line rest induction =>
      unfold headerLines openHeaders
      rw [induction]
      simp

theorem scan_no_feed {front : Bytes} (noFeed : lineFeed ∉ front) (byte : UInt8) (rest : Bytes) :
    scanHeader (front ++ byte :: rest) = front.length + scanHeader (byte :: rest) := by
  induction front with
  | nil => simp
  | cons first front induction =>
      have differs : first ≠ lineFeed := by
        rintro rfl
        exact noFeed List.mem_cons_self
      have later := induction fun member => noFeed (List.mem_cons_of_mem _ member)
      obtain ⟨second, others, more⟩ : ∃ second others, front ++ byte :: rest = second :: others := by
        cases front with
        | nil => exact ⟨byte, rest, rfl⟩
        | cons second front => exact ⟨second, front ++ byte :: rest, rfl⟩
      rw [List.cons_append, more, scanHeader, ← more, later]
      simp only [differs, decide_false, Bool.false_and, Bool.false_eq_true, if_false,
        List.length_cons]
      omega

def HeaderLine (line : Bytes) : Prop :=
  line ≠ [] ∧ carriageReturn ∉ line ∧ lineFeed ∉ line

theorem scan_after_feed {lines : List Bytes} (proper : ∀ line ∈ lines, HeaderLine line)
    (rest : Bytes) :
    scanHeader (lineFeed :: (openHeaders lines ++ carriageReturn :: rest)) =
      (openHeaders lines).length + 3 := by
  induction lines with
  | nil => rfl
  | cons line lines induction =>
      have later := induction fun other member => proper other (List.mem_cons_of_mem _ member)
      obtain ⟨nonempty, noReturn, noFeed⟩ := proper line List.mem_cons_self
      have noFeed' : lineFeed ∉ line ++ [carriageReturn] := by
        simp only [List.mem_append, List.mem_singleton, not_or]
        exact ⟨noFeed, by decide⟩
      have scanned := scan_no_feed noFeed' lineFeed (openHeaders lines ++ carriageReturn :: rest)
      have shape : openHeaders (line :: lines) ++ carriageReturn :: rest =
          (line ++ [carriageReturn]) ++ lineFeed :: (openHeaders lines ++ carriageReturn :: rest) := by
        simp [openHeaders, crlf]
      rw [shape]
      obtain ⟨first, others, rfl⟩ := List.exists_cons_of_ne_nil nonempty
      have plain : first ≠ lineFeed ∧ first ≠ carriageReturn := by
        simp only [List.mem_cons, not_or] at noReturn noFeed
        exact ⟨Ne.symm noFeed.1, Ne.symm noReturn.1⟩
      simp only [List.cons_append] at scanned ⊢
      rw [scanHeader, scanned, later]
      simp only [plain.1, plain.2, decide_false, Bool.or_self, Bool.and_false, Bool.false_eq_true,
        if_false, openHeaders, crlf, List.length_cons, List.length_append, List.length_nil]
      omega

/-- The scan stops behind the empty line, also when its last byte has yet to come. -/
theorem scan_headers {lines : List Bytes} (some' : lines ≠ [])
    (proper : ∀ line ∈ lines, HeaderLine line) (rest : Bytes) :
    scanHeader (openHeaders lines ++ carriageReturn :: rest) = (headerLines lines).length := by
  cases lines with
  | nil => exact absurd rfl some'
  | cons line lines =>
      obtain ⟨_, _, noFeed⟩ := proper line List.mem_cons_self
      have noFeed' : lineFeed ∉ line ++ [carriageReturn] := by
        simp only [List.mem_append, List.mem_singleton, not_or]
        exact ⟨noFeed, by decide⟩
      have scanned := scan_no_feed noFeed' lineFeed (openHeaders lines ++ carriageReturn :: rest)
      rw [scan_after_feed fun other member => proper other (List.mem_cons_of_mem _ member)] at scanned
      have shape : openHeaders (line :: lines) ++ carriageReturn :: rest =
          (line ++ [carriageReturn]) ++ lineFeed :: (openHeaders lines ++ carriageReturn :: rest) := by
        simp [openHeaders, crlf]
      rw [shape, scanned, header_lines_eq]
      simp only [openHeaders, crlf, List.length_append, List.length_cons, List.length_nil]
      omega

/-- The dashes and the line end in front of a boundary are not taken for data. -/
theorem find_end_index (front : Bytes) :
    findEndIndex (front ++ (crlf ++ dashes)) (((front ++ (crlf ++ dashes)).length : Int) - 1) =
      .ok ((front.length : Int) - 1) := by
  have last : byteAt (front ++ (crlf ++ dashes)) ((front.length + 3 : Nat) : Int) = .ok dash :=
    byte_at_append front (crlf ++ dashes) 3
  have previous : byteAt (front ++ (crlf ++ dashes)) ((front.length + 2 : Nat) : Int) = .ok dash :=
    byte_at_append front (crlf ++ dashes) 2
  have feed : byteAt (front ++ (crlf ++ dashes)) ((front.length + 1 : Nat) : Int) = .ok lineFeed :=
    byte_at_append front (crlf ++ dashes) 1
  have back : byteAt (front ++ (crlf ++ dashes)) (front.length : Int) = .ok carriageReturn :=
    byte_at_append front (crlf ++ dashes) 0
  have length : ((front ++ (crlf ++ dashes)).length : Int) - 1 =
      ((front.length + 3 : Nat) : Int) := by
    simp only [List.length_append, crlf, dashes, List.length_cons, List.length_nil]
    omega
  have first : ((front.length + 3 : Nat) : Int) - 1 = ((front.length + 2 : Nat) : Int) := by omega
  have second : ((front.length + 3 : Nat) : Int) - 2 = ((front.length + 1 : Nat) : Int) := by omega
  have third : ((front.length + 1 : Nat) : Int) - 1 = (front.length : Int) := by omega
  unfold findEndIndex
  simp only [length, bind, Except.bind, pure, Except.pure, last, first, previous, if_true, second,
    feed, third, back]

/-- A clean name is emitted as it was given, another without what is stripped from it. -/
def NamedAfter (emitted given : List Char) : Prop :=
  emitted = sanitizeFileName given ∧ (CleanName given → emitted = given)

theorem named_after {emitted given : List Char} (same : emitted = sanitizeFileName given) :
    NamedAfter emitted given :=
  ⟨same, fun clean => same.trans (sanitize_clean clean)⟩

/-- What is emitted for a part, with the file written for it. -/
structure EntryOf (files : List Char → Option Bytes) (entry : Part) (part : FormPart) :
    Prop where
  name : NamedAfter entry.name part.name
  originalFileName : NamedAfter entry.originalFileName part.fileName
  content : files entry.tempFileName = some part.data

/-- A file keeps its name unless a part before it has that name. -/
def NameKept (earlier : List Part) (entry : Part) : Prop :=
  entry.fileName = entry.originalFileName ∨ entry.originalFileName ∈ earlier.map Part.fileName

structure Finished (parts : List FormPart) (state : UploadState) : Prop where
  entries : List.Forall₂ (EntryOf state.files) state.parts parts
  named : Lawful NameKept state.parts

structure Writing (part : FormPart) (written : Bytes) (state : UploadState) : Prop where
  target : state.targetFile = some state.currentPart.tempFileName
  name : NamedAfter state.currentPart.name part.name
  originalFileName : NamedAfter state.currentPart.originalFileName part.fileName
  fileName : NameKept state.parts state.currentPart
  content : state.files state.currentPart.tempFileName = some written

section Operations

variable {environment : UploadEnvironment} {files : List Char → Option Bytes}

theorem finished_start : Finished [] (UploadState.start files) :=
  ⟨List.Forall₂.nil, lawful_nil NameKept⟩

theorem entries_same {before after : List Char → Option Bytes} {entries : List Part}
    {parts : List FormPart} (all : List.Forall₂ (EntryOf before) entries parts)
    (same : ∀ entry ∈ entries, after entry.tempFileName = before entry.tempFileName) :
    List.Forall₂ (EntryOf after) entries parts := by
  induction all with
  | nil => exact List.Forall₂.nil
  | cons of _ induction =>
      apply List.Forall₂.cons
      · exact ⟨of.name, of.originalFileName, by rw [same _ List.mem_cons_self, of.content]⟩
      · exact induction fun entry member => same entry (List.mem_cons_of_mem _ member)

theorem finished_grow {parts : List FormPart} {before after : UploadState}
    (finished : Finished parts before) (grows : Grows 0 before after) :
    Finished parts after := by
  obtain ⟨more, grown, few, same⟩ := grows
  have nothing : more = [] := List.length_eq_zero_iff.mp (Nat.le_zero.mp few)
  rw [nothing, List.append_nil] at grown
  constructor
  · rw [grown]
    exact entries_same finished.entries same
  · rw [grown]
    exact finished.named

theorem writing_write {part : FormPart} {written : Bytes} {state : UploadState}
    (writing : Writing part written state) (data : Bytes) :
    Writing part (written ++ data)
      (writeTarget state state.currentPart.tempFileName data) where
  target := writing.target
  name := writing.name
  originalFileName := writing.originalFileName
  fileName := writing.fileName
  content := by
    have here : (writeTarget state state.currentPart.tempFileName data).files
        state.currentPart.tempFileName =
          some ((state.files state.currentPart.tempFileName).getD [] ++ data) :=
      Function.update_self _ _ _
    rw [writing.content] at here
    exact here

theorem finished_finish {parts : List FormPart} {part : FormPart} {state : UploadState}
    (finished : Finished parts state)
    (writing : Writing part part.data state) :
    Finished (parts ++ [part]) (finishCurrentPart state) := by
  unfold finishCurrentPart
  rw [writing.target]
  constructor
  · apply List.rel_append finished.entries
    apply List.Forall₂.cons _ List.Forall₂.nil
    exact ⟨writing.name, writing.originalFileName, writing.content⟩
  · exact lawful_snoc finished.named writing.fileName

structure Idle (environment : UploadEnvironment) (parts : List FormPart)
    (state : UploadState) : Prop where
  kept : HandlerKept environment state
  finished : Finished parts state
  closed : state.targetFile = none
  empty : state.analyzeBuffer = []

/-- A part whose headers and data the handler can tell apart. -/
structure Plain (environment : UploadEnvironment) (boundary : Bytes) (part : FormPart) :
    Prop where
  wellFormed : part.WellFormed environment boundary
  absent : ∀ line ∈ part.lines, ¬ boundary <:+: line
  oneColon : ∀ line ∈ (part.headerText environment).splitOn '\n',
    isDisposition line = true → line.count ':' = 1
  reads : ∀ key ∈ [nameKey, fileNameKey], ReadsBack key part.disposition

theorem writing_opened (fresh : TempNamesFresh environment files) {boundary : Bytes}
    {part : FormPart} {state : UploadState} (kept : HandlerKept environment state)
    (plain : Plain environment boundary part) {position : Nat}
    (header : state.analyzeBuffer.take position = part.headers) (endIndex : Int) :
    Writing part (mid state.analyzeBuffer position (endIndex - position + 1))
      (opened environment state position endIndex) := by
  have disposed := plain.wellFormed.disposed
  have names := read_headers state.currentPart plain.oneColon
    (by rw [disposed]; exact List.cons_ne_nil _ _)
  have readName := read_value plain.wellFormed.proper (by decide) (plain.reads nameKey (by decide))
  have readFileName :=
    read_value plain.wellFormed.proper (by decide) (plain.reads fileNameKey (by decide))
  obtain ⟨named, same, name, originalFileName, fileName, _⟩ := set_temp_file_name kept
    (readHeaders state.currentPart (environment.fromUtf8 part.headers))
  unfold FormPart.headerText at names disposed
  rw [names, disposed] at same name originalFileName fileName
  rw [disposed] at names
  have last : ([part.disposition.text].getLast?).getD [] = part.disposition.text := rfl
  rw [last] at same name originalFileName fileName names
  unfold opened
  dsimp only
  rw [if_pos (fresh.opens _), header, names, same]
  constructor
  · rfl
  · apply named_after
    rw [name]
    exact congrArg sanitizeFileName readName
  · apply named_after
    rw [originalFileName]
    exact congrArg sanitizeFileName readFileName
  · unfold NameKept
    rw [originalFileName]
    exact fileName
  · exact Function.update_self _ _ _

/-- The headers that were read: all of them, or all but their last byte. -/
def headersRead (part : FormPart) (missing : Bool) : Bytes :=
  openHeaders part.lines ++ carriageReturn :: (if missing then [] else [lineFeed])

theorem headers_eq (part : FormPart) : part.headers = headersRead part false :=
  header_lines_eq part.lines

theorem headers_read_length (part : FormPart) (missing : Bool) :
    (headersRead part missing).length ≤ part.headers.length := by
  rw [headers_eq]
  unfold headersRead
  cases missing <;> simp

theorem Plain.scan {boundary : Bytes} {part : FormPart} (plain : Plain environment boundary part)
    (rest : Bytes) :
    scanHeader (openHeaders part.lines ++ carriageReturn :: rest) = part.headers.length := by
  apply scan_headers
  · obtain ⟨first, others, later, lines, _⟩ := plain.wellFormed.begins
    rw [lines]
    exact List.cons_ne_nil _ _
  · intro line member
    have single := plain.wellFormed.oneLine line member
    exact ⟨plain.wellFormed.nonempty line member, single.1, single.2⟩

theorem Plain.scan_text {boundary : Bytes} {part : FormPart}
    (plain : Plain environment boundary part) (rest : Bytes) :
    scanHeader (part.headers ++ rest) = part.headers.length := by
  have scanned := plain.scan (lineFeed :: rest)
  rw [headers_eq] at scanned ⊢
  simpa [headersRead] using scanned

theorem write_headers {boundary : Bytes} {part : FormPart} {state : UploadState}
    (plain : Plain environment boundary part) {newData : Bytes} {missing : Bool}
    (closed : state.targetFile = none) (small : state.analyzeBuffer.length < 1024)
    (buffered : state.analyzeBuffer ++ newData = headersRead part missing) :
    writeDataToCurrentPart environment state newData false = .ok (appendToBuffer state newData) := by
  have scanned := plain.scan (if missing then [] else [lineFeed])
  have behind : ¬ scanHeader (appendToBuffer state newData).analyzeBuffer <
      (appendToBuffer state newData).analyzeBuffer.length := by
    show ¬ scanHeader (state.analyzeBuffer ++ newData) < (state.analyzeBuffer ++ newData).length
    rw [buffered]
    have short := headers_read_length part missing
    unfold headersRead at short ⊢
    rw [scanned]
    omega
  unfold writeDataToCurrentPart
  rw [closed]
  dsimp only
  rw [if_pos small, if_neg behind]

theorem write_opens (fresh : TempNamesFresh environment files) {boundary : Bytes}
    {part : FormPart} {state : UploadState} (plain : Plain environment boundary part)
    (kept : HandlerKept environment state) {newData written : Bytes}
    (closed : state.targetFile = none) (small : state.analyzeBuffer.length < 1024)
    (buffered : state.analyzeBuffer ++ newData = part.headers ++ written)
    (some' : written ≠ []) :
    ∃ after, writeDataToCurrentPart environment state newData false = .ok after ∧
      HandlerKept environment after ∧ Grows 0 state after ∧
      Writing part written after := by
  have holds : (appendToBuffer state newData).analyzeBuffer = part.headers ++ written := buffered
  have scanned := plain.scan_text written
  have positive := List.length_pos_iff.mpr some'
  have before : scanHeader (appendToBuffer state newData).analyzeBuffer <
      (appendToBuffer state newData).analyzeBuffer.length := by
    rw [holds, scanned, List.length_append]
    omega
  have ran : writeDataToCurrentPart environment state newData false =
      .ok (opened environment (appendToBuffer state newData) part.headers.length
        (((appendToBuffer state newData).analyzeBuffer.length : Int) - 1)) := by
    unfold writeDataToCurrentPart
    rw [closed]
    dsimp only
    rw [if_pos small, if_pos before, holds, scanned]
    unfold openTarget
    rw [holds]
    rfl
  have writing := writing_opened fresh (kept_append kept newData) plain
    (by rw [holds, List.take_left])
    (((appendToBuffer state newData).analyzeBuffer.length : Int) - 1)
  have start : mid (appendToBuffer state newData).analyzeBuffer part.headers.length
      (((appendToBuffer state newData).analyzeBuffer.length : Int) - 1 -
        (part.headers.length : Int) + 1) = written := by
    have length : ((part.headers ++ written).length : Int) - 1 - (part.headers.length : Int) + 1 =
        (written.length : Int) := by
      rw [List.length_append]
      omega
    rw [holds, length]
    unfold mid
    rw [if_neg (by omega), List.drop_left, Int.toNat_natCast, List.take_length]
  rw [start] at writing
  exact ⟨_, ran, kept_opened fresh (kept_append kept newData) _ _,
    grows_opened fresh (kept_append kept newData) _ _, writing⟩

theorem write_more (fresh : TempNamesFresh environment files) {part : FormPart}
    {written : Bytes} {state : UploadState} (kept : HandlerKept environment state)
    (writing : Writing part written state) (newData : Bytes) (isComplete : Bool) :
    ∃ after, writeDataToCurrentPart environment state newData isComplete = .ok after ∧
      HandlerKept environment after ∧ Grows 0 state after ∧
      Writing part (written ++ newData) after := by
  refine ⟨writeTarget state state.currentPart.tempFileName newData, ?_, ?_, ?_, ?_⟩
  · unfold writeDataToCurrentPart
    rw [writing.target]
  · exact kept_write fresh kept writing.target newData
  · exact grows_write kept writing.target newData
  · exact writing_write writing newData

theorem idle_finish {parts : List FormPart} {part : FormPart} {state : UploadState}
    (kept : HandlerKept environment state) (finished : Finished parts state)
    (writing : Writing part part.data state) :
    Idle environment (parts ++ [part]) (finishCurrentPart state) := by
  have closes := finished_finish finished writing
  have keeps := kept_finish kept
  unfold finishCurrentPart at closes keeps ⊢
  rw [writing.target] at closes keeps ⊢
  exact ⟨keeps, closes, rfl, rfl⟩

theorem write_last (fresh : TempNamesFresh environment files) {parts : List FormPart}
    {part : FormPart} {written left : Bytes} {state : UploadState}
    (kept : HandlerKept environment state) (finished : Finished parts state)
    (writing : Writing part written state) (whole : part.data = written ++ left) :
    ∃ after, writeLastBlockOfCurrentPart state (left ++ (crlf ++ dashes)) = .ok after ∧
      Idle environment (parts ++ [part]) after := by
  have cut : ((left.length : Int) - 1 + 1).toNat = left.length := by omega
  refine ⟨finishCurrentPart (writeTarget state state.currentPart.tempFileName left), ?_, ?_⟩
  · unfold writeLastBlockOfCurrentPart
    rw [writing.target]
    dsimp only
    rw [find_end_index]
    simp only [bind, Except.bind, pure, Except.pure, cut, List.take_left]
  · apply idle_finish (kept_write fresh kept writing.target left)
    · exact finished_grow finished (grows_write kept writing.target left)
    · rw [whole]
      exact writing_write writing left

/-- A whole part between two boundaries. -/
theorem write_whole (fresh : TempNamesFresh environment files) {boundary : Bytes}
    {parts : List FormPart} {part : FormPart} {state : UploadState}
    (plain : Plain environment boundary part) (idle : Idle environment parts state) :
    ∃ after, writeDataToCurrentPart environment state part.text true = .ok after ∧
      Idle environment (parts ++ [part]) after := by
  have holds : (appendToBuffer state part.text).analyzeBuffer = part.text := by
    show state.analyzeBuffer ++ part.text = part.text
    rw [idle.empty, List.nil_append]
  have scanned : scanHeader part.text = part.headers.length := plain.scan_text _
  have before : scanHeader (appendToBuffer state part.text).analyzeBuffer <
      (appendToBuffer state part.text).analyzeBuffer.length := by
    rw [holds, scanned]
    unfold FormPart.text
    simp only [List.length_append, crlf, dashes, List.length_cons, List.length_nil]
    omega
  have found : findEndIndex part.text ((part.text.length : Int) - 1) =
      .ok (((part.headers ++ part.data).length : Int) - 1) := by
    unfold FormPart.text
    rw [← List.append_assoc]
    exact find_end_index (part.headers ++ part.data)
  have ran : writeDataToCurrentPart environment state part.text true =
      .ok (finishCurrentPart (opened environment (appendToBuffer state part.text)
        part.headers.length (((part.headers ++ part.data).length : Int) - 1))) := by
    unfold writeDataToCurrentPart
    rw [idle.closed]
    dsimp only
    rw [if_pos (by rw [idle.empty]; decide), if_pos before, holds, scanned]
    unfold openTarget
    simp only [holds, found, if_true, bind, Except.bind, pure, Except.pure]
  have kept := kept_append idle.kept part.text
  have writing := writing_opened fresh kept plain
    (by rw [holds]; exact List.take_left) (((part.headers ++ part.data).length : Int) - 1)
  have start : mid (appendToBuffer state part.text).analyzeBuffer part.headers.length
      (((part.headers ++ part.data).length : Int) - 1 - (part.headers.length : Int) + 1) =
        part.data := by
    have length : ((part.headers ++ part.data).length : Int) - 1 - (part.headers.length : Int) + 1 =
        (part.data.length : Int) := by
      rw [List.length_append]
      omega
    rw [holds, length]
    unfold mid FormPart.text
    rw [if_neg (by omega), List.drop_left, Int.toNat_natCast, List.take_left]
  rw [start] at writing
  refine ⟨_, ran, idle_finish (kept_opened fresh kept _ _) ?_ writing⟩
  exact finished_grow idle.finished (grows_opened fresh kept _ _)

/-- The whole parts of a chunk, one after the other. -/
theorem write_parts (fresh : TempNamesFresh environment files) {boundary : Bytes}
    {parts completed : List FormPart} {state : UploadState}
    (plain : ∀ part ∈ completed, Plain environment boundary part)
    (idle : Idle environment parts state) :
    ∃ after, (completed.map FormPart.text).foldlM (fun current split =>
        writeDataToCurrentPart environment current split true) state = .ok after ∧
      Idle environment (parts ++ completed) after := by
  induction completed generalizing parts state with
  | nil => exact ⟨state, rfl, by rw [List.append_nil]; exact idle⟩
  | cons part completed induction =>
      obtain ⟨next, wrote, idle'⟩ := write_whole fresh (plain part List.mem_cons_self) idle
      obtain ⟨after, ran, idle''⟩ :=
        induction (fun other member => plain other (List.mem_cons_of_mem _ member)) idle'
      refine ⟨after, ?_, by rw [List.append_assoc] at idle''; exact idle''⟩
      rw [List.map_cons, List.foldlM_cons, wrote]
      exact ran

end Operations

end Viridity.UploadPieces
