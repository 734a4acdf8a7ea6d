import Viridity.UploadPieces

/-!
# Chunks the upload handler can take

Where a well-formed body may be cut so that the handler, which looks for boundaries and
for the end of the headers in one chunk at a time, still writes each part as it is.
-/

namespace Viridity.UploadChunks

open Viridity.SubstringSearch
open Viridity.FileUpload
open Viridity.FormBody
open Viridity.HeaderParameters
open Viridity.UploadSteps
open Viridity.UploadPieces

set_option autoImplicit false

inductive Progress where
  /-- Nothing was read. -/
  | opening (parts : List FormPart)
  /-- A boundary and the line end behind it were read. -/
  | between (part : FormPart) (later : List FormPart)
  /-- The headers of the part were read, or all but their last byte. -/
  | headers (part : FormPart) (later : List FormPart) (missing : Bool)
  /-- Some of the data of the part was read. -/
  | data (part : FormPart) (later : List FormPart) (written left : Bytes)
  /-- The last boundary was read. -/
  | closed (left : Bytes)

def missingFeed (missing : Bool) : Bytes := if missing then [lineFeed] else []

def Progress.remaining (boundary : Bytes) : Progress → Bytes
  | .opening parts => formBody boundary parts
  | .between part later => part.text ++ (boundary ++ afterBoundary boundary later)
  | .headers part later missing =>
      missingFeed missing ++ (part.data ++ (crlf ++ dashes)) ++
        (boundary ++ afterBoundary boundary later)
  | .data _ later _ left => left ++ (crlf ++ dashes) ++ (boundary ++ afterBoundary boundary later)
  | .closed left => left

/-- Where a chunk may end behind its last boundary. In front of that boundary the chunk
may hold whole parts unless it ends in the middle of another part, or behind the first
of the two dashes that close the body: `alone` says that it holds none. -/
inductive Lands : Bool → List FormPart → Bytes → Progress → Prop
  | between {alone : Bool} {part : FormPart} {later : List FormPart} :
      Lands alone (part :: later) crlf (.between part later)
  | headers {part : FormPart} {later : List FormPart} {missing : Bool} :
      Lands true (part :: later) (crlf ++ headersRead part missing) (.headers part later missing)
  | data {part : FormPart} {later : List FormPart} {written left : Bytes}
      (some' : written ≠ []) (whole : part.data = written ++ left) :
      Lands true (part :: later) (crlf ++ (part.headers ++ written))
        (.data part later written left)
  | dash : Lands true [] [dash] (.closed (dash :: crlf))
  | closing {alone : Bool} {piece left : Bytes} (cut : crlf = piece ++ left) :
      Lands alone [] (dashes ++ piece) (.closed left)

inductive SafeChunk (boundary : Bytes) : Progress → Bytes → Progress → Prop
  /-- The first chunk holds the first boundary. -/
  | first {completed later : List FormPart} {tail : Bytes} {next : Progress}
      (lands : Lands completed.isEmpty later tail next) :
      SafeChunk boundary (.opening (completed ++ later))
        (dashes ++ (boundary ++ passedParts boundary completed tail)) next
  /-- A chunk that begins with a part does not reach the next boundary. -/
  | allHeaders {part : FormPart} {later : List FormPart} {missing : Bool} :
      SafeChunk boundary (.between part later) (headersRead part missing)
        (.headers part later missing)
  | firstData {part : FormPart} {later : List FormPart} {written left : Bytes}
      (some' : written ≠ []) (whole : part.data = written ++ left) :
      SafeChunk boundary (.between part later) (part.headers ++ written)
        (.data part later written left)
  /-- Neither does one that begins right behind the headers. -/
  | lastFeed {part : FormPart} {later : List FormPart} :
      SafeChunk boundary (.headers part later true) [lineFeed] (.headers part later false)
  | dataBehind {part : FormPart} {later : List FormPart} {missing : Bool} {written left : Bytes}
      (some' : written ≠ []) (whole : part.data = written ++ left) :
      SafeChunk boundary (.headers part later missing) (missingFeed missing ++ written)
        (.data part later written left)
  | moreData {part : FormPart} {later : List FormPart} {written piece left : Bytes} :
      SafeChunk boundary (.data part later written (piece ++ left)) piece
        (.data part later (written ++ piece) left)
  /-- A chunk that ends a part begun before brings data of it that is not white space. -/
  | lastData {part : FormPart} {completed later : List FormPart} {written left tail : Bytes}
      {next : Progress} (visible : ∃ byte ∈ left, isSpaceByte byte = false)
      (lands : Lands completed.isEmpty later tail next) :
      SafeChunk boundary (.data part (completed ++ later) written left)
        (left ++ (crlf ++ dashes) ++ (boundary ++ passedParts boundary completed tail)) next
  | rest {piece left : Bytes} : SafeChunk boundary (.closed (piece ++ left)) piece (.closed left)

/-- The rest of the body is cut into chunks the handler can take. -/
inductive SafeCuts (boundary : Bytes) : Progress → List Bytes → Prop
  | done : SafeCuts boundary (.closed []) []
  | chunk {before after : Progress} {chunk : Bytes} {chunks : List Bytes}
      (safe : SafeChunk boundary before chunk after) (others : SafeCuts boundary after chunks) :
      SafeCuts boundary before (chunk :: chunks)

theorem drop_space_ends (text : Bytes) {last : UInt8} (visible : isSpaceByte last = false) :
    ∃ front, (text ++ [last]).dropWhile isSpaceByte = front ++ [last] := by
  induction text with
  | nil => exact ⟨[], by simp [visible]⟩
  | cons first text induction =>
      rw [List.cons_append, List.dropWhile_cons]
      split_ifs with space
      · exact induction
      · exact ⟨first :: text, rfl⟩

theorem trimmed_ends (text : Bytes) {last : UInt8} (visible : isSpaceByte last = false) :
    trimmed (text ++ [last]) = (text ++ [last]).dropWhile isSpaceByte := by
  obtain ⟨front, same⟩ := drop_space_ends text visible
  unfold trimmed trimmedBy
  rw [same, List.reverse_append, List.reverse_singleton, List.singleton_append,
    List.dropWhile_cons, if_neg (by simp [visible]), List.reverse_cons, List.reverse_reverse]

/-- Data behind which a boundary follows is not taken for the dashes in front of it. -/
theorem not_blank_data {left : Bytes} (visible : ∃ byte ∈ left, isSpaceByte byte = false) :
    isBlank (left ++ (crlf ++ dashes)) = false := by
  obtain ⟨byte, member, shows⟩ := visible
  have shape : left ++ (crlf ++ dashes) = (left ++ (crlf ++ [dash])) ++ [dash] := by
    simp [dashes]
  have seen : isSpaceByte dash = false := by decide
  have trims := trimmed_ends (left ++ (crlf ++ [dash])) seen
  have long : 4 < ((left ++ (crlf ++ dashes)).dropWhile isSpaceByte).length := by
    clear trims shape
    induction left with
    | nil => cases member
    | cons first left induction =>
        rw [List.cons_append, List.dropWhile_cons]
        split_ifs with space
        · rcases List.mem_cons.mp member with rfl | later
          · rw [shows] at space
            cases space
          · exact induction later
        · simp [crlf, dashes]
  unfold isBlank
  rw [shape, trims, ← shape]
  have two : (left ++ (crlf ++ dashes)).dropWhile isSpaceByte ≠ [dash, dash] := by
    intro same
    rw [same] at long
    simp at long
  have none : (left ++ (crlf ++ dashes)).dropWhile isSpaceByte ≠ [] := by
    intro same
    rw [same] at long
    simp at long
  simp [two, none]

theorem not_blank_first {first : UInt8} (rest : Bytes) (visible : isSpaceByte first = false)
    (letter : first ≠ dash) : isBlank (first :: rest) = false := by
  have trims : ∃ back, trimmed (first :: rest) = first :: back := by
    unfold trimmed trimmedBy
    rw [List.dropWhile_cons, if_neg (by simp [visible]), List.reverse_cons]
    obtain ⟨front, same⟩ := drop_space_ends rest.reverse visible
    exact ⟨front.reverse, by rw [same]; simp⟩
  obtain ⟨back, same⟩ := trims
  unfold isBlank
  rw [same]
  simp [letter]

section Handler

variable {environment : UploadEnvironment} {files : List Char → Option Bytes} {boundary : Bytes}

def Synced (environment : UploadEnvironment) (parts : List FormPart) (state : UploadState) :
    Progress → Prop
  | .opening rest => rest = parts ∧ Idle environment [] state
  | .between part later => ∃ finished, parts = finished ++ part :: later ∧
      Idle environment finished state
  | .headers part later missing => ∃ finished, parts = finished ++ part :: later ∧
      HandlerKept environment state ∧ Finished finished state ∧
        state.targetFile = none ∧ state.analyzeBuffer = headersRead part missing
  | .data part later written left => ∃ finished, parts = finished ++ part :: later ∧
      part.data = written ++ left ∧ HandlerKept environment state ∧
        Finished finished state ∧ Writing part written state
  | .closed left => left <:+ dashes ++ crlf ∧ HandlerKept environment state ∧
      Finished parts state

theorem plain_not_blank {part : FormPart} (plain : Plain environment boundary part)
    (rest : Bytes) : isBlank (openHeaders part.lines ++ rest) = false := by
  obtain ⟨first, others, later, lines, visible, letter⟩ := plain.wellFormed.begins
  rw [lines]
  exact not_blank_first _ visible letter

theorem plain_ends_before {part : FormPart} (plain : Plain environment boundary part)
    (line : BoundaryLine boundary) (letter : ∃ byte ∈ boundary, byte ≠ dash) :
    EndsBefore boundary part.text :=
  ends_before_text line letter plain.absent plain.wellFormed.absent

theorem absent_of_ends {front text : Bytes} (ends : EndsBefore boundary text)
    (starts : front <+: text) : ¬ boundary <:+: front := by
  intro occurs
  apply ends
  exact occurs.trans (starts.trans (List.prefix_append _ _)).isInfix

theorem headers_read_starts (part : FormPart) (missing : Bool) :
    headersRead part missing <+: part.headers := by
  rw [headers_eq]
  unfold headersRead
  cases missing
  · exact List.prefix_rfl
  · exact ⟨[lineFeed], by simp⟩

theorem data_starts {part : FormPart} {written left : Bytes} (whole : part.data = written ++ left) :
    part.headers ++ written <+: part.text := by
  refine ⟨left ++ (crlf ++ dashes), ?_⟩
  unfold FormPart.text
  rw [whole]
  simp

theorem not_in_closing (line : BoundaryLine boundary) (letter : ∃ byte ∈ boundary, byte ≠ dash) :
    ¬ boundary <:+: dashes ++ crlf := by
  have ends : EndsBefore boundary (dashes ++ (crlf ++ [])) := by
    apply ends_before_crlf line (absent_of_ends (ends_before_dashes letter) List.prefix_rfl)
    intro occurs
    have shorter := occurs.length_le
    have positive := List.length_pos_iff.mpr line.nonempty
    simp only [List.nil_append, List.length_dropLast] at shorter
    omega
  rw [List.append_nil] at ends
  exact absent_of_ends ends List.prefix_rfl

/-- What follows the last boundary of a chunk, and the line end that is skipped. -/
theorem lands_skip (line : BoundaryLine boundary) (letter : ∃ byte ∈ boundary, byte ≠ dash)
    {alone : Bool} {later : List FormPart} {tail : Bytes} {next : Progress}
    (plain : ∀ part ∈ later, Plain environment boundary part)
    (lands : Lands alone later tail next) :
    ∃ skipped, (∀ front : Bytes, skipLineEnd (front ++ tail) front.length =
        .ok (front.length + skipped)) ∧ ¬ boundary <:+: tail.drop skipped := by
  have closing := not_in_closing line letter
  cases lands with
  | between =>
      refine ⟨2, fun front => skip_crlf front [], ?_⟩
      intro occurs
      exact line.nonempty (List.infix_nil.mp occurs)
  | @headers part later missing =>
      refine ⟨2, fun front => skip_crlf front _, ?_⟩
      have ends := plain_ends_before (plain part List.mem_cons_self) line letter
      apply absent_of_ends ends
      show headersRead part missing <+: part.text
      exact (headers_read_starts part missing).trans (List.prefix_append _ _)
  | @data part later written left some' whole =>
      refine ⟨2, fun front => skip_crlf front _, ?_⟩
      have ends := plain_ends_before (plain part List.mem_cons_self) line letter
      exact absent_of_ends ends (data_starts whole)
  | dash =>
      refine ⟨0, fun front => skip_nothing front [] (by decide) (by decide), ?_⟩
      intro occurs
      apply closing
      exact occurs.trans (List.prefix_append [dash] _).isInfix
  | @closing alone piece left cut =>
      refine ⟨0, fun front => skip_nothing front _ (by decide) (by decide), ?_⟩
      intro occurs
      apply closing
      rw [cut, ← List.append_assoc]
      exact occurs.trans (List.prefix_append _ _).isInfix

theorem write_incomplete (fresh : TempNamesFresh environment files) {parts : List FormPart}
    {state : UploadState} (kept : HandlerKept environment state)
    (finished : Finished parts state) (newData : Bytes) :
    ∃ after, writeDataToCurrentPart environment state newData false = .ok after ∧
      HandlerKept environment after ∧ Finished parts after := by
  have runs : ∃ after, writeDataToCurrentPart environment state newData false = .ok after := by
    unfold writeDataToCurrentPart
    cases state.targetFile with
    | some target => exact ⟨_, rfl⟩
    | none =>
        dsimp only
        split_ifs
        · exact ⟨_, rfl⟩
        · exact ⟨_, rfl⟩
        · exact ⟨_, rfl⟩
  obtain ⟨after, ran⟩ := runs
  obtain ⟨kept', grows⟩ := grows_write_data fresh kept ran
  simp only [Bool.false_eq_true, false_and, if_false] at grows
  exact ⟨after, ran, kept', finished_grow finished grows⟩

theorem idle_clear {parts : List FormPart} {state : UploadState}
    (idle : Idle environment parts state) : Idle environment parts (clearBuffer state) :=
  ⟨kept_clear idle.kept, ⟨idle.finished.entries, idle.finished.named⟩, idle.closed, rfl⟩

theorem write_splits_eq (state : UploadState) (completed : List Bytes) (last : Bytes) :
    writeSplits environment state (completed ++ [last]) =
      (if isBlank last then .ok state
        else writeDataToCurrentPart environment state last false).bind fun next =>
          completed.foldlM
            (fun current split => writeDataToCurrentPart environment current split true) next := by
  unfold writeSplits
  rw [List.getLast?_append_of_ne_nil _ (List.cons_ne_nil last []), List.dropLast_concat]
  dsimp only [List.getLast?_singleton]
  split_ifs <;> rfl

/-- Between two parts, the headers of the next one may be read, or all but their last byte. -/
theorem idle_reads_headers {finished later : List FormPart} {part : FormPart} {state : UploadState}
    (here : Plain environment boundary part) (idle : Idle environment finished state)
    (missing : Bool) :
    ∃ after, writeDataToCurrentPart environment state (headersRead part missing) false =
        .ok after ∧
      Synced environment (finished ++ part :: later) after (.headers part later missing) := by
  have holds : state.analyzeBuffer ++ headersRead part missing = headersRead part missing := by
    rw [idle.empty, List.nil_append]
  have wrote := write_headers here idle.closed (by rw [idle.empty]; decide) holds
  exact ⟨_, wrote, finished, rfl, kept_append idle.kept _,
    ⟨idle.finished.entries, idle.finished.named⟩, idle.closed, holds⟩

/-- Between two parts, the headers of the next one may be read with some of its data. -/
theorem idle_reads_data (fresh : TempNamesFresh environment files)
    {finished later : List FormPart} {part : FormPart} {written left : Bytes}
    {state : UploadState} (here : Plain environment boundary part)
    (idle : Idle environment finished state) (some' : written ≠ [])
    (whole : part.data = written ++ left) :
    ∃ after, writeDataToCurrentPart environment state (part.headers ++ written) false =
        .ok after ∧
      Synced environment (finished ++ part :: later) after (.data part later written left) := by
  have holds : state.analyzeBuffer ++ (part.headers ++ written) = part.headers ++ written := by
    rw [idle.empty, List.nil_append]
  obtain ⟨after, wrote, kept, grows, writing⟩ := write_opens fresh here idle.kept idle.closed
    (by rw [idle.empty]; decide) holds some'
  exact ⟨after, wrote, finished, rfl, whole, kept, finished_grow idle.finished grows, writing⟩

theorem closing_blank {piece left : Bytes} (cut : crlf = piece ++ left) :
    isBlank (dashes ++ piece) = true := by
  have pieces : piece = [] ∨ piece = [carriageReturn] ∨ piece = crlf := by
    rcases piece with _ | ⟨first, _ | ⟨second, _ | ⟨third, rest⟩⟩⟩
    · exact Or.inl rfl
    · simp only [crlf, List.cons_append, List.cons.injEq] at cut
      exact Or.inr (Or.inl (by rw [cut.1]))
    · simp only [crlf, List.cons_append, List.cons.injEq] at cut
      exact Or.inr (Or.inr (by rw [crlf, cut.1, cut.2.1]))
    · simp [crlf] at cut
  rcases pieces with rfl | rfl | rfl <;> decide

theorem lands_write (fresh : TempNamesFresh environment files)
    {finished completed later : List FormPart} {tail : Bytes} {next : Progress} {skipped : Nat}
    {state : UploadState}
    (plain : ∀ part ∈ completed ++ later, Plain environment boundary part)
    (idle : Idle environment finished state)
    (lands : Lands completed.isEmpty later tail next)
    (skips : ∀ front : Bytes, skipLineEnd (front ++ tail) front.length =
      .ok (front.length + skipped)) :
    ∃ after, writeSplits environment state (completed.map FormPart.text ++ [tail.drop skipped]) =
        .ok after ∧ Synced environment (finished ++ (completed ++ later)) after next := by
  have parts := fun part member => plain part (List.mem_append_left later member)
  have count : ∀ skips', (skipLineEnd tail 0 = .ok skips') → skips' = skipped := by
    intro skips' ran
    have zero := skips []
    simp only [List.nil_append, List.length_nil, Nat.zero_add] at zero
    rw [ran] at zero
    cases zero
    rfl
  rw [write_splits_eq]
  generalize alone : completed.isEmpty = single at lands
  cases lands with
  | @between part later =>
      have two := count 2 (skip_crlf [] [])
      subst two
      have blank : isBlank (crlf.drop 2) = true := by decide
      rw [if_pos blank]
      obtain ⟨after, ran, idle'⟩ := write_parts fresh parts idle
      exact ⟨after, ran, finished ++ completed, by rw [List.append_assoc], idle'⟩
  | @headers part later missing =>
      have none : completed = [] := List.isEmpty_iff.mp alone
      subst none
      have two := count 2 (skip_crlf [] (headersRead part missing))
      subst two
      have last : (crlf ++ headersRead part missing).drop 2 = headersRead part missing := rfl
      have here := plain part (List.mem_append_right [] List.mem_cons_self)
      have shows : isBlank (headersRead part missing) = false := plain_not_blank here _
      obtain ⟨after, wrote, synced⟩ := idle_reads_headers here idle missing
      rw [last, shows, if_neg Bool.false_ne_true, wrote]
      exact ⟨after, rfl, synced⟩
  | @data part later written left some' whole =>
      have none : completed = [] := List.isEmpty_iff.mp alone
      subst none
      have two := count 2 (skip_crlf [] (part.headers ++ written))
      subst two
      have last : (crlf ++ (part.headers ++ written)).drop 2 = part.headers ++ written := rfl
      have here := plain part (List.mem_append_right [] List.mem_cons_self)
      have shows : isBlank (part.headers ++ written) = false := by
        rw [headers_eq]
        unfold headersRead
        rw [List.append_assoc]
        exact plain_not_blank here _
      obtain ⟨after, wrote, synced⟩ := idle_reads_data fresh here idle some' whole
      rw [last, shows, if_neg Bool.false_ne_true, wrote]
      exact ⟨after, rfl, synced⟩
  | dash =>
      have none : completed = [] := List.isEmpty_iff.mp alone
      subst none
      have zero := count 0 (skip_nothing [] [] (by decide) (by decide))
      subst zero
      have shows : isBlank ([dash].drop 0) = false := by decide
      obtain ⟨after, wrote, kept, same⟩ := write_incomplete fresh idle.kept idle.finished [dash]
      rw [shows, if_neg Bool.false_ne_true, List.drop_zero, wrote]
      refine ⟨after, rfl, List.suffix_cons dash _, kept, ?_⟩
      rw [List.nil_append, List.append_nil]
      exact same
  | @closing alone piece left cut =>
      have zero := count 0 (skip_nothing [] (dash :: piece) (by decide) (by decide))
      subst zero
      have blank : isBlank ((dashes ++ piece).drop 0) = true := closing_blank cut
      rw [if_pos blank]
      obtain ⟨after, ran, idle'⟩ := write_parts fresh parts idle
      have suffix : left <:+ dashes ++ crlf := by
        rw [cut, ← List.append_assoc]
        exact List.suffix_append _ _
      exact ⟨after, ran, suffix, idle'.kept, by rw [List.append_nil]; exact idle'.finished⟩

theorem ends_before_crlf_dashes (line : BoundaryLine boundary)
    (letter : ∃ byte ∈ boundary, byte ≠ dash) : EndsBefore boundary (crlf ++ dashes) := by
  have nothing : ¬ boundary <:+: [] := by
    intro occurs
    exact line.nonempty (List.infix_nil.mp occurs)
  exact ends_before_crlf line nothing (ends_before_dashes letter)

theorem headers_small {part : FormPart} (plain : Plain environment boundary part)
    {state : UploadState} {missing : Bool} (buffer : state.analyzeBuffer = headersRead part missing) :
    state.analyzeBuffer.length < 1024 := by
  rw [buffer]
  exact Nat.lt_of_le_of_lt (headers_read_length part missing) plain.wellFormed.small

theorem on_data_plain {state : UploadState} {chunk : Bytes} (absent : ¬ boundary <:+: chunk) :
    onData environment boundary state chunk =
      writeDataToCurrentPart environment state chunk false := by
  unfold onData
  rw [split_chunk_none absent]
  rfl

theorem on_data_blank {state : UploadState} {chunk first : Bytes} {others : List Bytes}
    (splits : splitChunk boundary chunk = .ok (first :: others)) (blank : isBlank first = true) :
    onData environment boundary state chunk = writeSplits environment (clearBuffer state) others := by
  unfold onData
  rw [splits]
  exact if_pos blank

theorem on_data_ends_part {state finished : UploadState} {chunk first : Bytes}
    {others : List Bytes} (splits : splitChunk boundary chunk = .ok (first :: others))
    (visible : isBlank first = false) (more : 0 < others.length)
    (finishes : writeLastBlockOfCurrentPart state first = .ok finished) :
    onData environment boundary state chunk =
      writeSplits environment (clearBuffer finished) others := by
  unfold onData
  rw [splits]
  simp only [bind, Except.bind, visible, Bool.false_eq_true, if_false, more, if_true, finishes]

/-- The handler keeps up with a chunk it can take. -/
theorem safe_chunk_synced (fresh : TempNamesFresh environment files)
    (line : BoundaryLine boundary) (letter : ∃ byte ∈ boundary, byte ≠ dash)
    {parts : List FormPart} (plain : ∀ part ∈ parts, Plain environment boundary part)
    {before next : Progress} {chunk : Bytes} {state : UploadState}
    (synced : Synced environment parts state before)
    (safe : SafeChunk boundary before chunk next) :
    ∃ after, onData environment boundary state chunk = .ok after ∧
      Synced environment parts after next := by
  cases safe with
  | @first completed later tail _ lands =>
      obtain ⟨same, idle⟩ := synced
      subst same
      obtain ⟨skipped, skips, last⟩ := lands_skip line letter
        (fun part member => plain part (List.mem_append_right completed member)) lands
      have splits := split_chunk_parts line (ends_before_dashes letter)
        (fun part member => plain_ends_before
          (plain part (List.mem_append_left later member)) line letter) skips last
      obtain ⟨after, ran, synced⟩ := lands_write fresh plain (idle_clear idle) lands skips
      refine ⟨after, ?_, by simpa using synced⟩
      rw [on_data_blank splits (by decide)]
      exact ran
  | @allHeaders part later missing =>
      obtain ⟨finished, same, idle⟩ := synced
      subst same
      have here := plain part (by simp)
      have absent : ¬ boundary <:+: headersRead part missing :=
        absent_of_ends (plain_ends_before here line letter)
          ((headers_read_starts part missing).trans (List.prefix_append _ _))
      rw [on_data_plain absent]
      exact idle_reads_headers here idle missing
  | @firstData part later written left some' whole =>
      obtain ⟨finished, same, idle⟩ := synced
      subst same
      have here := plain part (by simp)
      have absent : ¬ boundary <:+: part.headers ++ written :=
        absent_of_ends (plain_ends_before here line letter) (data_starts whole)
      rw [on_data_plain absent]
      exact idle_reads_data fresh here idle some' whole
  | @lastFeed part later =>
      obtain ⟨finished, same, kept, finished', closed, buffer⟩ := synced
      have here := plain part (by rw [same]; simp)
      have holds : state.analyzeBuffer ++ [lineFeed] = headersRead part false := by
        rw [buffer]
        simp [headersRead]
      have wrote := write_headers here closed (headers_small here buffer) holds
      have absent : ¬ boundary <:+: [lineFeed] := by
        have ends := ends_before_crlf_dashes line letter
        exact absent_of_ends (ends_before_suffix (List.suffix_cons carriageReturn _) ends)
          (List.prefix_append [lineFeed] dashes)
      refine ⟨appendToBuffer state [lineFeed], ?_, finished, same, kept_append kept _,
        ⟨finished'.entries, finished'.named⟩, closed, holds⟩
      rw [on_data_plain absent, wrote]
  | @dataBehind part later missing written left some' whole =>
      obtain ⟨finished, same, kept, finished', closed, buffer⟩ := synced
      have here := plain part (by rw [same]; simp)
      have holds : state.analyzeBuffer ++ (missingFeed missing ++ written) =
          part.headers ++ written := by
        rw [buffer, headers_eq]
        cases missing <;> simp [headersRead, missingFeed]
      obtain ⟨after, wrote, kept', grows, writing⟩ :=
        write_opens fresh here kept closed (headers_small here buffer) holds some'
      have absent : ¬ boundary <:+: missingFeed missing ++ written := by
        have suffix : missingFeed missing ++ written <:+ part.headers ++ written := by
          rw [← holds]
          exact List.suffix_append _ _
        intro occurs
        exact absent_of_ends (plain_ends_before here line letter) (data_starts whole)
          (occurs.trans suffix.isInfix)
      refine ⟨after, ?_, finished, same, whole, kept', finished_grow finished' grows, writing⟩
      rw [on_data_plain absent, wrote]
  | @moreData part later written piece left =>
      obtain ⟨finished, same, whole, kept, finished', writing⟩ := synced
      have here := plain part (by rw [same]; simp)
      obtain ⟨after, wrote, kept', grows, writing'⟩ := write_more fresh kept writing chunk false
      have absent : ¬ boundary <:+: chunk := by
        intro occurs
        apply here.wellFormed.absent
        rw [whole]
        exact occurs.trans ((List.prefix_append chunk left).isInfix.trans
          (List.suffix_append written _).isInfix)
      refine ⟨after, ?_, finished, same, by rw [whole, List.append_assoc], kept',
        finished_grow finished' grows, writing'⟩
      rw [on_data_plain absent, wrote]
  | @lastData part completed later written left tail _ visible lands =>
      obtain ⟨finished, same, whole, kept, finished', writing⟩ := synced
      have here := plain part (by rw [same]; simp)
      have others : ∀ other ∈ completed ++ later, Plain environment boundary other := by
        intro other member
        apply plain
        rw [same]
        exact List.mem_append_right _ (List.mem_cons_of_mem _ member)
      obtain ⟨skipped, skips, last⟩ := lands_skip line letter
        (fun other member => others other (List.mem_append_right completed member)) lands
      have ends : EndsBefore boundary (left ++ (crlf ++ dashes)) := by
        apply ends_before_suffix _ (plain_ends_before here line letter)
        refine ⟨part.headers ++ written, ?_⟩
        unfold FormPart.text
        rw [whole]
        simp
      have splits := split_chunk_parts line ends
        (fun other member => plain_ends_before
          (others other (List.mem_append_left later member)) line letter) skips last
      obtain ⟨middle, finishes, idle⟩ := write_last fresh kept finished' writing whole
      obtain ⟨after, ran, synced⟩ := lands_write fresh others (idle_clear idle) lands skips
      refine ⟨after, ?_, by rw [same]; simpa using synced⟩
      rw [on_data_ends_part splits (not_blank_data visible) (by simp) finishes]
      exact ran
  | @rest piece left =>
      obtain ⟨suffix, kept, finished⟩ := synced
      obtain ⟨after, wrote, kept', finished'⟩ := write_incomplete fresh kept finished chunk
      have absent : ¬ boundary <:+: chunk := by
        intro occurs
        apply not_in_closing line letter
        exact occurs.trans ((List.prefix_append chunk left).isInfix.trans suffix.isInfix)
      refine ⟨after, ?_, (List.suffix_append chunk left).trans suffix, kept', finished'⟩
      rw [on_data_plain absent, wrote]

/-- Chunks the handler can take are written as the body says. -/
theorem safe_cuts_finished (fresh : TempNamesFresh environment files)
    (line : BoundaryLine boundary) (letter : ∃ byte ∈ boundary, byte ≠ dash)
    {parts : List FormPart} (plain : ∀ part ∈ parts, Plain environment boundary part)
    {progress : Progress} {chunks : List Bytes} {state : UploadState}
    (synced : Synced environment parts state progress)
    (safe : SafeCuts boundary progress chunks) :
    ∃ final, chunks.foldlM (onData environment boundary) state = .ok final ∧
      Finished parts final := by
  induction safe generalizing state with
  | done =>
      obtain ⟨_, _, finished⟩ := synced
      exact ⟨state, rfl, finished⟩
  | chunk safe _ induction =>
      obtain ⟨next, ran, synced'⟩ := safe_chunk_synced fresh line letter plain synced safe
      obtain ⟨final, rest, finished⟩ := induction synced'
      refine ⟨final, ?_, finished⟩
      rw [List.foldlM_cons, ran]
      exact rest

theorem plain_of_readable {parts : List FormPart}
    (wellFormed : ∀ part ∈ parts, part.WellFormed environment boundary)
    (readable : Readable environment boundary parts) :
    ∀ part ∈ parts, Plain environment boundary part := by
  intro part member
  exact ⟨wellFormed part member, readable.absent part member, readable.oneColon part member,
    readable.reads part member⟩

end Handler

def sampleEnvironment : UploadEnvironment where
  fromUtf8 := fun bytes => bytes.map fun byte => Char.ofNat byte.toNat
  pathAppend := fun path name => path ++ '/' :: name
  tempPath := ['t']
  currentMSecsSinceEpoch := fun _ => 0
  opens := fun _ => true

def asciiBytes (text : List Char) : Bytes := text.map fun letter => UInt8.ofNat letter.toNat

def sampleBoundary : Bytes := asciiBytes ['B', '0']

def sampleDisposition (name fileName : Char) : Disposition where
  kind := ['f', 'o', 'r', 'm', '-', 'd', 'a', 't', 'a']
  parameters := [⟨[], [' '], nameKey, [name], true⟩, ⟨[], [' '], fileNameKey, [fileName], true⟩]

def sampleLineStart : Bytes := asciiBytes (contentDisposition.take 11)

def sampleLineEnd (name fileName : Char) : Bytes :=
  asciiBytes (contentDisposition.drop 11 ++ [':', ' '] ++ (sampleDisposition name fileName).text)

def samplePart (name fileName : Char) (data : Bytes) : FormPart where
  lines := [sampleLineStart ++ sampleLineEnd name fileName]
  disposition := sampleDisposition name fileName
  data := data

/-- `name="f"; filename="a"` with the data `xy`, and `name="g"; filename="b"` with `z`. -/
def sampleParts : List FormPart :=
  [samplePart 'f' 'a' [120, 121], samplePart 'g' 'b' [122]]

theorem sample_fresh : TempNamesFresh sampleEnvironment fun _ => none where
  absent := fun _ _ => rfl
  opens := fun _ => rfl
  joined := by
    intro first second same
    exact List.append_cancel_left (List.cons.inj (List.append_cancel_left same)).2

theorem sample_line : BoundaryLine sampleBoundary := by
  constructor <;> decide

theorem sample_disposition {name fileName : Char} (plain : name ≠ '"' ∧ fileName ≠ '"') :
    (sampleDisposition name fileName).WellFormed := by
  have gap : ∀ letter ∈ [' '], isSpace letter = true := by
    intro letter member
    rw [List.mem_singleton.mp member]
    rfl
  have same : ∀ key, equalsIgnoringCase key key = true := fun _ => decide_eq_true rfl
  constructor
  · intro parameter member
    simp only [sampleDisposition, List.mem_cons, List.not_mem_nil, or_false] at member
    rcases member with rfl | rfl
    · exact ⟨gap, by simpa using plain.1.symm⟩
    · exact ⟨gap, by simpa using plain.2.symm⟩
  · intro key known
    simp only [List.mem_cons, List.not_mem_nil, or_false] at known
    rcases known with rfl | rfl
    · exact ⟨_, List.mem_cons_self, same nameKey⟩
    · exact ⟨_, List.mem_cons_of_mem _ List.mem_cons_self, same fileNameKey⟩

theorem sample_well_formed :
    ∀ part ∈ sampleParts, part.WellFormed sampleEnvironment sampleBoundary := by
  intro part member
  simp only [sampleParts, List.mem_cons, List.not_mem_nil, or_false] at member
  rcases member with rfl | rfl
  · exact {
      begins := ⟨67, _, [], rfl, by decide, by decide⟩
      nonempty := by decide
      oneLine := by decide +kernel
      small := by decide +kernel
      absent := by rw [← index_none_iff]; decide
      disposed := by decide +kernel
      proper := sample_disposition (by decide) }
  · exact {
      begins := ⟨67, _, [], rfl, by decide, by decide⟩
      nonempty := by decide
      oneLine := by decide +kernel
      small := by decide +kernel
      absent := by rw [← index_none_iff]; decide
      disposed := by decide +kernel
      proper := sample_disposition (by decide) }

theorem sample_reads : ∀ part ∈ sampleParts, ∀ key ∈ [nameKey, fileNameKey],
    ReadsBack key part.disposition := by
  intro part member key known
  simp only [sampleParts, List.mem_cons, List.not_mem_nil, or_false] at member known
  rcases member with rfl | rfl
  · rcases known with rfl | rfl
    · exact reads_back_alone [] rfl (by decide +kernel) (Or.inl rfl) (by decide)
        (by decide +kernel)
    · exact reads_back_alone [_] rfl (by decide +kernel) (Or.inl rfl) (by decide)
        (by decide +kernel)
  · rcases known with rfl | rfl
    · exact reads_back_alone [] rfl (by decide +kernel) (Or.inl rfl) (by decide)
        (by decide +kernel)
    · exact reads_back_alone [_] rfl (by decide +kernel) (Or.inl rfl) (by decide)
        (by decide +kernel)

theorem sample_readable : Readable sampleEnvironment sampleBoundary sampleParts where
  letter := ⟨66, by decide, by decide⟩
  absent := by
    intro part member line among
    simp only [sampleParts, List.mem_cons, List.not_mem_nil, or_false] at member
    rcases member with rfl | rfl
    · rw [List.mem_singleton.mp among, ← index_none_iff]
      decide +kernel
    · rw [List.mem_singleton.mp among, ← index_none_iff]
      decide +kernel
  oneColon := by
    intro part member
    simp only [sampleParts, List.mem_cons, List.not_mem_nil, or_false] at member
    rcases member with rfl | rfl
    · decide +kernel
    · decide +kernel
  reads := sample_reads

/-- The body is cut inside of the data of its first part; the other chunk holds the second. -/
def dataCut : List Bytes :=
  [dashes ++ (sampleBoundary ++
      (crlf ++ ((samplePart 'f' 'a' [120, 121]).headers ++ [120]))),
    [121] ++ (crlf ++ dashes) ++ (sampleBoundary ++
      passedParts sampleBoundary [samplePart 'g' 'b' [122]] (dashes ++ crlf))]

/-- The header line is cut: what was read of it is taken for the headers, and its last byte and
all that follows for the data. -/
def headerCut : List Bytes :=
  [dashes ++ (sampleBoundary ++ (crlf ++ sampleLineStart)),
    sampleLineEnd 'f' 'a' ++ (crlf ++ (crlf ++ ([120, 121] ++ (crlf ++ (dashes ++
      (sampleBoundary ++ (dashes ++ crlf)))))))]

end Viridity.UploadChunks
