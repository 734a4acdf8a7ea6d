import Viridity.HeaderParameters

/-!
# Multipart bodies

A body is written down from its parts; the name and the file name of a part are the
parameters of its Content-Disposition. `splitChunk` finds the parts of a chunk that
holds whole boundaries.
-/

namespace Viridity.FormBody

open Viridity.SubstringSearch
open Viridity.FileUpload
open Viridity.HeaderParameters

set_option autoImplicit false

def crlf : Bytes := [carriageReturn, lineFeed]
def dashes : Bytes := [dash, dash]

/-- A part: the lines of its headers, the disposition that one of them gives, and its data. -/
structure FormPart where
  lines : List Bytes
  disposition : Disposition
  data : Bytes
deriving DecidableEq

def headerLines : List Bytes → Bytes
  | [] => crlf
  | line :: rest => line ++ (crlf ++ headerLines rest)

def FormPart.headers (part : FormPart) : Bytes := headerLines part.lines

/-- What stands between two boundaries, behind the line end of the first. -/
def FormPart.text (part : FormPart) : Bytes := part.headers ++ (part.data ++ (crlf ++ dashes))

def afterBoundary (boundary : Bytes) : List FormPart → Bytes
  | [] => dashes ++ crlf
  | part :: later => crlf ++ (part.text ++ (boundary ++ afterBoundary boundary later))

def formBody (boundary : Bytes) (parts : List FormPart) : Bytes :=
  dashes ++ (boundary ++ afterBoundary boundary parts)

def fieldName (line : List Char) : List Char :=
  trimmedBy isSpace (line.takeWhile fun letter => letter ≠ ':')

def fieldValue (line : List Char) : List Char :=
  trimmedBy isSpace ((line.dropWhile fun letter => letter ≠ ':').drop 1)

def isDisposition (line : List Char) : Bool :=
  decide (':' ∈ line) && equalsIgnoringCase (fieldName line) contentDisposition

def dispositions (header : List Char) : List (List Char) :=
  ((header.splitOn '\n').filter isDisposition).map fieldValue

def FormPart.name (part : FormPart) : List Char := part.disposition.value nameKey
def FormPart.fileName (part : FormPart) : List Char := part.disposition.value fileNameKey

section Environment

variable (environment : UploadEnvironment)

def FormPart.headerText (part : FormPart) : List Char := environment.fromUtf8 part.headers

/-- Header lines are not empty, the first starts with the name of its field, one of them is the
Content-Disposition of the part, and the boundary is not in the data. -/
structure FormPart.WellFormed (boundary : Bytes) (part : FormPart) : Prop where
  begins : ∃ first rest later, part.lines = (first :: rest) :: later ∧
    isSpaceByte first = false ∧ first ≠ dash
  nonempty : ∀ line ∈ part.lines, line ≠ []
  oneLine : ∀ line ∈ part.lines, carriageReturn ∉ line ∧ lineFeed ∉ line
  small : part.headers.length < 1024
  absent : ¬ boundary <:+: part.data
  disposed : dispositions (part.headerText environment) = [part.disposition.text]
  proper : part.disposition.WellFormed

/-- The boundary has a letter besides dashes and is not in the headers, the lines of the
Content-Disposition have no second colon, and the names are the last of their keys in them. -/
structure Readable (boundary : Bytes) (parts : List FormPart) : Prop where
  letter : ∃ byte ∈ boundary, byte ≠ dash
  absent : ∀ part ∈ parts, ∀ line ∈ part.lines, ¬ boundary <:+: line
  oneColon : ∀ part ∈ parts, ∀ line ∈ (part.headerText environment).splitOn '\n',
    isDisposition line = true → line.count ':' = 1
  reads : ∀ part ∈ parts, ∀ key ∈ [nameKey, fileNameKey], ReadsBack key part.disposition

end Environment

theorem take_drop_colon {key value : List Char} (outside : ':' ∉ key) :
    (key ++ ':' :: value).takeWhile (fun letter => letter ≠ ':') = key ∧
      (key ++ ':' :: value).dropWhile (fun letter => letter ≠ ':') = ':' :: value := by
  have plain : ∀ letter ∈ key, decide (letter ≠ ':') = true := by
    intro letter member
    have differs : letter ≠ ':' := by
      rintro rfl
      exact outside member
    simpa using differs
  constructor
  · rw [List.takeWhile_append_of_pos plain]
    simp
  · rw [List.dropWhile_append_of_pos plain]
    simp

theorem read_line (part : Part) {line : List Char}
    (oneColon : isDisposition line = true → line.count ':' = 1) :
    readHeaderLine part line =
      if isDisposition line then part.named (fieldValue line) else part := by
  by_cases colon : ':' ∈ line
  · obtain ⟨key, value, rfl, outside⟩ := List.eq_append_cons_of_mem colon
    obtain ⟨before, behind⟩ := @take_drop_colon key value outside
    have shape : isDisposition (key ++ ':' :: value) =
        equalsIgnoringCase (trimmedBy isSpace key) contentDisposition := by
      unfold isDisposition fieldName
      rw [before]
      simp
    unfold readHeaderLine
    rw [List.splitOn_append_cons_self_of_not_mem outside]
    by_cases second : ':' ∈ value
    · -- the code leaves out a line with two colons
      have plain : isDisposition (key ++ ':' :: value) = false := by
        apply Bool.eq_false_iff.mpr
        intro disposed
        have single := oneColon disposed
        rw [List.count_append, List.count_cons_self] at single
        have := List.count_pos_iff.mpr second
        omega
      obtain ⟨middle, rest, rfl, clean⟩ := List.eq_append_cons_of_mem second
      rw [List.splitOn_append_cons_self_of_not_mem clean, plain]
      obtain ⟨last, others, more⟩ := List.exists_cons_of_ne_nil (List.splitOn_ne_nil ':' rest)
      rw [more]
      rfl
    · rw [List.splitOn_eq_singleton second, shape]
      unfold fieldValue
      rw [behind]
      rfl
  · have plain : isDisposition line = false := by simp [isDisposition, colon]
    unfold readHeaderLine
    rw [List.splitOn_eq_singleton colon, plain]
    rfl

theorem read_lines_ignored {lines : List (List Char)} (part : Part)
    (others : ∀ line ∈ lines, ¬ isDisposition line = true) :
    lines.foldl readHeaderLine part = part := by
  induction lines with
  | nil => rfl
  | cons line lines induction =>
      have plain := others line List.mem_cons_self
      rw [List.foldl_cons, read_line part fun disposed => absurd disposed plain, if_neg plain]
      exact induction fun other member => others other (List.mem_cons_of_mem _ member)

theorem read_headers (part : Part) {header : List Char}
    (oneColon : ∀ line ∈ header.splitOn '\n', isDisposition line = true → line.count ':' = 1)
    (disposed : dispositions header ≠ []) :
    readHeaders part header = part.named (((dispositions header).getLast?).getD []) := by
  unfold readHeaders dispositions at *
  generalize header.splitOn '\n' = lines at *
  induction lines generalizing part with
  | nil => exact absurd rfl disposed
  | cons line lines induction =>
      have here := read_line part (oneColon line List.mem_cons_self)
      have others : ∀ other ∈ lines, isDisposition other = true → other.count ':' = 1 := by
        intro other member
        exact oneColon other (List.mem_cons_of_mem _ member)
      rw [List.foldl_cons, here]
      by_cases later : (lines.filter isDisposition).map fieldValue = []
      · -- only this line sets them
        have sets : isDisposition line = true := by
          by_contra other
          simp [other, later] at disposed
        simp only [List.map_eq_nil_iff] at later
        rw [read_lines_ignored _ (List.filter_eq_nil_iff.mp later)]
        simp [sets, later]
      · have last : (((line :: lines).filter isDisposition).map fieldValue).getLast? =
            ((lines.filter isDisposition).map fieldValue).getLast? := by
          rw [List.filter_cons]
          split_ifs
          · rw [List.map_cons]
            obtain ⟨value, values, more⟩ := List.exists_cons_of_ne_nil later
            rw [more, List.getLast?_cons_cons]
          · rfl
        rw [induction _ others later, last]
        split_ifs <;> rfl

structure BoundaryLine (boundary : Bytes) : Prop where
  nonempty : boundary ≠ []
  noReturn : carriageReturn ∉ boundary
  noFeed : lineFeed ∉ boundary

section Boundary

variable {boundary : Bytes}

theorem ends_before_crlf (line : BoundaryLine boundary) {front back : Bytes}
    (absent : ¬ boundary <:+: front) (ends : EndsBefore boundary back) :
    EndsBefore boundary (front ++ (crlf ++ back)) := by
  have fed : EndsBefore boundary (lineFeed :: back) := by
    have nothing : ¬ boundary <:+: [] := by
      intro occurs
      exact line.nonempty (List.infix_nil.mp occurs)
    exact ends_before_separated line.noFeed nothing ends
  exact ends_before_separated line.noReturn absent fed

theorem ends_before_headers (line : BoundaryLine boundary) {lines : List Bytes} {back : Bytes}
    (absent : ∀ one ∈ lines, ¬ boundary <:+: one) (ends : EndsBefore boundary back) :
    EndsBefore boundary (headerLines lines ++ back) := by
  induction lines with
  | nil =>
      have nothing : ¬ boundary <:+: [] := by
        intro occurs
        exact line.nonempty (List.infix_nil.mp occurs)
      exact ends_before_crlf line nothing ends
  | cons one rest induction =>
      have later := induction fun other member => absent other (List.mem_cons_of_mem _ member)
      unfold headerLines
      simp only [List.append_assoc]
      exact ends_before_crlf line (absent one List.mem_cons_self) later

theorem ends_before_dashes (letter : ∃ byte ∈ boundary, byte ≠ dash) :
    EndsBefore boundary dashes := by
  obtain ⟨byte, member, differs⟩ := letter
  exact ends_before_run member differs 2

theorem ends_before_text (line : BoundaryLine boundary)
    (letter : ∃ byte ∈ boundary, byte ≠ dash) {part : FormPart}
    (absent : ∀ one ∈ part.lines, ¬ boundary <:+: one) (clean : ¬ boundary <:+: part.data) :
    EndsBefore boundary part.text := by
  apply ends_before_headers line absent
  exact ends_before_crlf line clean (ends_before_dashes letter)

/-- A chunk behind its first boundary: whole parts, and what follows the last boundary. -/
def passedParts (boundary : Bytes) : List FormPart → Bytes → Bytes
  | [], tail => tail
  | part :: rest, tail => crlf ++ (part.text ++ (boundary ++ passedParts boundary rest tail))

theorem byte_at_append (front back : Bytes) (index : Nat) :
    byteAt (front ++ back) ((front.length + index : Nat) : Int) = byteAt back (index : Int) := by
  have front' : ¬ ((front.length + index : Nat) : Int) < 0 := by omega
  have back' : ¬ ((index : Nat) : Int) < 0 := by omega
  unfold byteAt
  rw [if_neg front', if_neg back', Int.toNat_natCast, Int.toNat_natCast,
    List.getElem?_append_right (by omega)]
  simp

theorem byte_at_first (front : Bytes) (byte : UInt8) (back : Bytes) :
    byteAt (front ++ byte :: back) (front.length : Int) = .ok byte := by
  have at' := byte_at_append front (byte :: back) 0
  rw [Nat.add_zero] at at'
  rw [at']
  rfl

theorem byte_at_second (front : Bytes) (first second : UInt8) (back : Bytes) :
    byteAt (front ++ first :: second :: back) ((front.length + 1 : Nat) : Int) = .ok second := by
  rw [byte_at_append front (first :: second :: back) 1]
  rfl

theorem skip_crlf (front left : Bytes) :
    skipLineEnd (front ++ (crlf ++ left)) front.length = .ok (front.length + 2) := by
  have first := byte_at_first front carriageReturn (lineFeed :: left)
  have second := byte_at_second front carriageReturn lineFeed left
  unfold skipLineEnd crlf
  simp only [List.cons_append, List.nil_append, first, bind, Except.bind, if_true, second]
  rfl

theorem skip_nothing (front left : Bytes) {byte : UInt8} (noReturn : byte ≠ carriageReturn)
    (noFeed : byte ≠ lineFeed) :
    skipLineEnd (front ++ byte :: left) front.length = .ok front.length := by
  have first := byte_at_first front byte left
  unfold skipLineEnd
  simp only [first, bind, Except.bind, if_neg noReturn, if_neg noFeed]
  rfl

theorem split_loop_parts (line : BoundaryLine boundary) {head tail : Bytes}
    {completed : List FormPart} {skipped : Nat} (ends : EndsBefore boundary head)
    (clean : ∀ part ∈ completed, EndsBefore boundary part.text)
    (skips : ∀ front : Bytes, skipLineEnd (front ++ tail) front.length =
      .ok (front.length + skipped))
    (last : ¬ boundary <:+: tail.drop skipped) {fuel : Nat}
    (enough : (head ++ (boundary ++ passedParts boundary completed tail)).length < fuel) :
    splitLoop boundary fuel (head ++ (boundary ++ passedParts boundary completed tail)) =
      .ok (head :: (completed.map FormPart.text ++ [tail.drop skipped])) := by
  induction completed generalizing head fuel with
  | nil =>
      have positive := List.length_pos_iff.mpr line.nonempty
      simp only [passedParts, List.length_append] at enough ⊢
      obtain ⟨more, rfl⟩ : ∃ more, fuel = more + 2 := ⟨fuel - 2, by omega⟩
      have found := index_append line.nonempty ends tail
      have skip := skips (head ++ boundary)
      rw [List.append_assoc] at found
      rw [List.length_append, List.append_assoc] at skip
      have dropped : (head ++ (boundary ++ tail)).drop (head.length + boundary.length + skipped) =
          tail.drop skipped := by
        rw [← List.append_assoc, ← List.length_append, List.drop_append]
        simp
      unfold splitLoop
      simp only [found, skip, bind, Except.bind, dropped]
      unfold splitLoop
      simp only [(index_none_iff boundary (tail.drop skipped)).mpr last]
      simp [pure, Except.pure]
  | cons part completed induction =>
      have positive := List.length_pos_iff.mpr line.nonempty
      have later := fun other member => clean other (List.mem_cons_of_mem part member)
      unfold passedParts at enough ⊢
      generalize rest : part.text ++ (boundary ++ passedParts boundary completed tail) = text at *
      obtain ⟨more, rfl⟩ : ∃ more, fuel = more + 1 := ⟨fuel - 1, by omega⟩
      have found := index_append line.nonempty ends (crlf ++ text)
      have skip := skip_crlf (head ++ boundary) text
      rw [List.append_assoc] at found
      rw [List.length_append, List.append_assoc] at skip
      have dropped : (head ++ (boundary ++ (crlf ++ text))).drop
          (head.length + boundary.length + 2) = text := by
        rw [← List.append_assoc, ← List.length_append, List.drop_append]
        simp [crlf]
      have remaining : text.length < more := by
        simp only [List.length_append] at enough
        omega
      unfold splitLoop
      simp only [found, skip, bind, Except.bind, dropped]
      rw [← rest] at remaining ⊢
      rw [induction (clean part List.mem_cons_self) later remaining]
      simp [pure, Except.pure]

theorem split_chunk_parts (line : BoundaryLine boundary) {head tail : Bytes}
    {completed : List FormPart} {skipped : Nat} (ends : EndsBefore boundary head)
    (clean : ∀ part ∈ completed, EndsBefore boundary part.text)
    (skips : ∀ front : Bytes, skipLineEnd (front ++ tail) front.length =
      .ok (front.length + skipped))
    (last : ¬ boundary <:+: tail.drop skipped) :
    splitChunk boundary (head ++ (boundary ++ passedParts boundary completed tail)) =
      .ok (head :: (completed.map FormPart.text ++ [tail.drop skipped])) := by
  have found := index_append line.nonempty ends (passedParts boundary completed tail)
  rw [List.append_assoc] at found
  unfold splitChunk
  rw [found]
  exact split_loop_parts line ends clean skips last (Nat.lt_succ_self _)

theorem split_chunk_none {chunk : Bytes} (absent : ¬ boundary <:+: chunk) :
    splitChunk boundary chunk = .ok [] := by
  unfold splitChunk
  rw [(index_none_iff boundary chunk).mpr absent]

end Boundary

end Viridity.FormBody
