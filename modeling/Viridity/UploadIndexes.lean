import Viridity.TextEncoding
import Viridity.UploadChunks

/-!
# Accesses of the upload handler

Where the handler reads a byte it does not have: behind a boundary at the end of a chunk, and
in front of a piece that has nothing but the dashes and line ends it steps back over. The
boundary comes from the content type, and is empty if that names none.
-/

namespace Viridity.UploadIndexes

open Viridity.TextEncoding (utf8)
open Viridity.SubstringSearch
open Viridity.FileUpload
open Viridity.FormBody
open Viridity.UploadChunks

set_option autoImplicit false

def multipart : List Char := ['m', 'u', 'l', 't', 'i', 'p', 'a', 'r', 't', '/']
def boundaryKey : List Char := ['b', 'o', 'u', 'n', 'd', 'a', 'r', 'y', '=']

/-- What the regular expression captures when the key stands right here. -/
def boundaryHere (text : List Char) : Option (List Char) :=
  if equalsIgnoringCase (text.take boundaryKey.length) boundaryKey then
    let value := text.drop boundaryKey.length
    let quoted := if value.head? = some '"' then value.tail else value
    let captured := quoted.takeWhile fun letter => letter ≠ '"'
    if captured = [] then none else some captured
  else none

/-- The leading `.*` is greedy. -/
def lastBoundary : List Char → Option (List Char)
  | [] => none
  | letter :: rest =>
      match lastBoundary rest with
      | some boundary => some boundary
      | none => boundaryHere (letter :: rest)

def isMultiPart (environment : UploadEnvironment) (contentType : Bytes) : Bool :=
  equalsIgnoringCase ((environment.fromUtf8 contentType).take multipart.length) multipart

/-- The boundary the constructor leaves. A content type that names none is answered with
`BAD_REQUEST`, but the handler is connected to the data all the same. -/
def boundaryOf (environment : UploadEnvironment) (contentType : Bytes) : Bytes :=
  if isMultiPart environment contentType then
    utf8.encode ((lastBoundary (environment.fromUtf8 contentType)).getD [])
  else []

def scanLoop (data : Bytes) : Nat → Int → Except UploadFailure Int
  | 0, _ => .error .endlessLoop
  | fuel + 1, pos =>
      if pos < data.length - 1 then do
        let first ← byteAt data pos
        if first = lineFeed then do
          let second ← byteAt data (pos + 1)
          if second = lineFeed ∨ second = carriageReturn then
            return (if second = carriageReturn then pos + 1 else pos) + 2
          else scanLoop data fuel (pos + 1)
        else scanLoop data fuel (pos + 1)
      else .ok pos

def withoutLineEnd (text : Bytes) : Bytes :=
  let rest := if text.head? = some carriageReturn then text.tail else text
  if rest.head? = some lineFeed then rest.tail else rest

/-- The pieces of a text between its boundaries, from left to right, where each boundary has a
byte behind it, and one more if that is a carriage return. -/
inductive Pieces (boundary : Bytes) : Bytes → List Bytes → Prop
  | last {text : Bytes} (absent : ¬ boundary <:+: text) : Pieces boundary text [text]
  | next {text : Bytes} {position : Nat} {pieces : List Bytes}
      (found : indexOf boundary text = some position)
      (follows : text.drop (position + boundary.length) ≠ [])
      (more : text.drop (position + boundary.length) ≠ [carriageReturn])
      (rest : Pieces boundary (withoutLineEnd (text.drop (position + boundary.length))) pieces) :
      Pieces boundary text (text.take position :: pieces)

/-- The dashes and line ends that `findEndIndex` steps back over, with nothing in front. -/
def stubs : List Bytes := [[dash], [dash, dash], [lineFeed], [lineFeed, dash, dash]]

/-- The headers are taken for complete with the piece, and a file is to be opened. -/
def triesFile (held piece : Bytes) : Bool :=
  held.length < 1024 && scanHeader (held ++ piece) < (held ++ piece).length

def triedFiles (fileId : Nat) (held piece : Bytes) : Nat :=
  if triesFile held piece then fileId + 1 else fileId

section Pieces

variable (environment : UploadEnvironment)

/-- What stays in the buffer when a piece is added to it as complete: all of it where the file
cannot be opened. -/
def heldOver (fileId : Nat) (held piece : Bytes) : Bytes :=
  if held.length < 1024 then
    if triesFile held piece && environment.opens (fileId + 1) then [] else held ++ piece
  else held

def PartsEnd : Nat → Bytes → List Bytes → Prop
  | _, _, [] => True
  | fileId, held, piece :: pieces =>
      held ++ piece ∉ stubs ∧
        PartsEnd (triedFiles fileId held piece) (heldOver environment fileId held piece) pieces

/-- A file that is open is not ended by a lone dash; and if none is open behind the first
boundary, nor opened by what follows the last one, no part is a stub. -/
def PiecesTaken (state : UploadState) (first : Bytes) (middle : List Bytes) (last : Bytes) : Prop :=
  (state.targetFile ≠ none → first ≠ [dash]) ∧
    (state.targetFile = none ∨ isBlank first = false →
      (isBlank last = true → PartsEnd environment state.fileId [] middle) ∧
        (isBlank last = false →
          ¬ (triesFile [] last = true ∧ environment.opens (state.fileId + 1) = true) →
            PartsEnd environment (triedFiles state.fileId [] last) last middle))

/-- The chunks that the handler can take in a state. -/
def ChunkTaken (boundary : Bytes) (state : UploadState) (chunk : Bytes) : Prop :=
  ∃ pieces, Pieces boundary chunk pieces ∧
    ∀ first middle last, pieces = first :: (middle ++ [last]) →
      PiecesTaken environment state first middle last

end Pieces

section Runs

variable {State Input Failure : Type} {step : State → Input → Except Failure State}

theorem fold_succeeds_iff {inputs : List Input} {state : State} :
    (∃ final, inputs.foldlM step state = .ok final) ↔
      ∀ before input after reached, inputs = before ++ input :: after →
        before.foldlM step state = .ok reached → ∃ next, step reached input = .ok next := by
  induction inputs generalizing state with
  | nil =>
      apply iff_of_true ⟨state, rfl⟩
      intro before input after reached split
      cases before <;> cases split
  | cons head inputs induction =>
      rw [List.foldlM_cons]
      constructor
      · rintro ⟨final, ran⟩ before input after reached split came
        cases stepped : step state head with
        | error failure =>
            rw [stepped] at ran
            cases ran
        | ok next =>
            rw [stepped] at ran
            cases before with
            | nil =>
                cases came
                cases split
                exact ⟨next, stepped⟩
            | cons first before =>
                cases split
                rw [List.foldlM_cons, stepped] at came
                exact induction.mp ⟨final, ran⟩ before input after reached rfl came
      · intro all
        obtain ⟨next, stepped⟩ := all [] head inputs state rfl rfl
        rw [stepped]
        apply induction.mpr
        intro before input after reached split came
        apply all (head :: before) input after reached (by rw [split]; rfl)
        rw [List.foldlM_cons, stepped]
        exact came

end Runs

section Accesses

theorem byte_at_nat (data : Bytes) (index : Nat) : byteAt data (index : Int) =
    (data[index]?).elim (.error .indexOutOfRange) .ok := by
  unfold byteAt
  rw [if_neg (by omega), Int.toNat_natCast]
  cases data[index]? with
  | none => rfl
  | some byte => rfl

theorem scan_loop (front rest : Bytes) {fuel : Nat} (enough : rest.length < fuel) :
    scanLoop (front ++ rest) fuel front.length = .ok (front.length + scanHeader rest : Nat) := by
  induction rest generalizing front fuel with
  | nil =>
      obtain ⟨more, rfl⟩ : ∃ more, fuel = more + 1 := ⟨fuel - 1, by omega⟩
      unfold scanLoop
      rw [if_neg (by rw [List.append_nil]; omega)]
      rfl
  | cons first rest induction =>
      obtain ⟨more, rfl⟩ : ∃ more, fuel = more + 1 := ⟨fuel - 1, by omega⟩
      cases rest with
      | nil =>
          unfold scanLoop
          rw [if_neg (by rw [List.length_append, List.length_singleton]; omega)]
          rfl
      | cons second rest =>
          have on := @induction (front ++ [first]) more
            (by simp only [List.length_cons] at enough ⊢; omega)
          rw [List.append_assoc, List.singleton_append, List.length_append, List.length_singleton]
            at on
          have one := byte_at_first front first (second :: rest)
          have two := byte_at_second front first second rest
          unfold scanLoop scanHeader
          rw [if_pos (by simp only [List.length_append, List.length_cons]; omega), one]
          rw [Int.natCast_succ] at two
          simp only [bind, Except.bind, two, Bool.and_eq_true, Bool.or_eq_true, decide_eq_true_eq]
          by_cases feed : first = lineFeed
          · by_cases empty : second = lineFeed ∨ second = carriageReturn
            · have both : first = lineFeed ∧ (second = lineFeed ∨ second = carriageReturn) :=
                ⟨feed, empty⟩
              rw [if_pos feed, if_pos empty, if_pos both]
              change Except.ok _ = _
              congr 1
              split_ifs <;> omega
            · have neither : ¬ (first = lineFeed ∧ (second = lineFeed ∨ second = carriageReturn)) :=
                fun both => empty both.2
              rw [if_pos feed, if_neg empty, if_neg neither, ← Int.natCast_succ, on]
              congr 2
              omega
          · have neither : ¬ (first = lineFeed ∧ (second = lineFeed ∨ second = carriageReturn)) :=
              fun both => feed both.1
            rw [if_neg feed, if_neg neither, ← Int.natCast_succ, on]
            congr 2
            omega

theorem byte_behind (text : Bytes) (position index : Nat) :
    byteAt text ((position + index : Nat) : Int) = byteAt (text.drop position) index := by
  rw [byte_at_nat, byte_at_nat, List.getElem?_drop]

theorem byte_here (text : Bytes) (position : Nat) :
    byteAt text (position : Int) = byteAt (text.drop position) 0 := byte_behind text position 0

/-- Behind a boundary a byte is looked at, and the next one if it is a carriage return. -/
theorem skip_line_end {text : Bytes} {position : Nat} (follows : text.drop position ≠ [])
    (more : text.drop position ≠ [carriageReturn]) :
    ∃ behind, skipLineEnd text position = .ok behind ∧
      text.drop behind = withoutLineEnd (text.drop position) := by
  have next := byte_behind text position 1
  have further : text.drop (position + 1) = (text.drop position).tail := by
    rw [List.tail_drop]
  have last : text.drop (position + 1 + 1) = (text.drop position).tail.tail := by
    rw [List.tail_drop, List.tail_drop]
  unfold skipLineEnd withoutLineEnd
  rw [byte_here text position]
  generalize here : text.drop position = rest at *
  cases rest with
  | nil => exact absurd rfl follows
  | cons first rest =>
      by_cases back : first = carriageReturn
      · cases rest with
        | nil => exact absurd (by rw [back]) more
        | cons second rest =>
            subst back
            refine ⟨if second = lineFeed then position + 1 + 1 else position + 1, ?_, ?_⟩
            · change (do
                let second ← byteAt text ((position + 1 : Nat) : Int)
                return if second = lineFeed then position + 1 + 1 else position + 1) = _
              rw [next]
              rfl
            · by_cases feed : second = lineFeed
              · rw [if_pos feed, last, feed]
                rfl
              · rw [if_neg feed, further]
                simp [feed]
      · refine ⟨if first = lineFeed then position + 1 else position, ?_, ?_⟩
        · change (do
            let second ← byteAt text ((if first = carriageReturn then position + 1 else position :
              Nat) : Int)
            return if second = lineFeed then
              (if first = carriageReturn then position + 1 else position) + 1
            else if first = carriageReturn then position + 1 else position) = _
          rw [if_neg back, byte_here text position, here]
          rfl
        · by_cases feed : first = lineFeed
          · have other : lineFeed ≠ carriageReturn := by decide
            rw [if_pos feed, further]
            simp [feed, other]
          · rw [if_neg feed, here]
            simp [feed, back]

theorem skip_line_end_fails {text : Bytes} {position : Nat}
    (ends : text.drop position = [] ∨ text.drop position = [carriageReturn]) :
    skipLineEnd text position = .error .indexOutOfRange := by
  have next := byte_behind text position 1
  unfold skipLineEnd
  rw [byte_here text position]
  rcases ends with nothing | back
  · rw [nothing]
    rfl
  · rw [back] at next ⊢
    change (do
      let second ← byteAt text ((position + 1 : Nat) : Int)
      return if second = lineFeed then position + 1 + 1 else position + 1) = _
    rw [next]
    rfl

end Accesses

section Boundaries

variable {boundary : Bytes}

theorem pieces_boundary {text : Bytes} {pieces : List Bytes}
    (divided : Pieces boundary text pieces) : boundary ≠ [] := by
  induction divided with
  | last absent =>
      rintro rfl
      exact absent List.nil_infix
  | next _ _ _ _ induction => exact induction

/-- Without a boundary the handler can take no chunk: the loop finds the empty boundary again and
again. -/
theorem empty_boundary_untaken (environment : UploadEnvironment) (state : UploadState)
    (chunk : Bytes) : ¬ ChunkTaken environment [] state chunk := by
  rintro ⟨pieces, divided, _⟩
  exact pieces_boundary divided rfl

theorem without_line_end_length (text : Bytes) : (withoutLineEnd text).length ≤ text.length := by
  unfold withoutLineEnd
  dsimp only
  split_ifs <;> simp only [List.length_tail, Nat.le_refl] <;> omega

/-- A text whose boundaries are followed by something is divided, and the loop ends. -/
theorem split_loop_pieces {text : Bytes} {pieces : List Bytes}
    (divided : Pieces boundary text pieces) {fuel : Nat} (enough : text.length < fuel) :
    splitLoop boundary fuel text = .ok pieces := by
  have nonempty := List.length_pos_iff.mpr (pieces_boundary divided)
  induction divided generalizing fuel with
  | last absent =>
      obtain ⟨more, rfl⟩ : ∃ more, fuel = more + 1 := ⟨fuel - 1, by omega⟩
      unfold splitLoop
      rw [(index_none_iff boundary _).mpr absent]
  | @next text position pieces found follows more _ induction =>
      obtain ⟨rounds, rfl⟩ : ∃ rounds, fuel = rounds + 1 := ⟨fuel - 1, by omega⟩
      obtain ⟨behind, skipped, rest⟩ := skip_line_end follows more
      have shorter := without_line_end_length (text.drop (position + boundary.length))
      have positive := List.length_pos_iff.mpr follows
      rw [List.length_drop] at shorter positive
      unfold splitLoop
      rw [found]
      dsimp only
      simp only [skipped, bind, Except.bind, rest]
      rw [induction (by omega)]
      rfl

/-- The loop ends with a result only for such a text, however many rounds it is given. -/
theorem pieces_split_loop {text : Bytes} {pieces : List Bytes} {fuel : Nat}
    (split : splitLoop boundary fuel text = .ok pieces) : Pieces boundary text pieces := by
  induction fuel generalizing text pieces with
  | zero => cases split
  | succ fuel induction =>
      unfold splitLoop at split
      cases found : indexOf boundary text with
      | none =>
          rw [found] at split
          cases split
          exact Pieces.last ((index_none_iff boundary text).mp found)
      | some position =>
          rw [found] at split
          dsimp only at split
          by_cases ends : text.drop (position + boundary.length) = [] ∨
              text.drop (position + boundary.length) = [carriageReturn]
          · rw [skip_line_end_fails ends] at split
            cases split
          · obtain ⟨follows, more⟩ := not_or.mp ends
            obtain ⟨behind, skipped, rest⟩ := skip_line_end follows more
            simp only [skipped, bind, Except.bind, rest] at split
            cases others : splitLoop boundary fuel
                (withoutLineEnd (text.drop (position + boundary.length))) with
            | error failure =>
                rw [others] at split
                cases split
            | ok pieces' =>
                rw [others] at split
                cases split
                exact Pieces.next found follows more (induction others)

end Boundaries

section Ends

def findLineEnd (data : Bytes) (index : Int) : Except UploadFailure Int := do
  let feed ← byteAt data index
  let withoutFeed := if feed = lineFeed then index - 1 else index
  let back ← byteAt data withoutFeed
  return if back = carriageReturn then withoutFeed - 1 else withoutFeed

theorem byte_in_front (data : Bytes) {index : Int} (negative : index < 0) :
    byteAt data index = .error .indexOutOfRange := by
  unfold byteAt
  rw [if_pos negative]

theorem find_line_end_other (front : Bytes) {last : UInt8} (back : Bytes)
    (other : last ≠ lineFeed) :
    ∃ index, findLineEnd (front ++ last :: back) front.length = .ok index := by
  have here := byte_at_first front last back
  unfold findLineEnd
  simp only [here, bind, Except.bind, if_neg other]
  exact ⟨_, rfl⟩

theorem find_line_end_iff (front back : Bytes) :
    (∃ index, findLineEnd (front ++ back) (front.length - 1) = .ok index) ↔
      front ≠ [] ∧ front ≠ [lineFeed] := by
  rcases List.eq_nil_or_concat' front with empty | ⟨initial, last, whole⟩
  · have before : ((front.length : Int) - 1) < 0 := by
      rw [empty]
      decide
    unfold findLineEnd
    rw [byte_in_front _ before]
    apply iff_of_false
    · rintro ⟨index, impossible⟩
      cases impossible
    · exact fun both => both.1 empty
  · have length : ((front.length : Int) - 1) = initial.length := by
      rw [whole, List.length_append, List.length_singleton]
      omega
    rw [length, whole, List.append_assoc, List.singleton_append]
    by_cases feed : last = lineFeed
    · rw [feed]
      have here := byte_at_first initial lineFeed back
      rcases List.eq_nil_or_concat' initial with empty | ⟨former, previous, split⟩
      · rw [empty] at here ⊢
        apply iff_of_false
        · unfold findLineEnd
          simp only [here, bind, Except.bind, if_true]
          rintro ⟨index, impossible⟩
          cases impossible
        · exact fun both => both.2 rfl
      · have before := byte_at_first former previous (lineFeed :: back)
        have shorter : ((initial.length : Int) - 1) = former.length := by
          rw [split, List.length_append, List.length_singleton]
          omega
        apply iff_of_true
        · unfold findLineEnd
          simp only [here, bind, Except.bind, if_true, shorter]
          rw [split, List.append_assoc, List.singleton_append, before]
          exact ⟨_, rfl⟩
        · rw [split]
          constructor
          · simp
          · intro only
            have lengths := congrArg List.length only
            simp at lengths
    · apply iff_of_true (find_line_end_other initial back feed)
      constructor
      · simp
      · intro only
        apply feed
        have lasts := congrArg List.getLast? only
        simpa using lasts

theorem stub_dashes (front : Bytes) :
    front ++ [dash, dash] ∈ stubs ↔ front = [] ∨ front = [lineFeed] := by
  constructor
  · intro member
    simp only [stubs, List.mem_cons, List.not_mem_nil, or_false] at member
    rcases member with one | two | feed | three
    · have lengths := congrArg List.length one
      simp at lengths
    · exact Or.inl (List.append_cancel_right
        (show front ++ [dash, dash] = [] ++ [dash, dash] from two))
    · have lengths := congrArg List.length feed
      simp at lengths
    · exact Or.inr (List.append_cancel_right
        (show front ++ [dash, dash] = [lineFeed] ++ [dash, dash] from three))
  · rintro (rfl | rfl) <;> decide

theorem stub_one_dash {front : Bytes} {previous : UInt8} (other : previous ≠ dash) :
    front ++ [previous, dash] ∉ stubs := by
  intro member
  have before : (front ++ [previous, dash]).dropLast.getLast? = some previous := by
    rw [List.dropLast_append_of_ne_nil (List.cons_ne_nil _ _)]
    exact List.getLast?_concat
  simp only [stubs, List.mem_cons, List.not_mem_nil, or_false] at member
  rcases member with one | two | feed | three
  · rw [one] at before
    cases before
  · rw [two] at before
    exact other (Option.some.inj before).symm
  · rw [feed] at before
    cases before
  · rw [three] at before
    exact other (Option.some.inj before).symm

theorem stub_no_dash (front : Bytes) {last : UInt8} (other : last ≠ dash) :
    front ++ [last] ∈ stubs ↔ front ++ [last] = [lineFeed] := by
  have ends : (front ++ [last]).getLast? = some last := List.getLast?_concat
  constructor
  · intro member
    simp only [stubs, List.mem_cons, List.not_mem_nil, or_false] at member
    rcases member with one | two | feed | three
    · rw [one] at ends
      exact absurd (Option.some.inj ends).symm other
    · rw [two] at ends
      exact absurd (Option.some.inj ends).symm other
    · exact feed
    · rw [three] at ends
      exact absurd (Option.some.inj ends).symm other
  · intro feed
    rw [feed]
    decide

/-- `findEndIndex` reads outside of nothing, a dash, a line feed, and two dashes with nothing or
a line feed in front. -/
theorem find_end_index_iff (data : Bytes) :
    (∃ index, findEndIndex data (data.length - 1) = .ok index) ↔ data ≠ [] ∧ data ∉ stubs := by
  rcases List.eq_nil_or_concat' data with empty | ⟨front, last, whole⟩
  · rw [empty]
    apply iff_of_false
    · rintro ⟨index, impossible⟩
      cases impossible
    · exact fun both => both.1 rfl
  · have length : ((data.length : Int) - 1) = front.length := by
      rw [whole, List.length_append, List.length_singleton]
      omega
    have here := byte_at_first front last []
    rw [length, whole]
    change (∃ index, (do
      let found ← byteAt (front ++ [last]) front.length
      let withoutDashes ←
        if found = dash then do
          let previous ← byteAt (front ++ [last]) (front.length - 1)
          pure (if previous = dash then (front.length : Int) - 2 else front.length)
        else pure (front.length : Int)
      findLineEnd (front ++ [last]) withoutDashes) = Except.ok index) ↔ _
    rw [here]
    by_cases dashed : last = dash
    · rw [dashed] at here ⊢
      rcases List.eq_nil_or_concat' front with empty | ⟨former, previous, split⟩
      · rw [empty]
        apply iff_of_false
        · rintro ⟨index, impossible⟩
          cases impossible
        · exact fun both => both.2 (by decide)
      · have before := byte_at_first former previous [dash]
        have shorter : ((front.length : Int) - 1) = former.length := by
          rw [split, List.length_append, List.length_singleton]
          omega
        have shortest : ((front.length : Int) - 2) = former.length - 1 := by omega
        have joined : front ++ [dash] = former ++ previous :: [dash] := by
          rw [split, List.append_assoc, List.singleton_append]
        simp only [bind, Except.bind, if_true, shorter, shortest]
        rw [joined, before]
        by_cases both : previous = dash
        · rw [both]
          change (∃ index, findLineEnd (former ++ [dash, dash]) (former.length - 1) =
            Except.ok index) ↔ _
          rw [find_line_end_iff, stub_dashes]
          simp
        · obtain ⟨index, ends⟩ := find_line_end_other front [] (show dash ≠ lineFeed by decide)
          rw [joined] at ends
          apply iff_of_true
          · refine ⟨index, ?_⟩
            dsimp only
            rw [if_neg both]
            exact ends
          · exact ⟨by simp, stub_one_dash both⟩
    · have line := find_line_end_iff (front ++ [last]) []
      have same : (((front ++ [last]).length : Int) - 1) = front.length := by
        rw [← whole]
        exact length
      rw [List.append_nil, same] at line
      simp only [bind, Except.bind, if_neg dashed]
      change (∃ index, findLineEnd (front ++ [last]) front.length = Except.ok index) ↔ _
      rw [line, stub_no_dash front dashed]

end Ends

section Writes

variable {environment : UploadEnvironment}

theorem stub_scanned {data : Bytes} (member : data ∈ stubs) : scanHeader data < data.length := by
  revert data
  decide

theorem stub_short {data : Bytes} (member : data ∈ stubs) : data.length < 1024 := by
  revert data
  decide

theorem write_opened {state : UploadState} {target : List Char}
    (open' : state.targetFile = some target) (data : Bytes) (isComplete : Bool) :
    writeDataToCurrentPart environment state data isComplete =
      .ok (writeTarget state target data) := by
  unfold writeDataToCurrentPart
  rw [open']

theorem complete_run_opened {pieces : List Bytes} {state : UploadState} {target : List Char}
    (open' : state.targetFile = some target) :
    ∃ after, pieces.foldlM
      (fun current split => writeDataToCurrentPart environment current split true) state =
        .ok after := by
  induction pieces generalizing state with
  | nil => exact ⟨state, rfl⟩
  | cons piece pieces induction =>
      obtain ⟨after, ran⟩ := @induction (writeTarget state target piece) open'
      refine ⟨after, ?_⟩
      rw [List.foldlM_cons, write_opened open']
      exact ran

theorem write_complete_iff {state : UploadState} (closed : state.targetFile = none)
    (piece : Bytes) :
    (∃ after, writeDataToCurrentPart environment state piece true = .ok after) ↔
      state.analyzeBuffer ++ piece ∉ stubs := by
  unfold writeDataToCurrentPart openTarget appendToBuffer
  rw [closed]
  simp only [if_true]
  split_ifs with small behind
  · have some : state.analyzeBuffer ++ piece ≠ [] := by
      intro empty
      rw [empty] at behind
      exact Nat.not_lt_zero _ behind
    have ends := find_end_index_iff (state.analyzeBuffer ++ piece)
    rw [and_iff_right some] at ends
    rw [← ends]
    constructor
    · rintro ⟨after, ran⟩
      cases found : findEndIndex (state.analyzeBuffer ++ piece)
          ((state.analyzeBuffer ++ piece).length - 1) with
      | error failure =>
          rw [found] at ran
          cases ran
      | ok index => exact ⟨index, rfl⟩
    · rintro ⟨index, found⟩
      rw [found]
      exact ⟨_, rfl⟩
  · exact iff_of_true ⟨_, rfl⟩ fun member => behind (stub_scanned member)
  · apply iff_of_true ⟨_, rfl⟩
    intro member
    have short := stub_short member
    rw [List.length_append] at short
    omega

/-- A file that cannot be opened leaves the handler without one, and the buffer as it is. -/
theorem opened_state {state : UploadState} (closed : state.targetFile = none) (position : Nat)
    (endIndex : Int) :
    (opened environment state position endIndex).fileId = state.fileId + 1 ∧
      (opened environment state position endIndex).analyzeBuffer = state.analyzeBuffer ∧
      ((opened environment state position endIndex).targetFile = none ↔
        ¬ environment.opens (state.fileId + 1) = true) := by
  unfold opened
  dsimp only
  by_cases opens : environment.opens (state.fileId + 1) = true
  · rw [if_pos opens]
    exact ⟨rfl, rfl, iff_of_false (Option.some_ne_none _) (not_not_intro opens)⟩
  · rw [if_neg opens]
    exact ⟨rfl, rfl, iff_of_true closed opens⟩

theorem finished_state (state : UploadState) :
    (finishCurrentPart state).targetFile = none ∧
      (finishCurrentPart state).fileId = state.fileId ∧
      (finishCurrentPart state).analyzeBuffer =
        if state.targetFile = none then state.analyzeBuffer else [] := by
  unfold finishCurrentPart
  cases open' : state.targetFile with
  | none => exact ⟨open', rfl, (if_pos rfl).symm⟩
  | some target => exact ⟨rfl, rfl, (if_neg (Option.some_ne_none target)).symm⟩

theorem write_complete_state {state after : UploadState} (closed : state.targetFile = none)
    {piece : Bytes} (ran : writeDataToCurrentPart environment state piece true = .ok after) :
    after.targetFile = none ∧ after.fileId = triedFiles state.fileId state.analyzeBuffer piece ∧
      after.analyzeBuffer = heldOver environment state.fileId state.analyzeBuffer piece := by
  unfold writeDataToCurrentPart openTarget at ran
  rw [closed] at ran
  simp only [if_true] at ran
  unfold heldOver triedFiles
  by_cases small : state.analyzeBuffer.length < 1024
  · rw [if_pos small] at ran ⊢
    by_cases behind : scanHeader (state.analyzeBuffer ++ piece) < (state.analyzeBuffer ++ piece).length
    · rw [if_pos (show scanHeader (appendToBuffer state piece).analyzeBuffer <
        (appendToBuffer state piece).analyzeBuffer.length from behind)] at ran
      cases found : findEndIndex (appendToBuffer state piece).analyzeBuffer
          ((appendToBuffer state piece).analyzeBuffer.length - 1) with
      | error failure =>
          rw [found] at ran
          cases ran
      | ok index =>
          rw [found] at ran
          cases ran
          obtain ⟨number, buffer, open'⟩ := @opened_state environment (appendToBuffer state piece)
            closed (scanHeader (appendToBuffer state piece).analyzeBuffer) index
          obtain ⟨shut, same, left⟩ := finished_state (opened environment
            (appendToBuffer state piece) (scanHeader (appendToBuffer state piece).analyzeBuffer) index)
          have tries : triesFile state.analyzeBuffer piece = true :=
            Bool.and_eq_true_iff.mpr ⟨decide_eq_true small, decide_eq_true behind⟩
          refine ⟨shut, ?_, ?_⟩
          · rw [same, number, if_pos tries]
            rfl
          · rw [left, buffer, tries, Bool.true_and]
            by_cases opens : environment.opens (state.fileId + 1) = true
            · rw [if_neg fun none' => open'.mp none' opens, if_pos opens]
            · rw [if_pos (open'.mpr opens), if_neg opens]
              rfl
    · rw [if_neg (show ¬ scanHeader (appendToBuffer state piece).analyzeBuffer <
        (appendToBuffer state piece).analyzeBuffer.length from behind)] at ran
      cases ran
      have tries : triesFile state.analyzeBuffer piece = false := by
        unfold triesFile
        rw [decide_eq_false behind, Bool.and_false]
      rw [tries]
      exact ⟨closed, rfl, rfl⟩
  · have tries : triesFile state.analyzeBuffer piece = false := by
      unfold triesFile
      rw [decide_eq_false small, Bool.false_and]
    rw [if_neg small] at ran ⊢
    cases ran
    rw [tries]
    exact ⟨closed, rfl, rfl⟩

theorem complete_run_closed {pieces : List Bytes} {state : UploadState}
    (closed : state.targetFile = none) :
    (∃ after, pieces.foldlM
      (fun current split => writeDataToCurrentPart environment current split true) state =
        .ok after) ↔ PartsEnd environment state.fileId state.analyzeBuffer pieces := by
  induction pieces generalizing state with
  | nil => exact iff_of_true ⟨state, rfl⟩ trivial
  | cons piece pieces induction =>
      have here := @write_complete_iff environment state closed piece
      rw [List.foldlM_cons]
      unfold PartsEnd
      rw [← here]
      cases ran : writeDataToCurrentPart environment state piece true with
      | error failure =>
          apply iff_of_false
          · rintro ⟨after, impossible⟩
            cases impossible
          · rintro ⟨⟨after, impossible⟩, _⟩
            cases impossible
      | ok next =>
          obtain ⟨stays, number, held⟩ := write_complete_state closed ran
          have later := @induction next stays
          rw [number, held] at later
          rw [and_iff_right ⟨next, rfl⟩]
          exact later

theorem write_last_piece {state : UploadState} (closed : state.targetFile = none)
    (cleared : state.analyzeBuffer = []) (last : Bytes) :
    ∃ after, writeDataToCurrentPart environment state last false = .ok after ∧
      after.fileId = triedFiles state.fileId [] last ∧ after.analyzeBuffer = last ∧
      (after.targetFile = none ↔
        ¬ (triesFile [] last = true ∧ environment.opens (state.fileId + 1) = true)) := by
  have buffered : (appendToBuffer state last).analyzeBuffer = last := by
    unfold appendToBuffer
    rw [cleared, List.nil_append]
  have tries : triesFile [] last = true ↔ scanHeader last < last.length := by
    simp [triesFile]
  unfold writeDataToCurrentPart openTarget triedFiles
  rw [closed]
  simp only [Bool.false_eq_true, if_false]
  rw [if_pos (by rw [cleared]; decide), buffered]
  by_cases behind : scanHeader last < last.length
  · obtain ⟨number, buffer, open'⟩ := @opened_state environment (appendToBuffer state last)
      closed (scanHeader last) (last.length - 1)
    rw [if_pos behind, if_pos (tries.mpr behind)]
    exact ⟨_, rfl, number, buffer.trans buffered,
      open'.trans (not_congr (and_iff_right (tries.mpr behind)).symm)⟩
  · have tried : ¬ triesFile [] last = true := fun tries' => behind (tries.mp tries')
    rw [if_neg behind, if_neg tried]
    exact ⟨_, rfl, rfl, buffered, iff_of_true closed fun both => tried both.1⟩

theorem write_splits_iff {state : UploadState} (cleared : state.analyzeBuffer = [])
    (middle : List Bytes) (last : Bytes) :
    (∃ after, writeSplits environment state (middle ++ [last]) = .ok after) ↔
      (state.targetFile = none →
        (isBlank last = true → PartsEnd environment state.fileId [] middle) ∧
          (isBlank last = false →
            ¬ (triesFile [] last = true ∧ environment.opens (state.fileId + 1) = true) →
              PartsEnd environment (triedFiles state.fileId [] last) last middle)) := by
  rw [write_splits_eq]
  cases open' : state.targetFile with
  | some target =>
      apply iff_of_true
      · split_ifs with blank
        · exact complete_run_opened open'
        · rw [write_opened open']
          exact @complete_run_opened environment middle (writeTarget state target last) target open'
      · exact fun closed => absurd closed (by simp)
  | none =>
      rw [imp_iff_right rfl]
      by_cases blank : isBlank last = true
      · rw [if_pos blank]
        have middles := @complete_run_closed environment middle state open'
        rw [cleared] at middles
        exact middles.trans ⟨fun parts => ⟨fun _ => parts, fun visible =>
          absurd (blank.symm.trans visible) (by decide)⟩, fun both => both.1 blank⟩
      · rw [if_neg blank]
        obtain ⟨next, ran, number, held, shut⟩ := @write_last_piece environment state open' cleared last
        rw [ran, ← shut]
        change (∃ after, middle.foldlM _ next = _) ↔ _
        cases opened' : next.targetFile with
        | some target =>
            apply iff_of_true (complete_run_opened opened')
            exact ⟨fun visible => absurd visible blank, fun _ none' => absurd none' (by simp)⟩
        | none =>
            have middles := @complete_run_closed environment middle next opened'
            rw [number, held] at middles
            exact middles.trans ⟨fun parts => ⟨fun visible => absurd visible blank,
              fun _ _ => parts⟩, fun both => both.2 (Bool.eq_false_iff.mpr blank) rfl⟩

theorem write_last_block {state : UploadState} {first : Bytes} (visible : isBlank first = false) :
    (∀ after, writeLastBlockOfCurrentPart state first = .ok after →
      after.targetFile = none ∧ after.fileId = state.fileId) ∧
      ((∃ after, writeLastBlockOfCurrentPart state first = .ok after) ↔
        (state.targetFile ≠ none → first ≠ [dash])) := by
  have ends := find_end_index_iff first
  have stub : first ≠ [] ∧ first ∉ stubs ↔ first ≠ [dash] := by
    constructor
    · rintro ⟨_, none⟩ only
      apply none
      rw [only]
      decide
    · intro other
      constructor
      · rintro rfl
        exact absurd visible (by decide)
      · intro member
        simp only [stubs, List.mem_cons, List.not_mem_nil, or_false] at member
        rcases member with rfl | rfl | rfl | rfl
        · exact other rfl
        · exact absurd visible (by decide)
        · exact absurd visible (by decide)
        · exact absurd visible (by decide)
  unfold writeLastBlockOfCurrentPart
  cases open' : state.targetFile with
  | none =>
      constructor
      · intro after ran
        cases ran
        exact ⟨open', rfl⟩
      · exact iff_of_true ⟨state, rfl⟩ fun opened => absurd rfl opened
  | some target =>
      rw [stub] at ends
      dsimp only
      cases found : findEndIndex first (first.length - 1) with
      | error failure =>
          rw [found] at ends
          constructor
          · intro after ran
            cases ran
          · apply iff_of_false
            · rintro ⟨after, impossible⟩
              cases impossible
            · intro taken
              obtain ⟨index, impossible⟩ := ends.mpr (taken (by simp))
              cases impossible
      | ok index =>
          constructor
          · intro after ran
            cases ran
            have finished := finished_state (writeTarget state target (first.take (index + 1).toNat))
            exact ⟨finished.1, finished.2.1⟩
          · exact iff_of_true ⟨_, rfl⟩ fun _ => ends.mp ⟨index, found⟩

theorem pieces_nonempty {boundary text : Bytes} {pieces : List Bytes}
    (divided : Pieces boundary text pieces) : pieces ≠ [] := by
  cases divided with
  | last => exact List.cons_ne_nil _ _
  | next => exact List.cons_ne_nil _ _

/-- The pieces of a chunk with a boundary are taken as they are written. -/
theorem write_pieces_iff {state : UploadState} (first : Bytes) (middle : List Bytes)
    (last : Bytes) :
    (∃ after, (if isBlank first then
        writeSplits environment (clearBuffer state) (middle ++ [last])
      else if 0 < (middle ++ [last]).length then do
        let finished ← writeLastBlockOfCurrentPart state first
        writeSplits environment (clearBuffer finished) (middle ++ [last])
      else writeSplits environment (clearBuffer state) (first :: (middle ++ [last]))) =
        .ok after) ↔ PiecesTaken environment state first middle last := by
  unfold PiecesTaken
  by_cases blank : isBlank first = true
  · have lone : first ≠ [dash] := by
      rintro rfl
      exact absurd blank (by decide)
    have shown : ¬ isBlank first = false := by
      rw [blank]
      decide
    rw [if_pos blank, write_splits_iff rfl, and_iff_right (fun _ => lone), or_iff_left shown]
    rfl
  · have visible : isBlank first = false := Bool.eq_false_iff.mpr blank
    obtain ⟨closes, taken⟩ := @write_last_block state first visible
    rw [if_neg blank, if_pos (by rw [List.length_append, List.length_singleton]; omega), ← taken,
      imp_iff_right (Or.inr visible)]
    cases ran : writeLastBlockOfCurrentPart state first with
    | error failure =>
        apply iff_of_false
        · rintro ⟨after, impossible⟩
          cases impossible
        · rintro ⟨⟨after, impossible⟩, _⟩
          cases impossible
    | ok finished =>
        have splits := @write_splits_iff environment (clearBuffer finished) rfl middle last
        obtain ⟨closed, number⟩ := closes finished ran
        have same : (clearBuffer finished).fileId = state.fileId := number
        rw [imp_iff_right (show (clearBuffer finished).targetFile = none from closed), same] at splits
        rw [and_iff_right ⟨finished, rfl⟩]
        exact splits

theorem pieces_around {boundary chunk : Bytes} {position : Nat} {pieces : List Bytes}
    (found : indexOf boundary chunk = some position) (divided : Pieces boundary chunk pieces) :
    ∃ first middle last, pieces = first :: (middle ++ [last]) := by
  cases divided with
  | last absent =>
      rw [(index_none_iff boundary chunk).mpr absent] at found
      cases found
  | @next _ position others _ _ _ rest =>
      rcases List.eq_nil_or_concat' others with empty | ⟨middle, last, whole⟩
      · exact absurd empty (pieces_nonempty rest)
      · exact ⟨chunk.take position, middle, last, by rw [whole]⟩

theorem on_data_pieces {boundary chunk : Bytes} {position : Nat} {first last : Bytes}
    {middle : List Bytes} {state : UploadState} (found : indexOf boundary chunk = some position)
    (split : splitLoop boundary (chunk.length + 1) chunk = .ok (first :: (middle ++ [last]))) :
    (∃ after, onData environment boundary state chunk = .ok after) ↔
      PiecesTaken environment state first middle last := by
  rw [← @write_pieces_iff environment]
  unfold onData splitChunk
  rw [found]
  dsimp only
  rw [split]
  rfl

/-- A chunk is taken exactly if the handler stays inside of its arrays and gets to the end. -/
theorem on_data_iff (boundary : Bytes) (state : UploadState) (chunk : Bytes) :
    (∃ after, onData environment boundary state chunk = .ok after) ↔
      ChunkTaken environment boundary state chunk := by
  cases found : indexOf boundary chunk with
  | none =>
      have absent := (index_none_iff boundary chunk).mp found
      apply iff_of_true
      · rw [on_data_plain absent]
        unfold writeDataToCurrentPart openTarget
        cases state.targetFile with
        | some target => exact ⟨_, rfl⟩
        | none =>
            simp only [Bool.false_eq_true, if_false]
            split_ifs
            · exact ⟨_, rfl⟩
            · exact ⟨_, rfl⟩
            · exact ⟨_, rfl⟩
      · refine ⟨[chunk], Pieces.last absent, ?_⟩
        intro first middle last whole
        have lengths := congrArg List.length whole
        simp at lengths
  | some position =>
      constructor
      · rintro ⟨after, ran⟩
        cases split : splitLoop boundary (chunk.length + 1) chunk with
        | error failure =>
            unfold onData splitChunk at ran
            rw [found] at ran
            dsimp only at ran
            rw [split] at ran
            cases ran
        | ok pieces =>
            have divided := pieces_split_loop split
            obtain ⟨first, middle, last, rfl⟩ := pieces_around found divided
            refine ⟨_, divided, ?_⟩
            intro first' middle' last' same
            obtain ⟨rfl, others⟩ := List.cons_eq_cons.mp same
            obtain ⟨rfl, lasts⟩ := List.append_inj' others rfl
            cases lasts
            exact (on_data_pieces found split).mp ⟨after, ran⟩
      · rintro ⟨pieces, divided, taken⟩
        obtain ⟨first, middle, last, rfl⟩ := pieces_around found divided
        exact (on_data_pieces found (split_loop_pieces divided (Nat.lt_succ_self _))).mpr
          (taken first middle last rfl)

end Writes

/-- The handler reads only bytes that it has, and comes to the end of each chunk, exactly if in
the state it is in it can take each chunk. The header scan is always inside of its buffer. -/
theorem upload_in_range_iff (environment : UploadEnvironment) (contentType : Bytes)
    (files : List Char → Option Bytes) (chunks : List Bytes) :
    (∀ data, scanLoop data (data.length + 1) 0 = .ok (scanHeader data : Nat)) ∧
      ((∃ final, upload environment (boundaryOf environment contentType) files chunks =
          .ok final) ↔
        ∀ before chunk after reached, chunks = before ++ chunk :: after →
          upload environment (boundaryOf environment contentType) files before = .ok reached →
            ChunkTaken environment (boundaryOf environment contentType) reached chunk) := by
  constructor
  · intro data
    have scanned := scan_loop [] data (Nat.lt_succ_self _)
    rw [List.nil_append, List.length_nil, Nat.zero_add] at scanned
    exact scanned
  · unfold upload
    rw [fold_succeeds_iff]
    simp only [on_data_iff]

def sampleContentType : Bytes :=
  asciiBytes (multipart ++ ['f', 'o', 'r', 'm', '-', 'd', 'a', 't', 'a', ';'] ++ boundaryKey ++ ['B'])

/-- A chunk that ends behind the boundary: the byte behind it is read though it has not come. -/
theorem boundary_ends_chunk :
    ¬ ∀ (environment : UploadEnvironment) (contentType : Bytes) (files : List Char → Option Bytes)
      (chunks : List Bytes), isMultiPart environment contentType = true →
        (∀ chunk ∈ chunks, chunk ≠ []) →
          ∃ final, upload environment (boundaryOf environment contentType) files chunks =
            .ok final := by
  intro inRange
  obtain ⟨final, ran⟩ := inRange sampleEnvironment sampleContentType (fun _ => none)
    [asciiBytes ['-', '-', 'B']] (by decide +kernel) (by decide)
  have failed : (upload sampleEnvironment (boundaryOf sampleEnvironment sampleContentType)
      (fun _ => none) [asciiBytes ['-', '-', 'B']]).toOption.isSome = false := by
    decide +kernel
  rw [ran] at failed
  cases failed

end Viridity.UploadIndexes
