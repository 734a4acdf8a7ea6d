import Mathlib.Data.List.TakeWhile
import Viridity.TextEncoding
import Viridity.TextScanning

/-!
# Messages to the server

`sendMessage` of `Viridity.js` puts the target before a message.
`ViridityMessageHandler` takes it off the bytes again, and reads command and parameters
from the bytes decoded as a string, while the index of the payload it returns is used
on the bytes.
-/

namespace Viridity.ServerMessages

open Viridity.TextEncoding
open Viridity.TextScanning

set_option autoImplicit false

def sendMessage (msg : Text) (targetId : Option Text) : Text :=
  match targetId with
  | none => msg
  | some targetId => if targetId = [] then msg else targetId ++ '>' :: msg

def zero : Char := Char.ofNat 0

section Decoding

variable (decoder : Decoder)

/-- A `QString` made of a `QByteArray`: the bytes before the first zero byte, decoded
without the byte order mark they may begin with. -/
def toQString (bytes : Bytes) : Units :=
  utf16.encode (decoder.decode (withoutMark (bytes.takeWhile fun byte => byte ≠ 0)))

/-- The target, null when there is none, and the message without it. -/
def takeTargetFromMessage (message : Bytes) : Option Units × Bytes :=
  let bm := left message (position (utf8.unit '(') message)
  let indexOfMarker := position (utf8.unit '>') bm
  if indexOfMarker > -1 then
    (some (toQString decoder (left bm indexOfMarker)), message.drop (indexOfMarker + 1).toNat)
  else (none, message)

structure Split where
  datagramStartIndex : Int
  command : Units
  params : List Units
deriving DecidableEq

/-- The command and parameters passed in are kept when the message has no closing bracket. -/
def splitMessage (message : Bytes) (command : Units) (params : List Units) : Split :=
  let rawMsg := toQString decoder message
  let paramStartIndex := position (utf16.unit '(') rawMsg
  let paramStopIndex := positionFrom (utf16.unit ')') rawMsg paramStartIndex
  if paramStopIndex > -1 then
    let rawParams := mid rawMsg (paramStartIndex + 1) (paramStopIndex - paramStartIndex - 1)
    { datagramStartIndex :=
        if paramStopIndex + 2 < rawMsg.length ∧
            rawMsg[(paramStopIndex + 1).toNat]? = some (utf16.unit ':') then paramStopIndex + 2
        else -1
      command := mid rawMsg 0 paramStartIndex
      params := rawParams.splitOn (utf16.unit ',') }
  else { datagramStartIndex := -1, command := command, params := params }

def kept (text : Text) : Text := unmarked (text.takeWhile fun letter => letter ≠ zero)

variable {decoder}

theorem to_string_encoded (text : Text) :
    toQString decoder (utf8.encode text) = utf16.encode (kept text) := by
  have ended : (utf8.encode text).takeWhile (fun byte => byte ≠ 0)
      = utf8.encode (text.takeWhile fun letter => letter ≠ zero) :=
    @Coding.encode_takeWhile _ utf8 _ zero (by decide) text
  unfold toQString kept
  rw [ended, without_mark_encoded, decoder.decode_encode]

theorem kept_sublist_ended (text : Text) :
    (kept text).Sublist (text.takeWhile fun letter => letter ≠ zero) := unmarked_sublist _

theorem kept_sublist (text : Text) : (kept text).Sublist text :=
  (kept_sublist_ended text).trans (List.takeWhile_sublist _)

theorem kept_head {text : Text} (ended : zero ∉ text) (mark : text.head? ≠ some byteOrderMark)
    (rest : Text) (nonempty : text ≠ []) :
    kept (text ++ rest) = text ++ rest.takeWhile fun letter => letter ≠ zero := by
  have letters : ∀ letter ∈ text, decide (letter ≠ zero) = true := by
    intro letter member
    rw [decide_eq_true_iff]
    intro same
    exact ended (same ▸ member)
  unfold kept
  rw [List.takeWhile_append_of_pos letters, unmarked_iff, List.head?_append_of_ne_nil _ nonempty]
  exact mark

/-- A text survives exactly when it has no zero character and no byte order mark in front. -/
theorem kept_iff (text : Text) :
    kept text = text ↔ zero ∉ text ∧ text.head? ≠ some byteOrderMark := by
  constructor
  · intro whole
    have lengths := (kept_sublist_ended text).length_le
    rw [whole] at lengths
    have all : (text.takeWhile fun letter => letter ≠ zero) = text :=
      (List.takeWhile_sublist _).eq_of_length_le lengths
    constructor
    · intro member
      rw [← all] at member
      have other := List.mem_takeWhile_imp member
      simp at other
    · unfold kept at whole
      rw [all] at whole
      exact (unmarked_iff text).mp whole
  · intro plain
    cases text with
    | nil => rfl
    | cons letter text =>
        have head := kept_head plain.1 plain.2 [] (by simp)
        simpa using head

/-- A call without its data, as scripts and the server write it. -/
def call (command : Text) (params : List Text) : Text :=
  command ++ '(' :: ([','].intercalate params ++ [')'])

structure PlainCall (command : Text) (params : List Text) : Prop where
  command_plain : '(' ∉ command ∧ ')' ∉ command
  params_nonempty : params ≠ []
  params_plain : ∀ param ∈ params, ',' ∉ param ∧ ')' ∉ param

theorem joined_plain {command : Text} {params : List Text} (plain : PlainCall command params) :
    ')' ∉ [','].intercalate params := by
  intro member
  cases mem_intercalate member with
  | inl same => exact absurd same (by decide)
  | inr found =>
      obtain ⟨param, among, inside⟩ := found
      exact (plain.params_plain param among).2 inside

theorem params_split {command : Text} {params : List Text} (plain : PlainCall command params) :
    (utf16.encode ([','].intercalate params)).splitOn (utf16.unit ',') =
      params.map utf16.encode := by
  rw [utf16.encode_intercalate (by decide)]
  apply List.splitOn_intercalate
  · intro piece member
    rw [List.mem_map] at member
    obtain ⟨param, among, rfl⟩ := member
    rw [utf16.unit_mem_encode (by decide)]
    exact (plain.params_plain param among).1
  · simp [plain.params_nonempty]

theorem split_unclosed {message : Bytes} {text : Text}
    (raw : toQString decoder message = utf16.encode text) (unclosed : ')' ∉ text)
    (command : Units) (params : List Units) :
    splitMessage decoder message command params =
      { datagramStartIndex := -1, command := command, params := params } := by
  have absent : utf16.unit ')' ∉ utf16.encode text := by
    rw [utf16.unit_mem_encode (by decide)]
    exact unclosed
  unfold splitMessage
  simp only [raw, position_from_absent absent]
  rfl

/-- The condition under which an index is returned: a colon and something behind it. -/
theorem colon_follows (closed : Units) (rest : Text) :
    (closed.length + 1 < (closed ++ utf16.encode rest).length ∧
      (closed ++ utf16.encode rest)[closed.length]? = some (utf16.unit ':')) ↔
      rest.head? = some ':' ∧ rest.tail ≠ [] := by
  rw [List.length_append, List.getElem?_append_right (Nat.le_refl _), Nat.sub_self]
  cases rest with
  | nil => simp
  | cons first rest =>
      by_cases colon : first = ':'
      · rw [colon, utf16.encode_ascii_cons (by decide)]
        have behind : 0 < (utf16.encode rest).length ↔ rest ≠ [] := by
          rw [List.length_pos_iff, ne_eq, utf16.encode_nil_iff]
        simp only [List.length_cons, List.getElem?_cons_zero, List.head?_cons, List.tail_cons,
          true_and, and_true]
        rw [← behind]
        omega
      · have other : (utf16.encode (first :: rest))[0]? ≠ some (utf16.unit ':') := by
          intro same
          cases written : utf16.units first with
          | nil => exact utf16.units_nonempty first written
          | cons unit units =>
              rw [Coding.encode_cons, written] at same
              simp only [List.cons_append, List.getElem?_cons_zero, Option.some.injEq] at same
              have member : utf16.unit ':' ∈ utf16.units first := by simp [written, same]
              rw [utf16.unit_mem_units (by decide)] at member
              exact colon member.symm
        have head : (first :: rest).head? ≠ some ':' := by simp [colon]
        simp only [other, head, and_false, false_and]

/-- What is read when the string begins with a call: the index counts code units. -/
theorem split_closed {message : Bytes} {command : Text} {params : List Text} {rest : Text}
    (plain : PlainCall command params)
    (raw : toQString decoder message = utf16.encode (call command params ++ rest))
    (givenCommand : Units) (givenParams : List Units) :
    splitMessage decoder message givenCommand givenParams =
      { datagramStartIndex :=
          if rest.head? = some ':' ∧ rest.tail ≠ [] then
            ((utf16.encode (call command params)).length + 1 : Nat)
          else -1
        command := utf16.encode command
        params := params.map utf16.encode } := by
  let front := utf16.encode command ++ [utf16.unit '(']
  let joined := utf16.encode ([','].intercalate params)
  have written : utf16.encode (call command params ++ rest) =
      front ++ (joined ++ utf16.unit ')' :: utf16.encode rest) := by
    simp [call, front, joined, utf16.units_ascii '(' (by decide), utf16.units_ascii ')' (by decide)]
  have size : (utf16.encode (call command params)).length = front.length + joined.length + 1 := by
    simp [call, front, joined, utf16.units_ascii '(' (by decide), utf16.units_ascii ')' (by decide)]
    omega
  have start : position (utf16.unit '(') (utf16.encode (call command params ++ rest))
      = (utf16.encode command).length := by
    rw [written]
    have absent : utf16.unit '(' ∉ utf16.encode command := by
      rw [utf16.unit_mem_encode (by decide)]
      exact plain.command_plain.1
    have found := position_append absent (joined ++ utf16.unit ')' :: utf16.encode rest)
    simpa [front] using found
  have stop : positionFrom (utf16.unit ')') (utf16.encode (call command params ++ rest))
      (utf16.encode command).length = (front.length + joined.length : Nat) := by
    have absent : utf16.unit ')' ∉ utf16.unit '(' :: joined := by
      rw [List.mem_cons]
      intro member
      cases member with
      | inl same => exact absurd same (by decide)
      | inr inside =>
          rw [utf16.unit_mem_encode (by decide)] at inside
          exact joined_plain plain inside
    have found := @position_from_append _ _ _ (utf16.encode command) _ absent (utf16.encode rest)
    rw [written]
    simp only [front, List.append_assoc, List.cons_append, List.nil_append] at found ⊢
    rw [found]
    simp
    omega
  have commandRead : mid (utf16.encode (call command params ++ rest)) 0 (utf16.encode command).length
      = utf16.encode command := by
    have read := mid_middle [] (utf16.encode command)
      (utf16.unit '(' :: (joined ++ utf16.unit ')' :: utf16.encode rest))
    rw [written]
    simpa [front] using read
  have paramsRead : mid (utf16.encode (call command params ++ rest))
      ((utf16.encode command).length + 1)
      ((front.length + joined.length : Nat) - (utf16.encode command).length - 1) = joined := by
    have read := mid_middle front joined (utf16.unit ')' :: utf16.encode rest)
    have begin_ : (front.length : Int) = (utf16.encode command).length + 1 := by simp [front]
    have count : ((front.length + joined.length : Nat) : Int) - (utf16.encode command).length - 1
        = joined.length := by
      simp [front]
      omega
    rw [written, count, ← begin_]
    exact read
  have index : ((front.length + joined.length : Nat) : Int) + 2
        < (utf16.encode (call command params ++ rest)).length ∧
      (utf16.encode (call command params ++ rest))[
        (((front.length + joined.length : Nat) : Int) + 1).toNat]? = some (utf16.unit ':') ↔
      rest.head? = some ':' ∧ rest.tail ≠ [] := by
    have follows := colon_follows (utf16.encode (call command params)) rest
    rw [← Coding.encode_append, size] at follows
    rw [← follows]
    have at_ : (((front.length + joined.length : Nat) : Int) + 1).toNat
        = front.length + joined.length + 1 := by omega
    rw [at_]
    apply and_congr_left'
    omega
  have answer : ((front.length + joined.length : Nat) : Int) + 2
      = ((utf16.encode (call command params)).length + 1 : Nat) := by
    rw [size]
    omega
  have closed : ((front.length + joined.length : Nat) : Int) > -1 := by omega
  unfold splitMessage
  simp only [raw, start, stop, closed, if_true, commandRead, paramsRead, index]
  rw [params_split plain, answer]

theorem target_taken {target command : Text} (targetPlain : '(' ∉ target ∧ '>' ∉ target)
    (commandPlain : '(' ∉ command) (params : List Text) (rest : Text) :
    takeTargetFromMessage decoder (utf8.encode (target ++ '>' :: (call command params ++ rest))) =
      (some (utf16.encode (kept target)), utf8.encode (call command params ++ rest)) := by
  let front := utf8.encode (target ++ '>' :: command)
  have unmarked : utf8.unit '>' ∉ utf8.encode target := by
    rw [utf8.unit_mem_encode (by decide)]
    exact targetPlain.2
  have unopened : utf8.unit '(' ∉ front := by
    rw [utf8.unit_mem_encode (by decide)]
    simp [targetPlain.1, commandPlain]
  have opened : utf8.encode (target ++ '>' :: (call command params ++ rest)) =
      front ++ utf8.unit '(' :: utf8.encode ([','].intercalate params ++ ')' :: rest) := by
    simp [front, call, utf8.units_ascii '(' (by decide)]
  have bm : left (utf8.encode (target ++ '>' :: (call command params ++ rest))) front.length
      = front := by
    unfold left
    rw [opened, Int.toNat_natCast, List.take_left]
  have marker : position (utf8.unit '>') front = (utf8.encode target).length := by
    have found := position_append unmarked (utf8.encode command)
    simpa [front, utf8.units_ascii '>' (by decide)] using found
  have targetRead : left front ((utf8.encode target).length : Int) = utf8.encode target := by
    unfold left front
    rw [Coding.encode_append, Int.toNat_natCast, List.take_left]
  have remaining : (utf8.encode (target ++ '>' :: (call command params ++ rest))).drop
      (((utf8.encode target).length : Int) + 1).toNat = utf8.encode (call command params ++ rest) := by
    have size : (((utf8.encode target).length : Int) + 1).toNat
        = (utf8.encode (target ++ ['>'])).length := by
      simp [utf8.units_ascii '>' (by decide)]
    have written : target ++ '>' :: (call command params ++ rest)
        = (target ++ ['>']) ++ (call command params ++ rest) := by simp
    rw [size, written, utf8.encode_append (target ++ ['>']), List.drop_left]
  have found : ((utf8.encode target).length : Int) > -1 := by omega
  have start : position (utf8.unit '(')
      (utf8.encode (target ++ '>' :: (call command params ++ rest))) = front.length := by
    rw [opened]
    exact position_append unopened _
  unfold takeTargetFromMessage
  simp only [start, bm, marker, found, if_true, targetRead, remaining, to_string_encoded]

theorem left_encoded {delimiter : Char} (ascii : IsAscii delimiter) (text : Text) :
    left (utf8.encode text) (position (utf8.unit delimiter) (utf8.encode text)) =
      utf8.encode (before delimiter text) := by
  have cut := utf8.encode_takeWhile ascii text
  rw [left_position]
  unfold before
  simp only [utf8.unit_mem_encode ascii, cut]
  split_ifs <;> rfl

theorem untargeted_taken {command : Text} (commandPlain : '(' ∉ command ∧ '>' ∉ command)
    (params : List Text) (rest : Text) :
    takeTargetFromMessage decoder (utf8.encode (call command params ++ rest)) =
      (none, utf8.encode (call command params ++ rest)) := by
  have front : before '(' (call command params ++ rest) = command := by
    unfold call
    rw [List.append_assoc, List.cons_append]
    exact before_append commandPlain.1 _
  have unmarked : utf8.unit '>' ∉ utf8.encode command := by
    rw [utf8.unit_mem_encode (by decide)]
    exact commandPlain.2
  unfold takeTargetFromMessage
  simp only [left_encoded (show IsAscii '(' by decide), front, position_absent unmarked]
  rfl

theorem taken_plain {text : Text} {name : Units}
    (taken : (takeTargetFromMessage decoder (utf8.encode text)).1 = some name) :
    ∃ part : Text, name = utf16.encode (kept part) ∧ '(' ∉ part ∧ '>' ∉ part := by
  unfold takeTargetFromMessage at taken
  simp only [left_encoded (show IsAscii '(' by decide),
    left_encoded (show IsAscii '>' by decide), to_string_encoded] at taken
  refine ⟨before '>' (before '(' text), ?_, ?_, before_absent _ _⟩
  · split_ifs at taken
    exact (Option.some.inj taken).symm
  · intro member
    exact before_absent _ _ ((before_sublist _ _).mem member)

theorem kept_cut {front : Text} (cut : zero ∈ front) {rest : Text} {letter : Char}
    (member : letter ∈ kept (front ++ rest)) : letter ∈ front := by
  have within := (kept_sublist_ended (front ++ rest)).mem member
  rw [List.takeWhile_append] at within
  have short : ¬ (front.takeWhile fun letter => letter ≠ zero).length = front.length := by
    intro same
    have all : (front.takeWhile fun letter => letter ≠ zero) = front :=
      (List.takeWhile_sublist _).eq_of_length same
    rw [← all] at cut
    have other := List.mem_takeWhile_imp cut
    simp at other
  rw [if_neg short] at within
  exact (List.takeWhile_sublist _).mem within

end Decoding

/-- The target, the call and its data as the server is meant to receive them. -/
def ReadBack (decoder : Decoder) (target command : Text) (params : List Text) (payload : Text) :
    Prop :=
  let m := utf8.encode (sendMessage (call command params ++ ':' :: payload) (some target))
  let taken := takeTargetFromMessage decoder m
  let read := splitMessage decoder taken.2 [] []
  taken.1 = some (utf16.encode target) ∧
    taken.2 = utf8.encode (call command params ++ ':' :: payload) ∧
    read.command = utf16.encode command ∧ read.params = params.map utf16.encode ∧
    mid taken.2 read.datagramStartIndex (-1) = utf8.encode payload

def BareReadBack (decoder : Decoder) (target command : Text) (params : List Text) : Prop :=
  let m := utf8.encode (sendMessage (call command params) (some target))
  let taken := takeTargetFromMessage decoder m
  taken.1 = some (utf16.encode target) ∧ taken.2 = utf8.encode (call command params) ∧
    splitMessage decoder taken.2 [] [] =
      { datagramStartIndex := -1
        command := utf16.encode command
        params := params.map utf16.encode }

/-- What clients send: no delimiter inside a part. -/
structure Sendable (target command : Text) (params : List Text) (payload : Text) : Prop where
  target_nonempty : target ≠ []
  target_plain : '(' ∉ target ∧ '>' ∉ target
  command_plain : '(' ∉ command ∧ ')' ∉ command ∧ '>' ∉ command ∧ ',' ∉ command
  params_nonempty : params ≠ []
  params_plain : ∀ param ∈ params, '(' ∉ param ∧ ')' ∉ param ∧ '>' ∉ param ∧ ',' ∉ param
  payload_nonempty : payload ≠ []

def Plain (letter : Char) : Prop := IsAscii letter ∧ letter ≠ zero

theorem letters_plain {text : Text}
    (all : text.all (fun letter => decide (IsAscii letter ∧ letter ≠ zero)) = true) :
    ∀ letter ∈ text, Plain letter := by
  intro letter member
  have plain := List.all_eq_true.mp all letter member
  exact (decide_eq_true_eq.mp plain : IsAscii letter ∧ letter ≠ zero)

/-- Only ASCII counts alike in bytes and in code units; a zero character ends a string, and
a byte order mark in front of it is dropped. -/
structure Readable (target command : Text) (params : List Text) (payload : Text) : Prop where
  target_kept : zero ∉ target ∧ target.head? ≠ some byteOrderMark
  command_ascii : ∀ letter ∈ command, Plain letter
  params_ascii : ∀ param ∈ params, ∀ letter ∈ param, Plain letter
  payload_begins : payload.head? ≠ some zero

theorem Sendable.plain {target command : Text} {params : List Text} {payload : Text}
    (sendable : Sendable target command params payload) : PlainCall command params where
  command_plain := ⟨sendable.command_plain.1, sendable.command_plain.2.1⟩
  params_nonempty := sendable.params_nonempty
  params_plain param among :=
    ⟨(sendable.params_plain param among).2.2.2, (sendable.params_plain param among).2.1⟩

theorem call_letters {command : Text} {params : List Text} :
    (∀ letter ∈ call command params, Plain letter) ↔
      (∀ letter ∈ command, Plain letter) ∧ ∀ param ∈ params, ∀ letter ∈ param, Plain letter := by
  constructor
  · intro all
    constructor
    · intro letter member
      exact all letter (by simp [call, member])
    · intro param among letter member
      have joined : letter ∈ [','].intercalate params := piece_mem_intercalate among member
      exact all letter (by simp [call, joined])
  · intro parts letter member
    simp only [call, List.mem_append, List.mem_cons, List.not_mem_nil, or_false] at member
    cases member with
    | inl inside => exact parts.1 letter inside
    | inr later =>
        cases later with
        | inl same => exact same ▸ (by unfold Plain; decide)
        | inr later =>
            cases later with
            | inr same => exact same ▸ (by unfold Plain; decide)
            | inl joined =>
                cases mem_intercalate joined with
                | inl same => exact same ▸ (by unfold Plain; decide)
                | inr found =>
                    obtain ⟨param, among, inside⟩ := found
                    exact parts.2 param among letter inside

theorem call_nonempty (command : Text) (params : List Text) : call command params ≠ [] := by
  simp [call]

theorem send_targeted {target : Text} (nonempty : target ≠ []) (msg : Text) :
    sendMessage msg (some target) = target ++ '>' :: msg := by
  unfold sendMessage
  simp only
  rw [if_neg nonempty]

section Reading

variable {decoder : Decoder} {target command payload : Text} {params : List Text}

theorem target_read (sendable : Sendable target command params payload) (rest : Text) :
    takeTargetFromMessage decoder
        (utf8.encode (sendMessage (call command params ++ rest) (some target))) =
      (some (utf16.encode (kept target)), utf8.encode (call command params ++ rest)) := by
  rw [send_targeted sendable.target_nonempty]
  exact target_taken sendable.target_plain sendable.command_plain.1 params rest

theorem plain_call_kept (letters : ∀ letter ∈ call command params, Plain letter) (rest : Text) :
    kept (call command params ++ rest) =
      call command params ++ rest.takeWhile fun letter => letter ≠ zero := by
  apply kept_head _ _ rest (call_nonempty command params)
  · intro member
    exact (letters zero member).2 rfl
  · intro mark
    have ascii := (letters byteOrderMark (List.mem_of_mem_head? mark)).1
    exact absurd ascii (by decide)

theorem plain_call_split (plain : PlainCall command params)
    (letters : ∀ letter ∈ call command params, Plain letter) (nonempty : payload ≠ [])
    (begins : payload.head? ≠ some zero) :
    splitMessage decoder (utf8.encode (call command params ++ ':' :: payload)) [] [] =
        { datagramStartIndex := ((utf8.encode (call command params)).length + 1 : Nat)
          command := utf16.encode command
          params := params.map utf16.encode } ∧
      mid (utf8.encode (call command params ++ ':' :: payload))
        ((utf8.encode (call command params)).length + 1 : Nat) (-1) = utf8.encode payload := by
  let seen := payload.takeWhile fun letter => letter ≠ zero
  have cut : (':' :: payload).takeWhile (fun letter => letter ≠ zero) = ':' :: seen :=
    List.takeWhile_cons_of_pos (by decide)
  have begun : seen ≠ [] := by
    cases payload with
    | nil => exact absurd rfl nonempty
    | cons first rest =>
        have other : first ≠ zero := fun same => begins (by rw [same]; rfl)
        simp [seen, other]
  have split := @split_closed decoder (utf8.encode (call command params ++ ':' :: payload)) _ _ _
    plain (by rw [to_string_encoded, plain_call_kept letters, cut]) [] []
  have ascii : (utf16.encode (call command params)).length
      = (utf8.encode (call command params)).length := by
    rw [lengths_agree_iff]
    intro letter member
    exact (letters letter member).1
  rw [if_pos ⟨rfl, begun⟩, ascii] at split
  have rest := mid_rest (utf8.encode (call command params) ++ [utf8.unit ':'])
    (utf8.encode payload)
  constructor
  · exact split
  · rw [Coding.encode_append, utf8.encode_ascii_cons (by decide)]
    simpa using rest

theorem Readable.letters (readable : Readable target command params payload) :
    ∀ letter ∈ call command params, Plain letter :=
  call_letters.mpr ⟨readable.command_ascii, readable.params_ascii⟩

theorem read_back (sendable : Sendable target command params payload)
    (readable : Readable target command params payload) :
    ReadBack decoder target command params payload := by
  have targetKept := (kept_iff target).mpr readable.target_kept
  have split := @plain_call_split decoder _ _ _ sendable.plain readable.letters
    sendable.payload_nonempty readable.payload_begins
  unfold ReadBack
  simp only [target_read sendable, targetKept, split.1, split.2]
  trivial

theorem bare_read_back (sendable : Sendable target command params payload)
    (readable : Readable target command params payload) :
    BareReadBack decoder target command params := by
  have targetKept := (kept_iff target).mpr readable.target_kept
  have taken := @target_read decoder _ _ _ _ sendable []
  rw [List.append_nil] at taken
  have split := @split_closed decoder (utf8.encode (call command params)) _ _ []
    sendable.plain (by
      have whole := plain_call_kept readable.letters []
      rw [List.append_nil] at whole
      rw [to_string_encoded, whole]
      rfl) [] []
  unfold BareReadBack
  simp only [taken, targetKept, split]
  trivial

theorem target_kept_of_read (sendable : Sendable target command params payload)
    (read : ReadBack decoder target command params payload) :
    zero ∉ target ∧ target.head? ≠ some byteOrderMark := by
  have same := read.1
  rw [target_read sendable, Option.some.injEq, utf16_injective.eq_iff] at same
  exact (kept_iff target).mp same

theorem call_ended_of_read (sendable : Sendable target command params payload)
    (read : ReadBack decoder target command params payload) : zero ∉ call command params := by
  intro cut
  have body : call command params = (command ++ '(' :: [','].intercalate params) ++ [')'] := by
    simp [call]
  have inBody : zero ∈ command ++ '(' :: [','].intercalate params := by
    rw [body, List.mem_append, List.mem_singleton] at cut
    cases cut with
    | inl inside => exact inside
    | inr same => exact absurd same (by decide)
  have unclosed : ')' ∉ kept (call command params ++ ':' :: payload) := by
    intro member
    rw [body, List.append_assoc] at member
    have inside := kept_cut inBody member
    rw [List.mem_append, List.mem_cons] at inside
    cases inside with
    | inl early => exact sendable.plain.command_plain.2 early
    | inr later =>
        cases later with
        | inl same => exact absurd same (by decide)
        | inr joined => exact joined_plain sendable.plain joined
  have split := @split_unclosed decoder (utf8.encode (call command params ++ ':' :: payload)) _
    (to_string_encoded _) unclosed [] []
  have paramsRead := read.2.2.2.1
  rw [target_read sendable, split] at paramsRead
  have none_ := List.map_eq_nil_iff.mp paramsRead.symm
  exact sendable.params_nonempty none_

theorem call_unmarked_of_read (sendable : Sendable target command params payload)
    (read : ReadBack decoder target command params payload) :
    (call command params).head? ≠ some byteOrderMark := by
  intro mark
  have ended := call_ended_of_read sendable read
  cases command with
  | nil => exact absurd mark (by simp [call]; decide)
  | cons first command =>
      have same : first = byteOrderMark := by simpa [call] using mark
      have shorter : PlainCall command params := by
        have plain := sendable.plain
        have opening : '(' ∉ command := fun member =>
          plain.command_plain.1 (List.mem_cons_of_mem _ member)
        have closing : ')' ∉ command := fun member =>
          plain.command_plain.2 (List.mem_cons_of_mem _ member)
        exact ⟨⟨opening, closing⟩, plain.params_nonempty, plain.params_plain⟩
      have dropped : kept (call (first :: command) params ++ ':' :: payload) =
          call command params ++ (':' :: payload).takeWhile fun letter => letter ≠ zero := by
        have letters : ∀ letter ∈ call (first :: command) params, decide (letter ≠ zero) = true := by
          intro letter member
          rw [decide_eq_true_iff]
          intro same
          exact ended (same ▸ member)
        unfold kept unmarked
        rw [List.takeWhile_append_of_pos letters]
        have front : call (first :: command) params = first :: call command params := rfl
        rw [front, same, List.cons_append, if_pos List.head?_cons, List.tail_cons]
      have split := @split_closed decoder
        (utf8.encode (call (first :: command) params ++ ':' :: payload)) _ _ _ shorter
        (by rw [to_string_encoded, dropped]) [] []
      have commandRead := read.2.2.1
      rw [target_read sendable, split, utf16_injective.eq_iff] at commandRead
      exact absurd commandRead (List.cons_ne_self _ _).symm

theorem readable_of_read (sendable : Sendable target command params payload)
    (read : ReadBack decoder target command params payload) :
    Readable target command params payload := by
  have ended := call_ended_of_read sendable read
  have unmarked := call_unmarked_of_read sendable read
  let seen := payload.takeWhile fun letter => letter ≠ zero
  have cut : (':' :: payload).takeWhile (fun letter => letter ≠ zero) = ':' :: seen :=
    List.takeWhile_cons_of_pos (by decide)
  have raw : kept (call command params ++ ':' :: payload) = call command params ++ ':' :: seen := by
    rw [kept_head ended unmarked _ (call_nonempty command params), cut]
  have split := @split_closed decoder (utf8.encode (call command params ++ ':' :: payload)) _ _ _
    sendable.plain (by rw [to_string_encoded, raw]) [] []
  have payloadRead := read.2.2.2.2
  rw [target_read sendable, split] at payloadRead
  have whole : (utf8.encode (call command params ++ ':' :: payload)).length
      = (utf8.encode (call command params)).length + 1 + (utf8.encode payload).length := by
    rw [Coding.encode_append, utf8.encode_ascii_cons (by decide), List.length_append,
      List.length_cons]
    omega
  have begun : seen ≠ [] := by
    intro hidden
    rw [if_neg (by simp [hidden])] at payloadRead
    have lengths := congrArg List.length payloadRead
    change (utf8.encode (call command params ++ ':' :: payload)).length = _ at lengths
    omega
  rw [if_pos ⟨rfl, begun⟩] at payloadRead
  have lengths : (utf16.encode (call command params)).length
      = (utf8.encode (call command params)).length := by
    have shorter := utf16_length_le (call command params)
    have dropped : mid (utf8.encode (call command params ++ ':' :: payload))
        ((utf16.encode (call command params)).length + 1 : Nat) (-1) =
        (utf8.encode (call command params ++ ':' :: payload)).drop
          ((utf16.encode (call command params)).length + 1) := by
      unfold mid
      rw [if_neg (by omega), if_pos (by omega), Int.toNat_natCast]
    have counted := congrArg List.length (dropped.symm.trans payloadRead)
    rw [List.length_drop] at counted
    omega
  have letters := call_letters.mp (fun letter member =>
    ⟨(lengths_agree_iff _).mp lengths letter member, fun same => ended (same ▸ member)⟩)
  have first : payload.head? ≠ some zero := by
    intro zeroFirst
    cases payload with
    | nil => simp at zeroFirst
    | cons letter rest =>
        simp only [List.head?_cons, Option.some.injEq] at zeroFirst
        exact begun (by simp [seen, zeroFirst])
  exact ⟨target_kept_of_read sendable read, letters.1, letters.2, first⟩

end Reading

/-- Exactly the messages whose index counts alike in bytes and code units come back. -/
theorem messages_read_back_iff (decoder : Decoder) (target command : Text) (params : List Text)
    (payload : Text) (sendable : Sendable target command params payload) :
    ReadBack decoder target command params payload ∧ BareReadBack decoder target command params ↔
      Readable target command params payload := by
  constructor
  · intro both
    exact readable_of_read sendable both.1
  · intro readable
    exact ⟨read_back sendable readable, bare_read_back sendable readable⟩

/-- A parameter outside ASCII shifts the index into the middle of the call. -/
theorem umlaut_param_misread :
    ¬ ∀ (decoder : Decoder) (target command : Text) (params : List Text) (payload : Text),
      Sendable target command params payload →
        ReadBack decoder target command params payload ∧
          BareReadBack decoder target command params := by
  intro all
  have sendable : Sendable ['t'] ['c'] [[Char.ofNat 0xE4]] ['x'] :=
    ⟨by decide, by decide, by decide, by decide, by decide, by decide⟩
  have read := (all strictDecoder ['t'] ['c'] [[Char.ofNat 0xE4]] ['x'] sendable).1
  have ascii := (readable_of_read sendable read).params_ascii
  exact absurd (ascii _ List.mem_cons_self _ List.mem_cons_self).1 (by decide)

theorem plain_message_read_back :
    ReadBack strictDecoder ['t'] ['c'] [['1'], ['2']] ['x'] ∧
        BareReadBack strictDecoder ['t'] ['c'] [['1'], ['2']] ↔
      Readable ['t'] ['c'] [['1'], ['2']] ['x'] :=
  messages_read_back_iff strictDecoder ['t'] ['c'] [['1'], ['2']] ['x']
    ⟨by decide, by decide, by decide, by decide, by decide, by decide⟩

end Viridity.ServerMessages
