import Mathlib.Data.Bool.AllAny
import Viridity.Base64
import Viridity.NumberText
import Viridity.SceneDisplay
import Viridity.ServerMessages

/-!
# The bytes of display messages

A message is the identifier of its display, a call in Latin-1 and, behind a colon, a payload
that need not be text. The call is found again by cutting at the first `>` and reading what
is left as UTF-8. Numbers are as little bounded here as the coordinates are.
-/

namespace Viridity.DisplayMessageText

open Viridity.ImageAux
open Viridity.NumberText
open Viridity.SceneDisplay
open Viridity.TextEncoding
open Viridity.TextScanning
open Viridity.ServerMessages

set_option autoImplicit false

/-- `red()`, `green()`, `blue()` and `alpha()`; an invalid colour is opaque black. -/
def colourComponents (colour : QColor) : List Int :=
  let rgba := (colour.getD 0xFF000000).toNat
  [(rgba / 65536 % 256 : Nat), (rgba / 256 % 256 : Nat), (rgba % 256 : Nat), (rgba / 16777216 : Nat)]

/-- `QColor(r, g, b, a)`; invalid when a component is out of range. -/
def colourOf (red green blue alpha : Int) : QColor :=
  if [red, green, blue, alpha].all fun value => 0 ≤ value && value < 256 then
    some (BitVec.ofNat 32 (alpha.toNat * 16777216 + red.toNat * 65536 + green.toNat * 256 + blue.toNat))
  else none

theorem colour_read (colour : QColor) :
    colourOf ((colourComponents colour).getD 0 0) ((colourComponents colour).getD 1 0)
        ((colourComponents colour).getD 2 0) ((colourComponents colour).getD 3 0) =
      some (colour.getD 0xFF000000) := by
  generalize value : colour.getD 0xFF000000 = rgba
  have bound := rgba.isLt
  unfold colourComponents
  rw [value]
  simp only [List.getD_cons_zero, List.getD_cons_succ]
  unfold colourOf
  rw [if_pos]
  · congr 1
    apply BitVec.eq_of_toNat_eq
    simp only [Int.toNat_natCast, BitVec.toNat_ofNat]
    omega
  · simp only [List.all_cons, List.all_nil, Bool.and_eq_true, decide_eq_true_eq, and_true]
    omega

/-- What the format strings of `takePendingMessages` write of a message: command and parameters. -/
def frameCall : DisplayMessage → Text × List Text
  | .fullUpdate frame => ("fullUpdate".toList, [numberText frame])
  | .dI frame rect artefactMargin mimeType _ =>
      ("dI".toList, [numberText frame, numberText rect.x1, numberText rect.y1,
        numberText rect.width, numberText rect.height, numberText artefactMargin, mimeType.toList])
  | .mI frame rect dstPoint =>
      ("mI".toList, [numberText frame, numberText rect.x1, numberText rect.y1,
        numberText rect.width, numberText rect.height, numberText dstPoint.x, numberText dstPoint.y])
  | .fR frame rect fillColor =>
      ("fR".toList, [numberText frame, numberText rect.x1, numberText rect.y1,
        numberText rect.width, numberText rect.height] ++ (colourComponents fillColor).map numberText)
  | .frameEnd frame => ("end".toList, [numberText frame])

def headerText (message : DisplayMessage) : Text :=
  call (frameCall message).1 (frameCall message).2 ++ [':']

def payloadBytes : DisplayMessage → Bytes
  | .dI _ _ _ _ (.inline data base64) => if base64 then Base64.encode data else data
  | .dI _ _ _ _ (.fetch patchId) => utf8.encode ("fb:".toList ++ patchId.toList)
  | _ => []

/-- The identifier as `sprintf` reads it from `id_.toLatin1().constData()`. -/
def nameText (decoder : Decoder) (displayId : String) : Text :=
  decoder.decode ((toLatin1 (utf16.encode displayId.toList)).takeWhile fun byte => byte ≠ 0)

/-- An entry of `messageList`; the end of a frame is written in UTF-8, the others in Latin-1. -/
def messageBytes (decoder : Decoder) (displayId : String) (message : DisplayMessage) : Bytes :=
  let header := nameText decoder displayId ++ '>' :: headerText message
  (match message with
    | .frameEnd _ => utf8.encode header
    | _ => toLatin1 (utf16.encode header)) ++ payloadBytes message

/-- `message.mid(message.indexOf('>') + 1)`. -/
def afterTarget (message : Bytes) : Bytes :=
  mid message (position (utf8.unit '>') message + 1) (-1)

/-- Bytes of ASCII characters stand for these, whatever comes behind them, and no other bytes do. -/
structure ReadsAscii (decoder : Decoder) : Prop where
  front : ∀ (text : Text) (bytes : Bytes), (∀ letter ∈ text, IsAscii letter) →
    decoder.decode (utf8.encode text ++ bytes) = text ++ decoder.decode bytes
  letters : ∀ (bytes : Bytes) (letter : Char), IsAscii letter → letter ∈ decoder.decode bytes →
    utf8.unit letter ∈ bytes

def ParamLetter (letter : Char) : Prop :=
  Plain letter ∧ letter ≠ ',' ∧ letter ≠ ')' ∧ letter ≠ ':'

instance (letter : Char) : Decidable (ParamLetter letter) :=
  inferInstanceAs (Decidable ((_ ∧ _) ∧ _))

def PlainType (mimeType : String) : Prop := ∀ letter ∈ mimeType.toList, ParamLetter letter

def PlainMessage : DisplayMessage → Prop
  | .dI _ _ _ mimeType _ => PlainType mimeType
  | _ => True

section Calls

theorem number_text_plain {number : Int} {letter : Char} (member : letter ∈ numberText number) :
    ParamLetter letter := by
  have other : ∀ mark : Char, mark ≠ '-' → ¬ (48 ≤ mark.toNat ∧ mark.toNat ≤ 57) → letter ≠ mark := by
    intro mark sign outside same
    rw [same] at member
    rcases number_text_letters member with hyphen | bounds
    · exact sign hyphen
    · exact outside bounds
  exact ⟨⟨number_text_ascii member, other zero (by decide) (by decide)⟩,
    other ',' (by decide) (by decide), other ')' (by decide) (by decide),
    other ':' (by decide) (by decide)⟩

theorem numbers_plain {numbers : List Int} {param : Text} (among : param ∈ numbers.map numberText) :
    ∀ letter ∈ param, ParamLetter letter := by
  obtain ⟨number, _, rfl⟩ := List.mem_map.mp among
  exact fun letter => number_text_plain

theorem frame_call_params {message : DisplayMessage} (plain : PlainMessage message) {param : Text}
    (among : param ∈ (frameCall message).2) : ∀ letter ∈ param, ParamLetter letter := by
  cases message with
  | fullUpdate frame => exact @numbers_plain [(frame : Int)] param among
  | dI frame rect artefactMargin mimeType payload =>
      have split : (frameCall (.dI frame rect artefactMargin mimeType payload)).2 =
          [(frame : Int), rect.x1, rect.y1, rect.width, rect.height, artefactMargin].map numberText ++
            [mimeType.toList] := rfl
      rw [split, List.mem_append] at among
      cases among with
      | inl number => exact numbers_plain number
      | inr type =>
          rw [List.mem_singleton.mp type]
          exact plain
  | mI frame rect dstPoint =>
      exact @numbers_plain [(frame : Int), rect.x1, rect.y1, rect.width, rect.height, dstPoint.x,
        dstPoint.y] param among
  | fR frame rect fillColor =>
      exact @numbers_plain ([(frame : Int), rect.x1, rect.y1, rect.width, rect.height] ++
        colourComponents fillColor) param among
  | frameEnd frame => exact @numbers_plain [(frame : Int)] param among

theorem frame_call_command (message : DisplayMessage) :
    ∀ letter ∈ (frameCall message).1, ParamLetter letter ∧ letter ≠ '(' := by
  cases message with
  | fullUpdate frame =>
      change ∀ letter ∈ "fullUpdate".toList, _
      exact List.all_iff_forall_prop.mp (by decide)
  | dI frame rect artefactMargin mimeType payload =>
      change ∀ letter ∈ "dI".toList, _
      exact List.all_iff_forall_prop.mp (by decide)
  | mI frame rect dstPoint =>
      change ∀ letter ∈ "mI".toList, _
      exact List.all_iff_forall_prop.mp (by decide)
  | fR frame rect fillColor =>
      change ∀ letter ∈ "fR".toList, _
      exact List.all_iff_forall_prop.mp (by decide)
  | frameEnd frame =>
      change ∀ letter ∈ "end".toList, _
      exact List.all_iff_forall_prop.mp (by decide)

variable {message : DisplayMessage} (plain : PlainMessage message)

include plain

theorem frame_call_plain : PlainCall (frameCall message).1 (frameCall message).2 where
  command_plain := ⟨fun member => (frame_call_command message _ member).2 rfl,
    fun member => (frame_call_command message _ member).1.2.2.1 rfl⟩
  params_nonempty := by
    cases message with
    | fullUpdate frame => exact List.cons_ne_nil _ _
    | dI frame rect artefactMargin mimeType payload => exact List.cons_ne_nil _ _
    | mI frame rect dstPoint => exact List.cons_ne_nil _ _
    | fR frame rect fillColor => exact List.cons_ne_nil _ _
    | frameEnd frame => exact List.cons_ne_nil _ _
  params_plain param among := ⟨fun member => (frame_call_params plain among _ member).2.1 rfl,
    fun member => (frame_call_params plain among _ member).2.2.1 rfl⟩

theorem frame_call_letters :
    ∀ letter ∈ headerText message, Plain letter := by
  intro letter member
  rcases List.mem_append.mp member with inside | colon
  · apply call_letters.mpr _ letter inside
    exact ⟨fun letter member => (frame_call_command message letter member).1.1,
      fun param among letter member => (frame_call_params plain among letter member).1⟩
  · rw [List.mem_singleton.mp colon]
    unfold Plain
    decide

theorem frame_call_colon : ':' ∉ call (frameCall message).1 (frameCall message).2 := by
  intro member
  unfold call at member
  rw [List.mem_append, List.mem_cons, List.mem_append, List.mem_singleton] at member
  rcases member with command | bracket | params | bracket
  · exact (frame_call_command message _ command).1.2.2.2 rfl
  · exact absurd bracket (by decide)
  · rcases mem_intercalate params with comma | ⟨param, among, inside⟩
    · exact absurd comma (by decide)
    · exact (frame_call_params plain among _ inside).2.2.2 rfl
  · exact absurd bracket (by decide)

end Calls

section Reading

variable {decoder : Decoder}

theorem name_unmarked (reads : ReadsAscii decoder) {displayId : String}
    (unmarked : '>' ∉ displayId.toList) : '>' ∉ nameText decoder displayId := by
  intro member
  have byte := reads.letters _ '>' (by decide) member
  exact unmarked (latin1_marker ((List.takeWhile_sublist _).mem byte))

theorem mid_behind {Unit : Type} [DecidableEq Unit] {unit : Unit} {front : List Unit}
    (absent : unit ∉ front) (rest : List Unit) :
    mid (front ++ unit :: rest) (position unit (front ++ unit :: rest) + 1) (-1) = rest := by
  rw [position_append absent]
  have behind := mid_rest (front ++ [unit]) rest
  rw [List.length_append, List.append_assoc] at behind
  exact behind

/-- Behind the first `>` stands the call, when there is none in the identifier. -/
theorem after_target (reads : ReadsAscii decoder) {displayId : String}
    (unmarked : '>' ∉ displayId.toList) {message : DisplayMessage} (plain : PlainMessage message) :
    afterTarget (messageBytes decoder displayId message) =
      utf8.encode (headerText message) ++ payloadBytes message := by
  have name := name_unmarked reads unmarked
  have ascii : ∀ letter ∈ headerText message, IsAscii letter :=
    fun letter member => (frame_call_letters plain letter member).1
  have latin : ∀ payload : Bytes,
      afterTarget (toLatin1 (utf16.encode (nameText decoder displayId ++ '>' :: headerText message)) ++
        payload) =
      utf8.encode (headerText message) ++ payload := by
    intro payload
    have header : toLatin1 (utf16.encode (nameText decoder displayId ++ '>' :: headerText message)) =
        toLatin1 (utf16.encode (nameText decoder displayId)) ++
          utf8.unit '>' :: utf8.encode (headerText message) := by
      rw [Coding.encode_append, utf16.encode_ascii_cons (by decide), ← latin1_ascii ascii]
      unfold toLatin1
      rw [List.map_append, List.map_cons]
      rfl
    unfold afterTarget
    rw [header, List.append_assoc, List.cons_append]
    exact mid_behind (fun member => name (latin1_marker member)) _
  have wide : ∀ payload : Bytes,
      afterTarget (utf8.encode (nameText decoder displayId ++ '>' :: headerText message) ++ payload) =
      utf8.encode (headerText message) ++ payload := by
    intro payload
    unfold afterTarget
    rw [Coding.encode_append, utf8.encode_ascii_cons (by decide), List.append_assoc, List.cons_append]
    apply mid_behind
    rw [utf8.unit_mem_encode (by decide)]
    exact name
  cases message with
  | frameEnd frame => exact wide _
  | fullUpdate frame => exact latin _
  | dI frame rect artefactMargin mimeType payload => exact latin _
  | mI frame rect dstPoint => exact latin _
  | fR frame rect fillColor => exact latin _

theorem to_string_front (reads : ReadsAscii decoder) {front : Text} (nonempty : front ≠ [])
    (letters : ∀ letter ∈ front, Plain letter) (rest : Bytes) :
    toQString decoder (utf8.encode front ++ rest) =
      utf16.encode (front ++ decoder.decode (rest.takeWhile fun byte => byte ≠ 0)) := by
  have ended : ∀ byte ∈ utf8.encode front, decide (byte ≠ 0) = true := by
    intro byte member
    rw [decide_eq_true_iff]
    intro same
    have written : utf8.unit zero ∈ utf8.encode front := by
      rw [same] at member
      exact member
    rw [utf8.unit_mem_encode (by decide)] at written
    exact (letters zero written).2 rfl
  have unmarked : ∀ behind : Bytes,
      withoutMark (utf8.encode front ++ behind) = utf8.encode front ++ behind := by
    intro behind
    unfold withoutMark
    rw [if_neg]
    intro begins
    cases front with
    | nil => exact nonempty rfl
    | cons first others =>
        have ascii := (letters first List.mem_cons_self).1
        rw [utf8.encode_ascii_cons ascii, List.cons_append, List.isPrefixOf_cons_cons,
          Bool.and_eq_true, beq_iff_eq] at begins
        have number := congrArg UInt8.toNat begins.1
        change 239 = (UInt8.ofNat first.toNat).toNat at number
        unfold IsAscii at ascii
        rw [UInt8.toNat_ofNat'] at number
        omega
  unfold toQString
  rw [List.takeWhile_append_of_pos ended, unmarked,
    reads.front _ _ fun letter member => (letters letter member).1]

theorem split_message (reads : ReadsAscii decoder) {message : DisplayMessage}
    (plain : PlainMessage message) (payload : Bytes) :
    let split := splitMessage decoder (utf8.encode (headerText message) ++ payload) [] []
    split.command = utf16.encode (frameCall message).1 ∧
      split.params = (frameCall message).2.map utf16.encode := by
  have raw := to_string_front reads (show headerText message ≠ [] by simp [headerText])
    (frame_call_letters plain) payload
  unfold headerText at raw ⊢
  rw [List.append_assoc (call (frameCall message).1 (frameCall message).2)] at raw
  have split := split_closed (frame_call_plain plain) raw [] []
  rw [split]
  exact ⟨rfl, rfl⟩

end Reading

section Lenient

/-- A byte on its own: what is not ASCII becomes the replacement character. -/
def byteLetter (byte : UInt8) : Char :=
  if byte.toNat < 128 then Char.ofNat byte.toNat else Char.ofNat 0xFFFD

def lenientDecoder : Decoder where
  decode bytes := (decodeUtf8 bytes).getD (bytes.map byteLetter)
  decode_encode text := by
    rw [decode_encoded]
    rfl

theorem byte_letter_unit {letter : Char} (ascii : IsAscii letter) :
    byteLetter (utf8.unit letter) = letter := by
  have number : (utf8.unit letter).toNat = letter.toNat := by
    change (UInt8.ofNat letter.toNat).toNat = letter.toNat
    unfold IsAscii at ascii
    rw [UInt8.toNat_ofNat']
    omega
  unfold IsAscii at ascii
  unfold byteLetter
  rw [number, if_pos ascii, Char.ofNat_toNat]

theorem byte_letter_ascii {byte : UInt8} (ascii : IsAscii (byteLetter byte)) :
    utf8.unit (byteLetter byte) = byte := by
  unfold byteLetter at ascii ⊢
  split_ifs at ascii ⊢ with small
  · have valid : byte.toNat.isValidChar := Or.inl (by omega)
    have number : (Char.ofNat byte.toNat).toNat = byte.toNat := by
      unfold Char.ofNat
      rw [dif_pos valid]
      rfl
    apply UInt8.toNat_inj.mp
    change (UInt8.ofNat (Char.ofNat byte.toNat).toNat).toNat = byte.toNat
    rw [number, UInt8.toNat_ofNat']
    omega
  · exact absurd ascii (by decide)

theorem lenient_reads : ReadsAscii lenientDecoder where
  front := by
    intro text bytes ascii
    cases decoded : decodeUtf8 bytes with
    | some rest =>
        rw [encoded_decoded decoded, ← Coding.encode_append, lenientDecoder.decode_encode,
          lenientDecoder.decode_encode]
    | none =>
        have malformed : decodeUtf8 (utf8.encode text ++ bytes) = none := by
          cases whole : decodeUtf8 (utf8.encode text ++ bytes) with
          | none => rfl
          | some letters =>
              obtain ⟨rest, behind⟩ := encode_behind (encoded_decoded whole)
              rw [behind, decode_encoded] at decoded
              cases decoded
        have letters : (utf8.encode text).map byteLetter = text := by
          rw [utf8.encode_ascii ascii, List.map_map]
          calc text.map (byteLetter ∘ utf8.unit)
              = text.map id := List.map_congr_left fun letter member =>
                byte_letter_unit (ascii letter member)
            _ = text := List.map_id text
        unfold lenientDecoder
        dsimp only
        rw [malformed, decoded, Option.getD_none, Option.getD_none, List.map_append, letters]
  letters := by
    intro bytes letter ascii member
    cases decoded : decodeUtf8 bytes with
    | some text =>
        rw [encoded_decoded decoded] at member ⊢
        rw [lenientDecoder.decode_encode] at member
        exact (utf8.unit_mem_encode ascii).mpr member
    | none =>
        unfold lenientDecoder at member
        dsimp only at member
        rw [decoded, Option.getD_none] at member
        obtain ⟨byte, inside, same⟩ := List.mem_map.mp member
        rw [← same] at ascii ⊢
        rw [byte_letter_ascii ascii]
        exact inside

end Lenient

end Viridity.DisplayMessageText
