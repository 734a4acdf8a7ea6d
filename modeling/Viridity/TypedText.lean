import Mathlib.Data.Nat.Find
import Viridity.InputCommands
import Viridity.LabelledRuns

/-!
# The text interceptor

A text area that catches what is typed on devices whose key events cannot be relied on. Each
change of its text is sent as backspaces and a text, which the interpreter of the display
posts as key events, and the item that has the focus there takes them. How an item takes a
key event is a parameter.
-/

namespace Viridity.TypedText

open Viridity.NumberText
open Viridity.TextEncoding
open Viridity.TextScanning
open Viridity.ServerMessages
open Viridity.DisplayMessageText
open Viridity.InputCommands
open Viridity.LabelledRuns

set_option autoImplicit false

section Differences

variable {Unit : Type*} [DecidableEq Unit]

/-- The first index at which two texts differ, the shorter length if there is none. -/
def firstChangeIndex : List Unit → List Unit → Nat
  | former :: formerRest, new :: newRest =>
      if former = new then firstChangeIndex formerRest newRest + 1 else 0
  | _, _ => 0

theorem first_change_le_former (former new : List Unit) :
    firstChangeIndex former new ≤ former.length := by
  fun_induction firstChangeIndex former new with
  | case1 letter formerRest newRest induction => exact Nat.succ_le_succ induction
  | case2 => exact Nat.zero_le _
  | case3 => exact Nat.zero_le _

theorem first_change_le_new (former new : List Unit) :
    firstChangeIndex former new ≤ new.length := by
  fun_induction firstChangeIndex former new with
  | case1 letter formerRest newRest induction => exact Nat.succ_le_succ induction
  | case2 => exact Nat.zero_le _
  | case3 => exact Nat.zero_le _

theorem take_first_change (former new : List Unit) :
    former.take (firstChangeIndex former new) = new.take (firstChangeIndex former new) := by
  fun_induction firstChangeIndex former new with
  | case1 letter formerRest newRest induction => rw [List.take_succ_cons, List.take_succ_cons, induction]
  | case2 => rfl
  | case3 => rfl

theorem first_change_append (front former new : List Unit) :
    firstChangeIndex (front ++ former) (front ++ new) = front.length + firstChangeIndex former new := by
  induction front with
  | nil => simp
  | cons letter front induction =>
      simp only [List.cons_append, firstChangeIndex, if_true, induction, List.length_cons]
      omega

def agreement (former new : List Unit) : Nat :=
  Nat.findGreatest (fun length => former.take length = new.take length)
    (min former.length new.length)

theorem agreement_le (former new : List Unit) :
    agreement former new ≤ min former.length new.length :=
  Nat.findGreatest_le _

theorem agreement_le_former (former new : List Unit) : agreement former new ≤ former.length :=
  (agreement_le former new).trans (Nat.min_le_left _ _)

theorem take_agreement (former new : List Unit) :
    former.take (agreement former new) = new.take (agreement former new) := by
  have alike : former.take 0 = new.take 0 := rfl
  exact @Nat.findGreatest_spec 0 (fun length => former.take length = new.take length) _ _
    (Nat.zero_le _) alike

theorem first_change_agreement (former new : List Unit) :
    firstChangeIndex former new = agreement former new := by
  apply le_antisymm
  · exact Nat.le_findGreatest
      (le_min (first_change_le_former former new) (first_change_le_new former new))
      (take_first_change former new)
  · have bound := agreement_le former new
    have append := first_change_append (former.take (agreement former new))
      (former.drop (agreement former new)) (new.drop (agreement former new))
    rw [List.take_append_drop, List.length_take, take_agreement, List.take_append_drop] at append
    omega

end Differences

/-- `encodeURIComponent` throws at half a surrogate pair. -/
def encodeUtf8 (text : Units) : Option Bytes :=
  if utf16.encode (decodeUtf16 text) = text then some (utf8.encode (decodeUtf16 text)) else none

def sentinelTextForBackspace : Units := utf16.encode "- ".toList

/-- The text area and what the closure around it keeps; `connected` and `keyboardInputs` are
those of the channel and of `enabledEvents`. -/
structure TextInterceptor where
  value : Units
  lastTextRaw : Units
  connected : Bool
  keyboardInputs : Bool
deriving DecidableEq

namespace TextInterceptor

def initializeTextInterceptor (connected keyboardInputs : Bool) : TextInterceptor where
  value := sentinelTextForBackspace
  lastTextRaw := sentinelTextForBackspace
  connected := connected
  keyboardInputs := keyboardInputs

variable (interceptor : TextInterceptor)

def sendKeyEvent (type : String) (which : Int) : List Text :=
  if interceptor.connected = false ∨ interceptor.keyboardInputs = false then []
  else [keyCall type which 0]

def backspace : List Text :=
  interceptor.sendKeyEvent "keyDown" 8 ++ interceptor.sendKeyEvent "keyPress" 8 ++
    interceptor.sendKeyEvent "keyUp" 8

/-- The interceptor afterwards and the messages sent. When `encodeUtf8` throws, the backspaces
are sent already. -/
def handleTextInterceptorChange : TextInterceptor × List Text :=
  if interceptor.keyboardInputs = false then (interceptor, [])
  else if interceptor.value = interceptor.lastTextRaw then (interceptor, [])
  else
    let index := firstChangeIndex interceptor.lastTextRaw interceptor.value
    let backspacesRequired := interceptor.lastTextRaw.length - index
    let appendsRequired := interceptor.value.length - index
    let backspaces := (List.replicate backspacesRequired interceptor.backspace).flatten
    let settled : TextInterceptor :=
      if interceptor.value.length < sentinelTextForBackspace.length then
        { interceptor with
          value := sentinelTextForBackspace
          lastTextRaw := sentinelTextForBackspace }
      else { interceptor with lastTextRaw := interceptor.value }
    if appendsRequired = 0 then (settled, backspaces)
    else
      match encodeUtf8 (interceptor.value.drop index) with
      | none => (interceptor, backspaces)
      | some bytes => (settled, backspaces ++ [textCall bytes])

end TextInterceptor

/-- The surroundings of a display: its decoder and letter case, the identifier its messages
carry and how the item with the focus takes a key event. -/
structure Surroundings where
  decoder : Decoder
  casing : Casing
  targetId : Text
  item : Units → AdapterCall → Units

/-- What the text area is meant to do to the item: beside `kept` it shows the text behind the
first `seen` units of the text area. -/
structure Mirror where
  kept : Units
  seen : Nat
deriving DecidableEq

namespace Mirror

def shows (mirror : Mirror) (value : Units) : Units := mirror.kept ++ value.drop mirror.seen

/-- A change in front of what is seen takes units of the kept text away. A text area that is
filled with the sentinel again leaves all of the text to the item. -/
def retype (mirror : Mirror) (former new : Units) : Mirror :=
  let index := agreement former new
  let uncovered : Mirror :=
    { kept := mirror.kept.take (mirror.kept.length - (mirror.seen - index))
      seen := min mirror.seen index }
  if new.length < sentinelTextForBackspace.length then
    { kept := uncovered.shows new, seen := sentinelTextForBackspace.length }
  else uncovered

end Mirror

/-- The client, the messages under way, the interpreter and the text of the item. `mirror`
stands beside them. -/
structure Typing where
  interceptor : TextInterceptor
  underway : List Text
  interpreter : CommandInterpreter
  text : Units
  mirror : Mirror
deriving DecidableEq

inductive TypingAction where
  | change (value : Units)
  | connect (connected : Bool)
  | enable (keyboardInputs : Bool)
  | deliver
deriving DecidableEq

section Steps

variable (surroundings : Surroundings)

def sent (messages : List Text) : List Text :=
  messages.map fun msg => sendMessage msg (some surroundings.targetId)

def receive (state : CommandInterpreter × Units) (message : Text) : CommandInterpreter × Units :=
  let taken := takeTargetFromMessage surroundings.decoder (utf8.encode message)
  if taken.1 = some (utf16.encode surroundings.targetId) ∧
      CommandInterpreter.canHandleMessage taken.2 then
    let read := state.1.handleMessage surroundings.casing surroundings.decoder taken.2
    (read.interpreter, read.calls.foldl surroundings.item state.2)
  else state

def typingStep (typing : Typing) : TypingAction → Option Typing
  | .change value =>
      let changed := { typing.interceptor with value }.handleTextInterceptorChange
      some { typing with
        interceptor := changed.1
        underway := typing.underway ++ sent surroundings changed.2
        mirror :=
          if typing.interceptor.keyboardInputs ∧ value ≠ typing.interceptor.lastTextRaw then
            typing.mirror.retype typing.interceptor.lastTextRaw value
          else typing.mirror }
  | .connect connected =>
      some { typing with interceptor := { typing.interceptor with connected } }
  | .enable keyboardInputs =>
      some { typing with interceptor := { typing.interceptor with keyboardInputs } }
  | .deliver =>
      match typing.underway with
      | [] => none
      | message :: rest =>
          let received := receive surroundings (typing.interpreter, typing.text) message
          some { typing with underway := rest, interpreter := received.1, text := received.2 }

/-- The interpreter and the item once the messages under way have arrived. -/
def Typing.arrived (typing : Typing) : CommandInterpreter × Units :=
  typing.underway.foldl (receive surroundings) (typing.interpreter, typing.text)

end Steps

def startTyping (interpreter : CommandInterpreter) (text : Units) (connected keyboardInputs : Bool) :
    Typing where
  interceptor := TextInterceptor.initializeTextInterceptor connected keyboardInputs
  underway := []
  interpreter := interpreter
  text := text
  mirror := { kept := text, seen := sentinelTextForBackspace.length }

/-- A character of one unit that every step on the way keeps. -/
def PlainUnit (unit : UInt16) : Prop :=
  isHigh unit = false ∧ isLow unit = false ∧ unit ≠ 0 ∧ unit ≠ utf16.unit byteOrderMark

instance (unit : UInt16) : Decidable (PlainUnit unit) :=
  inferInstanceAs (Decidable (_ ∧ _ ∧ _ ∧ _))

instance (text : Units) : Decidable (∀ unit ∈ text, PlainUnit unit) :=
  List.decidableBAll PlainUnit text

/-- Keys that are a letter, the line break or no key. -/
def WritingKey (key : Int) : Prop := key < 0x01000000 ∨ key = CommandInterpreter.keyReturn

/-- How text items take the key events that are posted for a text area: a backspace erases the
last character, a press inserts its text where it is one the item accepts. -/
structure TakesKeys (item : Units → AdapterCall → Units) (accepts : Units → Prop) : Prop where
  erases : ∀ (text : Units) (unit : UInt16), PlainUnit unit →
    item (text ++ [unit]) (.handleKeyEvent .keyPress CommandInterpreter.keyBackspace 0 []) = text
  erases_nothing : item [] (.handleKeyEvent .keyPress CommandInterpreter.keyBackspace 0 []) = []
  inserts : ∀ (text : Units) (key modifiers : Int) (typed : Units), WritingKey key → accepts typed →
    item text (.handleKeyEvent .keyPress key modifiers typed) = text ++ typed
  releases : ∀ (text : Units) (key modifiers : Int) (typed : Units),
    item text (.handleKeyEvent .keyRelease key modifiers typed) = text

section Texts

theorem plain_scalar {unit : UInt16} (plain : PlainUnit unit) :
    scalar unit = Char.ofNat unit.toNat ∧ (Char.ofNat unit.toNat).toNat = unit.toNat := by
  have high := plain.1
  have low := plain.2.1
  have bound := unit.toNat_lt
  constructor
  · unfold scalar
    rw [high, low]
    rfl
  · unfold isHigh at high
    unfold isLow at low
    rw [Bool.and_eq_false_iff, decide_eq_false_iff_not, decide_eq_false_iff_not] at high low
    have valid : unit.toNat.isValidChar := by
      unfold Nat.isValidChar
      omega
    unfold Char.ofNat
    rw [dif_pos valid]
    rfl

theorem plain_units {unit : UInt16} (plain : PlainUnit unit) :
    utf16.units (scalar unit) = [unit] := by
  have same := plain_scalar plain
  have bound := unit.toNat_lt
  have small : (scalar unit).toNat < 0x10000 := by
    rw [same.1, same.2]
    exact bound
  have units : utf16.units (scalar unit) = [UInt16.ofNat (scalar unit).toNat] := if_pos small
  rw [units, same.1, same.2, UInt16.ofNat_toNat]

theorem plain_encoded {text : Units} (plain : ∀ unit ∈ text, PlainUnit unit) :
    utf16.encode (decodeUtf16 text) = text := by
  induction text with
  | nil => rfl
  | cons unit text induction =>
      rw [List.forall_mem_cons] at plain
      rw [decode_scalar plain.1.1, Coding.encode_cons, plain_units plain.1, induction plain.2]
      rfl

theorem plain_kept {text : Units} (plain : ∀ unit ∈ text, PlainUnit unit) :
    kept (decodeUtf16 text) = decodeUtf16 text := by
  have encoded := plain_encoded plain
  rw [kept_iff]
  constructor
  · intro member
    have within : utf16.unit zero ∈ utf16.encode (decodeUtf16 text) :=
      (utf16.unit_mem_encode (by decide)).mpr member
    rw [encoded] at within
    exact absurd (plain _ within) (by decide)
  · intro mark
    have within : byteOrderMark ∈ decodeUtf16 text := List.mem_of_mem_head? mark
    have unitWithin : utf16.unit byteOrderMark ∈ utf16.encode (decodeUtf16 text) := by
      rw [Coding.encode, List.mem_flatMap]
      exact ⟨byteOrderMark, within, by decide⟩
    rw [encoded] at unitWithin
    exact absurd rfl (plain _ unitWithin).2.2.2

theorem plain_read (decoder : Decoder) {text : Units} (plain : ∀ unit ∈ text, PlainUnit unit) :
    toQString decoder (utf8.encode (decodeUtf16 text)) = text := by
  rw [to_string_encoded, plain_kept plain, plain_encoded plain]

end Texts

section Arriving

variable {surroundings : Surroundings} {accepts : Units → Prop}
  (plainTarget : PlainTarget surroundings.targetId) (takes : TakesKeys surroundings.item accepts)

theorem call_received {command : Text} {params : List Text}
    (read : BareReadBack surroundings.decoder surroundings.targetId command params)
    (accepted : CommandInterpreter.canHandleMessage (utf8.encode (call command params)) = true)
    (state : CommandInterpreter × Units) :
    receive surroundings state (sendMessage (call command params) (some surroundings.targetId)) =
      let handled := state.1.handleMessage surroundings.casing surroundings.decoder
        (utf8.encode (call command params))
      (handled.interpreter, handled.calls.foldl surroundings.item state.2) := by
  unfold receive
  simp only [read.1, read.2.1]
  rw [if_pos ⟨trivial, accepted⟩]

include plainTarget in
theorem key_received {state : CommandInterpreter × Units} (attached : state.1.adapter = true)
    (type : String) (letters : ∀ letter ∈ type.toList, CallLetter letter)
    (key : utf8.encode "key".toList <+: utf8.encode type.toList) (which : Int) :
    receive surroundings state (sendMessage (keyCall type which 0) (some surroundings.targetId)) =
      let handled := state.1.handleKeyEvent surroundings.casing (utf16.encode type.toList)
        [utf16.encode (numberText which), utf16.encode (numberText 0)]
      (handled.interpreter, handled.calls.foldl surroundings.item state.2) := by
  unfold keyCall
  rw [call_received (key_call_read plainTarget letters which 0) (key_call_accepted key which 0)]
  have handled := @key_call_handled surroundings.decoder surroundings.casing _ attached _ letters key
    which 0
  unfold keyCall at handled
  rw [handled]

def erasing : AdapterCall := .handleKeyEvent .keyPress CommandInterpreter.keyBackspace 0 []

include plainTarget takes in
theorem backspace_received {state : CommandInterpreter × Units} (attached : state.1.adapter = true) :
    (sent surroundings [keyCall "keyDown" 8 0, keyCall "keyPress" 8 0, keyCall "keyUp" 8 0]).foldl
        (receive surroundings) state =
      ({ state.1 with keyDownKeyCode := 8, keyDownKeyCodeHandled := true },
        surroundings.item state.2 erasing) := by
  let after : CommandInterpreter × Units :=
    ({ state.1 with keyDownKeyCode := 8, keyDownKeyCodeHandled := true },
      surroundings.item state.2 erasing)
  have down : receive surroundings state
      (sendMessage (keyCall "keyDown" 8 0) (some surroundings.targetId)) = after := by
    rw [key_received plainTarget attached "keyDown" (call_letters_checked (by decide))
      (by decide) 8,
      @key_down_posted _ state.1 8 0 _ rfl]
    rfl
  have attachedAfter : after.1.adapter = true := attached
  have press : receive surroundings after
      (sendMessage (keyCall "keyPress" 8 0) (some surroundings.targetId)) = after := by
    rw [key_received plainTarget attachedAfter "keyPress" (call_letters_checked (by decide))
      (by decide) 8,
      @key_press_ignored _ _ rfl]
    rfl
  have up : receive surroundings after
      (sendMessage (keyCall "keyUp" 8 0) (some surroundings.targetId)) = after := by
    rw [key_received plainTarget attachedAfter "keyUp" (call_letters_checked (by decide))
      (by decide) 8, key_up_posted]
    simp only [List.foldl_cons, List.foldl_nil, takes.releases]
  simp only [sent, List.map_cons, List.map_nil, List.foldl_cons, List.foldl_nil, down, press, up]
  rfl

include takes in
theorem item_erases {text : Units} (plain : ∀ unit ∈ text, PlainUnit unit) :
    surroundings.item text erasing = text.dropLast := by
  rcases List.eq_nil_or_concat text with nothing | ⟨front, last, same⟩
  · rw [nothing]
    exact takes.erases_nothing
  · rw [List.concat_eq_append] at same
    rw [same, List.dropLast_concat]
    apply takes.erases
    apply plain
    rw [same]
    simp

include plainTarget takes in
theorem backspaces_received (count : Nat) {state : CommandInterpreter × Units}
    (attached : state.1.adapter = true) (plain : ∀ unit ∈ state.2, PlainUnit unit) :
    let after := (sent surroundings (List.replicate count
        [keyCall "keyDown" 8 0, keyCall "keyPress" 8 0, keyCall "keyUp" 8 0]).flatten).foldl
      (receive surroundings) state
    after.1.adapter = true ∧ after.2 = state.2.take (state.2.length - count) := by
  induction count generalizing state with
  | zero => simpa [sent] using attached
  | succ count induction =>
      have first := backspace_received plainTarget takes attached
      have erased := item_erases takes plain
      dsimp only
      unfold sent at first induction ⊢
      rw [List.replicate_succ, List.flatten_cons, List.map_append, List.foldl_append, first, erased]
      have rest := @induction ({ state.1 with keyDownKeyCode := 8, keyDownKeyCodeHandled := true },
        state.2.dropLast) attached fun unit member => plain unit (state.2.dropLast_sublist.mem member)
      dsimp only at rest
      rw [List.dropLast_eq_take, List.take_take, List.length_take] at rest
      rw [List.dropLast_eq_take]
      refine ⟨rest.1, rest.2.trans ?_⟩
      congr 1
      omega

theorem writing_key (casing : Casing) (text : Units) :
    WritingKey (CommandInterpreter.keyOfText casing text).1 := by
  have small : ∀ unit : UInt16, WritingKey (unit.toNat : Int) := by
    intro unit
    have bound := unit.toNat_lt
    left
    omega
  unfold CommandInterpreter.keyOfText
  split
  · split_ifs
    · exact .inr rfl
    · exact small _
    · exact small _
  · left
    decide

include plainTarget takes in
theorem text_received {state : CommandInterpreter × Units} (attached : state.1.adapter = true)
    {text : Units} (plain : ∀ unit ∈ text, PlainUnit unit) (accepted : accepts text) :
    receive surroundings state
        (sendMessage (textCall (utf8.encode (decodeUtf16 text))) (some surroundings.targetId)) =
      (state.1, state.2 ++ text) := by
  have handled := @text_call_handled surroundings.decoder surroundings.casing _ attached
    (utf8.encode (decodeUtf16 text))
  have acceptable := text_call_accepted (utf8.encode (decodeUtf16 text))
  unfold textCall at handled acceptable ⊢
  rw [call_received (text_call_read plainTarget _) acceptable, handled]
  simp only [plain_read surroundings.decoder plain, List.foldl_cons, List.foldl_nil, takes.releases]
  rw [takes.inserts _ _ _ _ (writing_key surroundings.casing text) accepted]

end Arriving

section Changes

def settledText (value : Units) : Units :=
  if value.length < sentinelTextForBackspace.length then sentinelTextForBackspace else value

theorem settled_long (value : Units) :
    sentinelTextForBackspace.length ≤ (settledText value).length := by
  unfold settledText
  split_ifs with short
  · exact Nat.le_refl _
  · omega

/-- Erasing what changed and writing it anew shows the new text of the text area. -/
theorem retype_shows {mirror : Mirror} {former : Units} (seen : mirror.seen ≤ former.length)
    (value : Units) :
    (mirror.shows former).take ((mirror.shows former).length -
        (former.length - agreement former value)) ++
      value.drop (agreement former value) =
      (mirror.retype former value).shows (settledText value) := by
  let index := agreement former value
  have bound : index ≤ former.length := agreement_le_former former value
  have common : former.take index = value.take index := take_agreement former value
  have uncovered : (mirror.shows former).take ((mirror.shows former).length -
        (former.length - index)) ++ value.drop index =
      mirror.kept.take (mirror.kept.length - (mirror.seen - index)) ++
        value.drop (min mirror.seen index) := by
    have length : (mirror.shows former).length = mirror.kept.length + (former.length - mirror.seen) := by
      simp [Mirror.shows]
    rw [length]
    by_cases within : mirror.seen ≤ index
    · have count : mirror.kept.length + (former.length - mirror.seen) - (former.length - index) =
          mirror.kept.length + (index - mirror.seen) := by
        omega
      have nothing : mirror.kept.length - (mirror.seen - index) = mirror.kept.length := by omega
      have moved : (former.drop mirror.seen).take (index - mirror.seen) =
          (value.take index).drop mirror.seen := by
        rw [← common, List.drop_take]
      rw [count, Mirror.shows, List.take_length_add_append, moved, nothing, List.take_length,
        Nat.min_eq_left within, List.append_assoc, List.drop_take]
      congr 1
      have split := List.take_append_drop (index - mirror.seen) (value.drop mirror.seen)
      rw [List.drop_drop, Nat.add_sub_cancel' within] at split
      exact split
    · have count : mirror.kept.length + (former.length - mirror.seen) - (former.length - index) =
          mirror.kept.length - (mirror.seen - index) := by
        omega
      rw [count, Mirror.shows, List.take_append_of_le_length (by omega),
        Nat.min_eq_right (by omega)]
  unfold Mirror.retype settledText
  split_ifs with short
  · rw [uncovered]
    unfold Mirror.shows
    simp [index]
  · exact uncovered

theorem handled_change {interceptor : TextInterceptor} (enabled : interceptor.keyboardInputs = true)
    (differs : interceptor.value ≠ interceptor.lastTextRaw)
    (plain : ∀ unit ∈ interceptor.value, PlainUnit unit) :
    let index := agreement interceptor.lastTextRaw interceptor.value
    let appended := interceptor.value.drop index
    interceptor.handleTextInterceptorChange =
      ({ interceptor with
          value := settledText interceptor.value
          lastTextRaw := settledText interceptor.value },
        (List.replicate (interceptor.lastTextRaw.length - index) interceptor.backspace).flatten ++
          if appended = [] then [] else [textCall (utf8.encode (decodeUtf16 appended))]) := by
  intro index appended
  have encoded : encodeUtf8 appended = some (utf8.encode (decodeUtf16 appended)) :=
    if_pos (plain_encoded fun unit member => plain unit (List.mem_of_mem_drop member))
  have settled : (if interceptor.value.length < sentinelTextForBackspace.length then
        { interceptor with
          value := sentinelTextForBackspace
          lastTextRaw := sentinelTextForBackspace }
      else { interceptor with lastTextRaw := interceptor.value } : TextInterceptor) =
      { interceptor with
        value := settledText interceptor.value
        lastTextRaw := settledText interceptor.value } := by
    unfold settledText
    split_ifs with short
    · rfl
    · rfl
  have nothing : appended = [] ↔ interceptor.value.length - index = 0 := by
    rw [List.drop_eq_nil_iff]
    omega
  unfold TextInterceptor.handleTextInterceptorChange
  rw [if_neg (by simp [enabled]), if_neg differs, first_change_agreement]
  dsimp only
  rw [settled]
  by_cases same : interceptor.value.length - index = 0
  · rw [if_pos same, if_pos (nothing.mpr same), List.append_nil]
  · rw [if_neg same, if_neg fun empty => same (nothing.mp empty), encoded]

end Changes

/-- The item shows what the text area is meant to make of it, once the messages under way have
arrived. -/
def Mirrored (surroundings : Surroundings) (typing : Typing) : Prop :=
  (typing.arrived surroundings).2 = typing.mirror.shows typing.interceptor.lastTextRaw

/-- The text area holds plain units, and the item accepts what is typed. -/
def Typeable (accepts : Units → Prop) (typing : Typing) : TypingAction → Typing → Prop
  | .change value, _ =>
      let appended := value.drop (agreement typing.interceptor.lastTextRaw value)
      (∀ unit ∈ value, PlainUnit unit) ∧ (appended = [] ∨ accepts appended)
  | _, _ => True

/-- A change made while the channel is down takes nothing away, or there is nothing left. -/
def ErasesConnected (typing : Typing) : TypingAction → Typing → Prop
  | .change value, _ =>
      typing.interceptor.keyboardInputs = false ∨ typing.interceptor.connected = true ∨
        agreement typing.interceptor.lastTextRaw value =
          typing.interceptor.lastTextRaw.length ∨
        typing.mirror.shows typing.interceptor.lastTextRaw = []
  | _, _ => True

structure TypingInvariant (surroundings : Surroundings) (typing : Typing) : Prop where
  attached : (typing.arrived surroundings).1.adapter = true
  mirrored : Mirrored surroundings typing
  shownPlain : ∀ unit ∈ typing.mirror.shows typing.interceptor.lastTextRaw, PlainUnit unit
  long : sentinelTextForBackspace.length ≤ typing.interceptor.lastTextRaw.length
  seen : typing.mirror.seen ≤ sentinelTextForBackspace.length

section Runs

variable {surroundings : Surroundings} {accepts : Units → Prop}
  (plainTarget : PlainTarget surroundings.targetId) (takes : TakesKeys surroundings.item accepts)

theorem retype_seen {mirror : Mirror} (seen : mirror.seen ≤ sentinelTextForBackspace.length)
    (former new : Units) : (mirror.retype former new).seen ≤ sentinelTextForBackspace.length := by
  unfold Mirror.retype
  split_ifs with short
  · exact Nat.le_refl _
  · exact (Nat.min_le_left _ _).trans seen

theorem arrived_appended (surroundings : Surroundings) (typing : Typing) (messages : List Text)
    (interceptor : TextInterceptor) (mirror : Mirror) :
    ({ typing with
        interceptor
        underway := typing.underway ++ messages
        mirror } : Typing).arrived surroundings =
      messages.foldl (receive surroundings) (typing.arrived surroundings) := by
  unfold Typing.arrived
  rw [List.foldl_append]

include plainTarget takes in
theorem change_arrives {state : CommandInterpreter × Units} (attached : state.1.adapter = true)
    (plainText : ∀ unit ∈ state.2, PlainUnit unit) {interceptor : TextInterceptor}
    (enabled : interceptor.keyboardInputs = true) (count : Nat) {appended : Units}
    (plain : ∀ unit ∈ appended, PlainUnit unit) (accepted : appended = [] ∨ accepts appended) :
    let after := (sent surroundings ((List.replicate count interceptor.backspace).flatten ++
        if appended = [] then [] else [textCall (utf8.encode (decodeUtf16 appended))])).foldl
      (receive surroundings) state
    after.1.adapter = true ∧
      after.2 = (if interceptor.connected then state.2.take (state.2.length - count) else state.2) ++
        appended := by
  have erased : let after := (sent surroundings
        (List.replicate count interceptor.backspace).flatten).foldl (receive surroundings) state
      after.1.adapter = true ∧
        after.2 = if interceptor.connected then state.2.take (state.2.length - count)
          else state.2 := by
    cases up : interceptor.connected with
    | true =>
        have three : interceptor.backspace =
            [keyCall "keyDown" 8 0, keyCall "keyPress" 8 0, keyCall "keyUp" 8 0] := by
          simp [TextInterceptor.backspace, TextInterceptor.sendKeyEvent, up, enabled]
        rw [three]
        exact backspaces_received plainTarget takes count attached plainText
    | false =>
        have none : interceptor.backspace = [] := by
          simp [TextInterceptor.backspace, TextInterceptor.sendKeyEvent, up]
        rw [none]
        simp [sent, attached]
  dsimp only at erased ⊢
  unfold sent at erased ⊢
  rw [List.map_append, List.foldl_append]
  by_cases nothing : appended = []
  · rw [if_pos nothing, nothing, List.append_nil]
    exact erased
  · have written := text_received plainTarget takes erased.1 plain
      (accepted.resolve_left nothing)
    rw [if_neg nothing, List.map_singleton, List.foldl_cons, List.foldl_nil, written, erased.2]
    exact ⟨erased.1, rfl⟩

theorem take_front_iff {text rest : Units} {count : Nat} :
    text ++ rest = text.take (text.length - count) ++ rest ↔ count = 0 ∨ text = [] := by
  rw [List.append_cancel_right_eq]
  constructor
  · intro same
    have lengths := congrArg List.length same
    rw [List.length_take] at lengths
    by_cases empty : text = []
    · exact .inr empty
    · have long := List.length_pos_iff.mpr empty
      left
      omega
  · rintro (none | empty)
    · rw [none, Nat.sub_zero, List.take_length]
    · rw [empty, List.take_nil]

theorem agreement_self (text : Units) : agreement text text = text.length := by
  rw [← first_change_agreement]
  have append := first_change_append text [] []
  simpa [firstChangeIndex] using append

theorem Mirrored.shown_retyped {typing : Typing} (invariant : TypingInvariant surroundings typing)
    (value : Units) :
    let text := (typing.arrived surroundings).2
    let index := agreement typing.interceptor.lastTextRaw value
    (typing.mirror.retype typing.interceptor.lastTextRaw value).shows (settledText value) =
      text.take (text.length - (typing.interceptor.lastTextRaw.length - index)) ++
        value.drop index := by
  intro text index
  have shown := retype_shows (invariant.seen.trans invariant.long) value
  rw [← invariant.mirrored] at shown
  exact shown.symm

include plainTarget takes in
theorem handled_change_step {typing : Typing} (invariant : TypingInvariant surroundings typing)
    {value : Units} (enabled : typing.interceptor.keyboardInputs = true)
    (differs : value ≠ typing.interceptor.lastTextRaw) {next : Typing}
    (taken : typingStep surroundings typing (.change value) = some next)
    (typeable : Typeable accepts typing (.change value) next) :
    let text := (typing.arrived surroundings).2
    let index := agreement typing.interceptor.lastTextRaw value
    next.interceptor.lastTextRaw = settledText value ∧
      next.mirror = typing.mirror.retype typing.interceptor.lastTextRaw value ∧
      (next.arrived surroundings).1.adapter = true ∧
      (next.arrived surroundings).2 =
        (if typing.interceptor.connected then
          text.take (text.length - (typing.interceptor.lastTextRaw.length - index)) else text) ++
          value.drop index := by
  intro text index
  have change := @handled_change { typing.interceptor with value } enabled differs typeable.1
  have condition : typing.interceptor.keyboardInputs = true ∧
    value ≠ typing.interceptor.lastTextRaw := ⟨enabled, differs⟩
  dsimp only at change
  simp only [typingStep, Option.some.injEq] at taken
  rw [change, if_pos condition] at taken
  have plainText : ∀ unit ∈ text, PlainUnit unit := by
    intro unit member
    apply invariant.shownPlain
    rw [← invariant.mirrored]
    exact member
  have arrives := @change_arrives surroundings accepts plainTarget takes _ invariant.attached
    plainText { typing.interceptor with value } enabled
    (typing.interceptor.lastTextRaw.length - index) _
    (fun unit member => typeable.1 unit (List.mem_of_mem_drop member)) typeable.2
  subst taken
  rw [arrived_appended]
  exact ⟨rfl, rfl, arrives.1, arrives.2⟩

include plainTarget takes in
/-- The mirror is kept exactly if what a change erases can be sent, and then so is the rest. -/
theorem handled_change_mirrors {typing : Typing} (invariant : TypingInvariant surroundings typing)
    {value : Units} (enabled : typing.interceptor.keyboardInputs = true)
    (differs : value ≠ typing.interceptor.lastTextRaw) {next : Typing}
    (taken : typingStep surroundings typing (.change value) = some next)
    (typeable : Typeable accepts typing (.change value) next) :
    (Mirrored surroundings next ↔ ErasesConnected typing (.change value) next) ∧
      (Mirrored surroundings next → TypingInvariant surroundings next) := by
  let text := (typing.arrived surroundings).2
  let index := agreement typing.interceptor.lastTextRaw value
  obtain ⟨last, mirror, attached, arrived⟩ :=
    handled_change_step plainTarget takes invariant enabled differs taken typeable
  have bound : index ≤ typing.interceptor.lastTextRaw.length := agreement_le_former _ _
  have shown : next.mirror.shows next.interceptor.lastTextRaw =
      text.take (text.length - (typing.interceptor.lastTextRaw.length - index)) ++
        value.drop index := by
    rw [mirror, last]
    exact Mirrored.shown_retyped invariant value
  constructor
  · unfold Mirrored ErasesConnected
    rw [arrived, shown, enabled, ← invariant.mirrored]
    cases up : typing.interceptor.connected with
    | true => simp [text, index]
    | false =>
        simp only [Bool.false_eq_true, if_false, Bool.true_eq_false, false_or]
        rw [take_front_iff]
        apply or_congr_left
        omega
  · intro mirrored
    have plainText : ∀ unit ∈ text, PlainUnit unit := by
      intro unit member
      apply invariant.shownPlain
      rw [← invariant.mirrored]
      exact member
    refine ⟨attached, mirrored, ?_, ?_, ?_⟩
    · rw [shown]
      intro unit member
      cases List.mem_append.mp member with
      | inl inFront => exact plainText unit (List.mem_of_mem_take inFront)
      | inr appended => exact typeable.1 unit (List.mem_of_mem_drop appended)
    · rw [last]
      exact settled_long value
    · rw [mirror]
      exact retype_seen invariant.seen _ _

theorem unhandled_change {interceptor : TextInterceptor}
    (unhandled : interceptor.keyboardInputs = false ∨ interceptor.value = interceptor.lastTextRaw) :
    interceptor.handleTextInterceptorChange = (interceptor, []) := by
  unfold TextInterceptor.handleTextInterceptorChange
  cases unhandled with
  | inl off => rw [if_pos off]
  | inr same =>
      by_cases off : interceptor.keyboardInputs = false
      · rw [if_pos off]
      · rw [if_neg off, if_pos same]

theorem TypingInvariant.of_same {typing next : Typing}
    (invariant : TypingInvariant surroundings typing)
    (arrived : next.arrived surroundings = typing.arrived surroundings)
    (last : next.interceptor.lastTextRaw = typing.interceptor.lastTextRaw)
    (mirror : next.mirror = typing.mirror) : TypingInvariant surroundings next := by
  refine ⟨?_, ?_, ?_, ?_, ?_⟩
  · rw [arrived]
    exact invariant.attached
  · unfold Mirrored
    rw [arrived, last, mirror]
    exact invariant.mirrored
  · rw [last, mirror]
    exact invariant.shownPlain
  · rw [last]
    exact invariant.long
  · rw [mirror]
    exact invariant.seen

include plainTarget takes in
/-- Any step: the mirror is kept exactly if a change does not erase in vain. -/
theorem step_mirrors {typing next : Typing} (invariant : TypingInvariant surroundings typing)
    {action : TypingAction} (taken : typingStep surroundings typing action = some next)
    (typeable : Typeable accepts typing action next) :
    (Mirrored surroundings next ↔ ErasesConnected typing action next) ∧
      (Mirrored surroundings next → TypingInvariant surroundings next) := by
  have unchanged : TypingInvariant surroundings next → ErasesConnected typing action next →
      (Mirrored surroundings next ↔ ErasesConnected typing action next) ∧
        (Mirrored surroundings next → TypingInvariant surroundings next) :=
    fun kept erases => ⟨⟨fun _ => erases, fun _ => kept.mirrored⟩, fun _ => kept⟩
  cases action with
  | change value =>
      by_cases handled : typing.interceptor.keyboardInputs = true ∧
          value ≠ typing.interceptor.lastTextRaw
      · exact handled_change_mirrors plainTarget takes invariant handled.1 handled.2 taken typeable
      · have unhandled : typing.interceptor.keyboardInputs = false ∨
            value = typing.interceptor.lastTextRaw := by
          by_cases off : typing.interceptor.keyboardInputs = false
          · exact .inl off
          · right
            by_contra differs
            exact handled ⟨Bool.eq_true_of_not_eq_false off, differs⟩
        have change := @unhandled_change { typing.interceptor with value } unhandled
        simp only [typingStep, Option.some.injEq] at taken
        rw [change, if_neg handled] at taken
        apply unchanged
        · apply invariant.of_same
          · subst taken
            rw [arrived_appended]
            rfl
          · subst taken
            rfl
          · subst taken
            rfl
        · cases unhandled with
          | inl off => exact .inl off
          | inr same =>
              right
              right
              left
              rw [same]
              exact agreement_self _
  | connect connected =>
      simp only [typingStep, Option.some.injEq] at taken
      subst taken
      exact unchanged (invariant.of_same rfl rfl rfl) trivial
  | enable keyboardInputs =>
      simp only [typingStep, Option.some.injEq] at taken
      subst taken
      exact unchanged (invariant.of_same rfl rfl rfl) trivial
  | deliver =>
      simp only [typingStep] at taken
      split at taken
      · simp at taken
      · rename_i message rest waiting
        rw [Option.some.injEq] at taken
        subst taken
        apply unchanged _ trivial
        apply invariant.of_same
        · unfold Typing.arrived
          rw [waiting]
          rfl
        · rfl
        · rfl

theorem start_invariant {interpreter : CommandInterpreter} (attached : interpreter.adapter = true)
    {text : Units} (plain : ∀ unit ∈ text, PlainUnit unit) (connected keyboardInputs : Bool) :
    TypingInvariant surroundings (startTyping interpreter text connected keyboardInputs) where
  attached := attached
  mirrored := by
    change text = text ++ []
    rw [List.append_nil]
  shownPlain := by
    change ∀ unit ∈ text ++ [], PlainUnit unit
    rw [List.append_nil]
    exact plain
  long := Nat.le_refl _
  seen := Nat.le_refl _

def BeginsWithSentinel (_ : Typing) : TypingAction → Typing → Prop
  | .change value, _ => sentinelTextForBackspace <+: value
  | _, _ => True

/-- The sentinel is in front, and all behind it is the item's text behind what it had. -/
def BehindSentinel (text : Units) (typing : Typing) : Prop :=
  sentinelTextForBackspace <+: typing.interceptor.lastTextRaw ∧
    typing.mirror = { kept := text, seen := sentinelTextForBackspace.length }

theorem retype_behind_sentinel {text former new : Units}
    (formerBegins : sentinelTextForBackspace <+: former) (begins : sentinelTextForBackspace <+: new) :
    Mirror.retype { kept := text, seen := sentinelTextForBackspace.length } former new =
      { kept := text, seen := sentinelTextForBackspace.length } := by
  obtain ⟨formerRest, rfl⟩ := formerBegins
  obtain ⟨rest, rfl⟩ := begins
  have long : ¬ (sentinelTextForBackspace ++ rest).length < sentinelTextForBackspace.length := by
    simp
  unfold Mirror.retype
  rw [if_neg long, ← first_change_agreement, first_change_append]
  simp

theorem step_behind_sentinel {text : Units} {typing next : Typing} {action : TypingAction}
    (behind : BehindSentinel text typing) (taken : typingStep surroundings typing action = some next)
    (begins : BeginsWithSentinel typing action next) : BehindSentinel text next := by
  cases action with
  | change value =>
      have long : ¬ value.length < sentinelTextForBackspace.length := by
        have length := List.IsPrefix.length_le begins
        omega
      simp only [typingStep, Option.some.injEq] at taken
      subst taken
      constructor
      · change sentinelTextForBackspace <+:
          ({ typing.interceptor with value } : TextInterceptor).handleTextInterceptorChange.1.lastTextRaw
        unfold TextInterceptor.handleTextInterceptorChange
        dsimp only
        rw [if_neg long]
        split_ifs
        · exact behind.1
        · exact behind.1
        · exact begins
        · split
          · exact behind.1
          · exact begins
      · dsimp only
        split_ifs
        · rw [behind.2]
          exact retype_behind_sentinel behind.1 begins
        · exact behind.2
  | connect connected =>
      simp only [typingStep, Option.some.injEq] at taken
      subst taken
      exact behind
  | enable keyboardInputs =>
      simp only [typingStep, Option.some.injEq] at taken
      subst taken
      exact behind
  | deliver =>
      simp only [typingStep] at taken
      split at taken
      · simp at taken
      · rw [Option.some.injEq] at taken
        subst taken
        exact behind

variable {interpreter : CommandInterpreter} {text : Units} {connected keyboardInputs : Bool}

def plainItem (text : Units) : AdapterCall → Units
  | .handleKeyEvent .keyPress key _ typed =>
      if key = CommandInterpreter.keyBackspace then text.dropLast else text ++ typed
  | _ => text

theorem plain_item_takes : TakesKeys plainItem fun _ => True where
  erases text unit _ := by simp [plainItem]
  erases_nothing := rfl
  inserts text key modifiers typed writing _ := by
    have other : key ≠ CommandInterpreter.keyBackspace := by
      unfold WritingKey CommandInterpreter.keyReturn at writing
      unfold CommandInterpreter.keyBackspace
      omega
    change (if key = CommandInterpreter.keyBackspace then text.dropLast else text ++ typed) = _
    rw [if_neg other]
  releases text key modifiers typed := rfl

end Runs

instance (accepts : Units → Prop) [DecidablePred accepts] (typing : Typing) (action : TypingAction)
    (next : Typing) : Decidable (Typeable accepts typing action next) :=
  match action with
  | .change value => inferInstanceAs (Decidable ((∀ unit ∈ value, PlainUnit unit) ∧ (_ ∨ accepts _)))
  | .connect _ => isTrue trivial
  | .enable _ => isTrue trivial
  | .deliver => isTrue trivial

instance (typing : Typing) (action : TypingAction) (next : Typing) :
    Decidable (ErasesConnected typing action next) :=
  match action with
  | .change _ => inferInstanceAs (Decidable (_ ∨ _ ∨ _ ∨ _))
  | .connect _ => isTrue trivial
  | .enable _ => isTrue trivial
  | .deliver => isTrue trivial

instance (typing : Typing) (action : TypingAction) (next : Typing) :
    Decidable (BeginsWithSentinel typing action next) :=
  match action with
  | .change value => inferInstanceAs (Decidable (sentinelTextForBackspace <+: value))
  | .connect _ => isTrue trivial
  | .enable _ => isTrue trivial
  | .deliver => isTrue trivial

def sampleSurroundings : Surroundings where
  decoder := strictDecoder
  casing :=
    { toUpper := fun text => text
      toLower := fun text => text
      isUpper := fun unit => 65 ≤ unit.toNat && unit.toNat ≤ 90
      unitToUpper := fun unit => if 97 ≤ unit.toNat && unit.toNat ≤ 122 then unit - 32 else unit }
  targetId := "display".toList
  item := plainItem

def sampleStart : Typing :=
  startTyping { adapter := true, keyDownKeyCode := 0, keyDownKeyCodeHandled := false }
    (utf16.encode "> ".toList) true true

/-- A word that is corrected before anything of it has arrived. -/
def sampleActions : List TypingAction :=
  [.change (utf16.encode "- hi".toList), .change (utf16.encode "- hü".toList), .deliver, .deliver,
    .deliver, .deliver, .deliver]

end Viridity.TypedText
