import Viridity.DisplayMessageText

/-!
# Input events of a display

The command interpreter of a display: it reads the mouse, key and text messages of a client
and hands the events they stand for to the scene's adapter. A key that writes is posted when
its `keyPress` arrives, any other key when its `keyDown` does; the interpreter remembers in
between which of the two the last `keyDown` was.
-/

namespace Viridity.InputCommands

open Viridity.NumberText
open Viridity.TextEncoding
open Viridity.TextScanning
open Viridity.ServerMessages
open Viridity.DisplayMessageText

set_option autoImplicit false

structure Casing where
  toUpper : Units → Units
  toLower : Units → Units
  isUpper : UInt16 → Bool
  unitToUpper : UInt16 → UInt16

inductive KeyEventType where
  | keyPress
  | keyRelease
deriving DecidableEq, Repr

inductive MouseEventType where
  | mouseMove
  | mouseButtonPress
  | mouseButtonRelease
  | mouseButtonDblClick
deriving DecidableEq, Repr

inductive MouseButton where
  | noButton
  | leftButton
  | middleButton
  | rightButton
deriving DecidableEq, Repr

/-- What the interpreter calls on its adapter. The buttons of a mouse event are its one
button. -/
inductive AdapterCall where
  | handleKeyEvent (type : KeyEventType) (key modifiers : Int) (text : Units)
  | handleMouseEvent (type : MouseEventType) (x y : Int) (button : MouseButton) (modifiers : Int)
  | handleMouseWheelEvent (deltaX deltaY x y : Int) (button : MouseButton) (modifiers : Int)
  | handleContextMenuEvent (x y modifiers : Int)
  | handleMouseEnterEvent (x y : Int) (button : MouseButton) (modifiers : Int)
  | handleMouseExitEvent (x y : Int) (button : MouseButton) (modifiers : Int)
deriving DecidableEq, Repr

section Parameters

/-- The number some digits write, if there is nothing else among them. -/
def digitsRead (digits : Units) : Option Nat :=
  if digits ≠ [] ∧ digits.all isDigit then some (digitsNumber digits) else none

def toIntConverted (text : Units) : Option Int :=
  let trimmed := ((text.dropWhile isSpace).reverse.dropWhile isSpace).reverse
  match trimmed with
  | [] => none
  | first :: digits =>
      if first = utf16.unit '-' then (digitsRead digits).map fun number : Nat => -(number : Int)
      else if first = utf16.unit '+' then (digitsRead digits).map fun number : Nat => (number : Int)
      else (digitsRead trimmed).map fun number : Nat => (number : Int)

theorem digits_read_get (digits : Units) : (digitsRead digits).getD 0 = digitsNumber digits := by
  unfold digitsRead
  by_cases readable : digits ≠ [] ∧ digits.all isDigit
  · rw [if_pos readable]
    rfl
  · rw [if_neg readable]
    unfold digitsNumber
    rw [if_neg readable]
    rfl

theorem to_int_converted_get (text : Units) : (toIntConverted text).getD 0 = toInt text := by
  have mapped : ∀ (digits : Units) (sign : Nat → Int), sign 0 = 0 →
      ((digitsRead digits).map sign).getD 0 = sign (digitsNumber digits) := by
    intro digits sign zeroSign
    rw [← digits_read_get]
    cases digitsRead digits with
    | none => exact zeroSign.symm
    | some number => rfl
  unfold toIntConverted toInt
  cases ((text.dropWhile isSpace).reverse.dropWhile isSpace).reverse with
  | nil => rfl
  | cons first digits =>
      dsimp only
      split_ifs with minus plus
      · exact mapped digits (fun number => -(number : Int)) rfl
      · exact mapped digits (fun number => (number : Int)) rfl
      · exact mapped (first :: digits) (fun number => (number : Int)) rfl

def parseParamKeyboardModifiers (params : List Units) (index : Nat) : Int :=
  match params[index]? with
  | some param => (toIntConverted param).getD 0
  | none => 0

def parseParamMouseButton (params : List Units) (index : Nat) : MouseButton :=
  match params[index]? with
  | some param =>
      match toIntConverted param with
      | some 1 => .leftButton
      | some 2 => .middleButton
      | some 3 => .rightButton
      | _ => .noButton
  | none => .noButton

/-- A point needs both numbers. -/
def parseParamPoint (params : List Units) (startIndex : Nat) : Int × Int :=
  match params[startIndex]?, params[startIndex + 1]? with
  | some first, some second =>
      match toIntConverted first, toIntConverted second with
      | some posX, some posY => (posX, posY)
      | _, _ => (0, 0)
  | _, _ => (0, 0)

end Parameters

/-- `keyDownKeyCode_` is not initialised: it is whatever the memory holds. -/
structure CommandInterpreter where
  adapter : Bool
  keyDownKeyCode : Int
  keyDownKeyCodeHandled : Bool
deriving DecidableEq, Repr

/-- The interpreter afterwards, its calls of the adapter and whether it handled the message. -/
structure Interpreted where
  interpreter : CommandInterpreter
  calls : List AdapterCall
  handled : Bool
deriving DecidableEq, Repr

namespace CommandInterpreter

def create (memory : Int) : CommandInterpreter where
  adapter := false
  keyDownKeyCode := memory
  keyDownKeyCodeHandled := false

def setTargetGraphicsSceneAdapter (interpreter : CommandInterpreter) (adapter : Bool) :
    CommandInterpreter :=
  { interpreter with adapter }

variable (casing : Casing) (interpreter : CommandInterpreter)

def endsWith (command : Units) (ending : String) : Bool :=
  (utf16.encode ending.toList).isSuffixOf command

def startsWith (message : Bytes) (beginning : String) : Bool :=
  (utf8.encode beginning.toList).isPrefixOf message

def ignored : Interpreted := { interpreter, calls := [], handled := false }

def calling (call : AdapterCall) : Interpreted :=
  { interpreter, calls := [call], handled := true }

def handleMouseEvent (command : Units) (params : List Units) : Interpreted :=
  let scenePos := parseParamPoint params 0
  let button := parseParamMouseButton params 2
  let modifiers := parseParamKeyboardModifiers params 3
  let mouse := fun type =>
    interpreter.calling (.handleMouseEvent type scenePos.1 scenePos.2 button modifiers)
  if endsWith command "Wheel" ∧ params.length ≥ 6 then
    let delta := parseParamPoint params 4
    interpreter.calling
      (.handleMouseWheelEvent delta.1 delta.2 scenePos.1 scenePos.2 button modifiers)
  else if command = utf16.encode "contextMenu".toList then
    interpreter.calling (.handleContextMenuEvent scenePos.1 scenePos.2 modifiers)
  else if endsWith command "Enter" then
    interpreter.calling (.handleMouseEnterEvent scenePos.1 scenePos.2 button modifiers)
  else if endsWith command "Exit" then
    interpreter.calling (.handleMouseExitEvent scenePos.1 scenePos.2 button modifiers)
  else if endsWith command "Move" then mouse .mouseMove
  else if endsWith command "Down" then mouse .mouseButtonPress
  else if endsWith command "Up" then mouse .mouseButtonRelease
  else if endsWith command "DblClick" then mouse .mouseButtonDblClick
  else interpreter.ignored

def shiftModifier : Int := 0x02000000

def textForKey (key modifiers : Int) : Units :=
  let text : Units := [UInt16.ofInt key]
  if modifiers / shiftModifier % 2 = 1 then casing.toUpper text else casing.toLower text

def keyBackspace : Int := 0x01000003
def keyReturn : Int := 0x01000004

/-- The `switch` of a `keyDown`: the `Qt::Key` of a key code that is posted at once. The keys
of the number pad are given a `Qt::Key` as well, but their press is left to `keyPress`. -/
def controlKey (keyCode : Int) : Option Int :=
  match keyCode with
  | 8 => some keyBackspace
  | 9 => some 0x01000001
  | 13 => some keyReturn
  | 19 => some 0x01000008
  | 27 => some 0x01000000
  | 33 => some 0x01000016
  | 34 => some 0x01000017
  | 35 => some 0x01000011
  | 36 => some 0x01000010
  | 37 => some 0x01000012
  | 38 => some 0x01000013
  | 39 => some 0x01000014
  | 40 => some 0x01000015
  | 44 => some 0x01000009
  | 45 => some 0x01000006
  | 46 => some 0x01000007
  | 112 => some 0x01000030
  | 113 => some 0x01000031
  | 114 => some 0x01000032
  | 115 => some 0x01000033
  | 116 => some 0x01000034
  | 117 => some 0x01000035
  | 118 => some 0x01000036
  | 119 => some 0x01000037
  | 120 => some 0x01000038
  | 121 => some 0x01000039
  | 122 => some 0x0100003A
  | 123 => some 0x0100003B
  | 144 => some 0x01000025
  | 145 => some 0x01000026
  | _ => none

def handleKeyEvent (command : Units) (params : List Units) : Interpreted :=
  let key := toInt (params.headD [])
  let modifiers := parseParamKeyboardModifiers params 1
  if endsWith command "Press" then
    if interpreter.keyDownKeyCodeHandled then interpreter.ignored
    else
      interpreter.calling (.handleKeyEvent .keyPress interpreter.keyDownKeyCode modifiers
        (textForKey casing key modifiers))
  else if endsWith command "Up" then
    interpreter.calling (.handleKeyEvent .keyRelease key modifiers [])
  else if endsWith command "Down" then
    match controlKey key with
    | some posted =>
        { interpreter with keyDownKeyCode := key, keyDownKeyCodeHandled := true }.calling
          (.handleKeyEvent .keyPress posted modifiers [])
    | none =>
        { interpreter with keyDownKeyCode := key, keyDownKeyCodeHandled := false }.ignored
  else interpreter.ignored

def keyOfText (text : Units) : Int × Int :=
  match text with
  | [unit] =>
      if text = utf16.encode ['\n'] then (keyReturn, 0)
      else if casing.isUpper unit then (unit.toNat, shiftModifier)
      else ((casing.unitToUpper unit).toNat, 0)
  | _ => (0, 0)

def handleTextEvent (decoder : Decoder) (params : List Units) : Interpreted :=
  let textBase64 := params.headD []
  let text := toQString decoder (Base64.decode (utf8.encode (decodeUtf16 textBase64)))
  let key := keyOfText casing text
  { interpreter
    calls := [.handleKeyEvent .keyPress key.1 key.2 text,
      .handleKeyEvent .keyRelease key.1 key.2 text]
    handled := true }

def canHandleMessage (message : Bytes) : Bool :=
  startsWith message "mouse" || startsWith message "key" || startsWith message "text" ||
    startsWith message "contextMenu"

def handleMessage (decoder : Decoder) (message : Bytes) : Interpreted :=
  if interpreter.adapter = false then interpreter.ignored
  else
    let split := splitMessage decoder message [] []
    if (startsWith message "mouse" || startsWith message "contextMenu") &&
        split.params.length ≥ 2 then
      interpreter.handleMouseEvent split.command split.params
    else if startsWith message "key" && split.params.length ≥ 1 then
      interpreter.handleKeyEvent casing split.command split.params
    else if startsWith message "text" && split.params.length ≥ 1 then
      interpreter.handleTextEvent casing decoder split.params
    else interpreter.ignored

end CommandInterpreter

section Messages

def CallLetter (letter : Char) : Prop :=
  Plain letter ∧ letter ≠ '(' ∧ letter ≠ ')' ∧ letter ≠ '>' ∧ letter ≠ ','

instance (letter : Char) : Decidable (CallLetter letter) :=
  inferInstanceAs (Decidable ((IsAscii letter ∧ letter ≠ zero) ∧ _))

theorem call_letters_checked {text : Text}
    (all : text.all (fun letter => decide (CallLetter letter)) = true) :
    ∀ letter ∈ text, CallLetter letter := by
  intro letter member
  exact of_decide_eq_true (List.all_eq_true.mp all letter member)

structure PlainTarget (target : Text) : Prop where
  nonempty : target ≠ []
  unmarked : '(' ∉ target ∧ '>' ∉ target
  kept : zero ∉ target ∧ target.head? ≠ some byteOrderMark

theorem call_read_back {decoder : Decoder} {target command : Text} {params : List Text}
    (plainTarget : PlainTarget target) (commandLetters : ∀ letter ∈ command, CallLetter letter)
    (nonempty : params ≠ []) (paramLetters : ∀ param ∈ params, ∀ letter ∈ param, CallLetter letter) :
    BareReadBack decoder target command params := by
  have apart : ∀ {letters : Text}, (∀ letter ∈ letters, CallLetter letter) →
      '(' ∉ letters ∧ ')' ∉ letters ∧ '>' ∉ letters ∧ ',' ∉ letters := by
    intro letters all
    refine ⟨fun member => ?_, fun member => ?_, fun member => ?_, fun member => ?_⟩
    · exact absurd (all _ member) (by decide)
    · exact absurd (all _ member) (by decide)
    · exact absurd (all _ member) (by decide)
    · exact absurd (all _ member) (by decide)
  have sendable : Sendable target command params ['.'] :=
    { target_nonempty := plainTarget.nonempty
      target_plain := plainTarget.unmarked
      command_plain := apart commandLetters
      params_nonempty := nonempty
      params_plain := fun param among => apart (paramLetters param among)
      payload_nonempty := by decide }
  have readable : Readable target command params ['.'] :=
    { target_kept := plainTarget.kept
      command_ascii := fun letter member => (commandLetters letter member).1
      params_ascii := fun param among letter member => (paramLetters param among letter member).1
      payload_begins := by decide }
  exact bare_read_back sendable readable

theorem number_text_call {number : Int} {letter : Char} (member : letter ∈ numberText number) :
    CallLetter letter := by
  have plain := number_text_plain member
  have other : ∀ mark : Char, mark ≠ '-' → ¬ (48 ≤ mark.toNat ∧ mark.toNat ≤ 57) → letter ≠ mark := by
    intro mark sign outside same
    rw [same] at member
    cases number_text_letters member with
    | inl hyphen => exact sign hyphen
    | inr bounds => exact outside bounds
  exact ⟨plain.1, other '(' (by decide) (by decide), plain.2.2.1, other '>' (by decide) (by decide),
    plain.2.1⟩

theorem base64_call {bytes : Bytes} {letter : Char}
    (member : letter ∈ (Base64.encode bytes).map byteLetter) : CallLetter letter := by
  obtain ⟨byte, among, rfl⟩ := List.mem_map.mp member
  cases Base64.encode_alphabet among with
  | inl found =>
      obtain ⟨value, bound, rfl⟩ := found
      have all : ∀ value < 64, CallLetter (byteLetter (Base64.digit value)) := by decide
      exact all value bound
  | inr filler =>
      rw [filler]
      decide

theorem base64_bytes (bytes : Bytes) :
    utf8.encode ((Base64.encode bytes).map byteLetter) = Base64.encode bytes := by
  have ascii : ∀ letter ∈ (Base64.encode bytes).map byteLetter, IsAscii letter :=
    fun letter member => (base64_call member).1.1
  rw [utf8.encode_ascii ascii, List.map_map]
  calc (Base64.encode bytes).map (utf8.unit ∘ byteLetter)
      = (Base64.encode bytes).map id := List.map_congr_left fun byte member =>
        byte_letter_ascii (ascii _ (List.mem_map_of_mem member))
    _ = Base64.encode bytes := List.map_id _

def keyCall (type : String) (which modifiers : Int) : Text :=
  call type.toList [numberText which, numberText modifiers]

/-- The message of a typed text, given as the bytes of its UTF-8. -/
def textCall (bytes : Bytes) : Text := call "text".toList [(Base64.encode bytes).map byteLetter]

variable {decoder : Decoder} {target : Text}

theorem key_call_read (plainTarget : PlainTarget target) {type : String}
    (letters : ∀ letter ∈ type.toList, CallLetter letter) (which modifiers : Int) :
    BareReadBack decoder target type.toList [numberText which, numberText modifiers] := by
  apply call_read_back plainTarget letters (by simp)
  intro param among letter member
  simp only [List.mem_cons, List.not_mem_nil, or_false] at among
  cases among with
  | inl same => exact number_text_call (same ▸ member)
  | inr same => exact number_text_call (same ▸ member)

theorem text_call_read (plainTarget : PlainTarget target) (bytes : Bytes) :
    BareReadBack decoder target "text".toList [(Base64.encode bytes).map byteLetter] := by
  apply call_read_back plainTarget (call_letters_checked (by decide)) (by simp)
  intro param among letter member
  rw [List.mem_singleton] at among
  exact base64_call (among ▸ member)

theorem call_starts (command : Text) (params : List Text) :
    utf8.encode command <+: utf8.encode (call command params) := by
  unfold call
  rw [Coding.encode_append]
  exact List.prefix_append _ _

theorem starts_with {message : Bytes} {front : String}
    (begins : utf8.encode front.toList <+: message) :
    CommandInterpreter.startsWith message front = true := by
  unfold CommandInterpreter.startsWith
  rw [List.isPrefixOf_iff_prefix]
  exact begins

theorem starts_otherwise {message : Bytes} {front other : String}
    (begins : utf8.encode front.toList <+: message)
    (shorter : ¬ utf8.encode other.toList <+: utf8.encode front.toList)
    (longer : ¬ utf8.encode front.toList <+: utf8.encode other.toList) :
    CommandInterpreter.startsWith message other = false := by
  unfold CommandInterpreter.startsWith
  rw [Bool.eq_false_iff, ne_eq, List.isPrefixOf_iff_prefix]
  intro otherBegins
  cases List.prefix_or_prefix_of_prefix otherBegins begins with
  | inl within => exact shorter within
  | inr beyond => exact longer beyond

theorem call_split {command : Text} {params : List Text}
    (read : BareReadBack decoder ['.'] command params) :
    splitMessage decoder (utf8.encode (call command params)) [] [] =
      { datagramStartIndex := -1
        command := utf16.encode command
        params := params.map utf16.encode } := by
  have split := read.2
  rw [split.1] at split
  exact split.2

theorem anyTarget : PlainTarget ['.'] := ⟨by decide, by decide, by decide⟩

variable {casing : Casing} {interpreter : CommandInterpreter}

theorem key_call_handled (attached : interpreter.adapter = true) {type : String}
    (letters : ∀ letter ∈ type.toList, CallLetter letter)
    (key : utf8.encode "key".toList <+: utf8.encode type.toList) (which modifiers : Int) :
    interpreter.handleMessage casing decoder (utf8.encode (keyCall type which modifiers)) =
      interpreter.handleKeyEvent casing (utf16.encode type.toList)
        [utf16.encode (numberText which), utf16.encode (numberText modifiers)] := by
  have split := call_split (@key_call_read decoder _ anyTarget type letters which modifiers)
  have begins := key.trans (call_starts type.toList [numberText which, numberText modifiers])
  have mouse := @starts_otherwise _ _ "mouse" begins (by decide) (by decide)
  have contextMenu := @starts_otherwise _ _ "contextMenu" begins (by decide) (by decide)
  have starts := starts_with begins
  unfold CommandInterpreter.handleMessage keyCall
  rw [if_neg (by simp [attached])]
  simp only [split, mouse, contextMenu, starts]
  rfl

theorem key_call_accepted {type : String} (key : utf8.encode "key".toList <+: utf8.encode type.toList)
    (which modifiers : Int) :
    CommandInterpreter.canHandleMessage (utf8.encode (keyCall type which modifiers)) = true := by
  have begins := key.trans (call_starts type.toList [numberText which, numberText modifiers])
  unfold CommandInterpreter.canHandleMessage keyCall
  rw [starts_with begins]
  simp

theorem text_call_handled (attached : interpreter.adapter = true) (bytes : Bytes) :
    interpreter.handleMessage casing decoder (utf8.encode (textCall bytes)) =
      let text := toQString decoder bytes
      let key := CommandInterpreter.keyOfText casing text
      { interpreter
        calls := [.handleKeyEvent .keyPress key.1 key.2 text,
          .handleKeyEvent .keyRelease key.1 key.2 text]
        handled := true } := by
  have split := call_split (@text_call_read decoder _ anyTarget bytes)
  have begins := call_starts "text".toList [(Base64.encode bytes).map byteLetter]
  have mouse := @starts_otherwise _ _ "mouse" begins (by decide) (by decide)
  have contextMenu := @starts_otherwise _ _ "contextMenu" begins (by decide) (by decide)
  have key := @starts_otherwise _ _ "key" begins (by decide) (by decide)
  have starts := starts_with begins
  have decoded : Base64.decode (utf8.encode (decodeUtf16 (utf16.encode
      ((Base64.encode bytes).map byteLetter)))) = bytes := by
    rw [decode_utf16_encoded, base64_bytes, Base64.decode_encode]
  unfold CommandInterpreter.handleMessage textCall
  rw [if_neg (by simp [attached])]
  simp only [split, mouse, contextMenu, key, starts]
  unfold CommandInterpreter.handleTextEvent
  simp only [List.map_cons, List.map_nil, List.headD_cons, decoded]
  rfl

theorem text_call_accepted (bytes : Bytes) :
    CommandInterpreter.canHandleMessage (utf8.encode (textCall bytes)) = true := by
  have begins := call_starts "text".toList [(Base64.encode bytes).map byteLetter]
  unfold CommandInterpreter.canHandleMessage textCall
  rw [starts_with begins]
  simp

section KeyEvents

variable (interpreter) (which modifiers : Int)

theorem modifiers_read :
    parseParamKeyboardModifiers
      [utf16.encode (numberText which), utf16.encode (numberText modifiers)] 1 = modifiers := by
  change (toIntConverted (utf16.encode (numberText modifiers))).getD 0 = modifiers
  rw [to_int_converted_get, to_int_number_text]

theorem key_down_posted {posted : Int}
    (control : CommandInterpreter.controlKey which = some posted) :
    interpreter.handleKeyEvent casing (utf16.encode "keyDown".toList)
        [utf16.encode (numberText which), utf16.encode (numberText modifiers)] =
      { interpreter := { interpreter with keyDownKeyCode := which, keyDownKeyCodeHandled := true }
        calls := [.handleKeyEvent .keyPress posted modifiers []]
        handled := true } := by
  have press : CommandInterpreter.endsWith (utf16.encode "keyDown".toList) "Press" = false := by decide
  have up : CommandInterpreter.endsWith (utf16.encode "keyDown".toList) "Up" = false := by decide
  have down : CommandInterpreter.endsWith (utf16.encode "keyDown".toList) "Down" = true := by decide
  unfold CommandInterpreter.handleKeyEvent
  simp only [modifiers_read, List.headD_cons, to_int_number_text, press, up, down, control]
  rfl

theorem key_press_ignored (handled : interpreter.keyDownKeyCodeHandled = true)
    (params : List Units) :
    interpreter.handleKeyEvent casing (utf16.encode "keyPress".toList) params =
      { interpreter, calls := [], handled := false } := by
  have press : CommandInterpreter.endsWith (utf16.encode "keyPress".toList) "Press" = true := by decide
  unfold CommandInterpreter.handleKeyEvent
  simp only [press, handled]
  rfl

theorem key_up_posted :
    interpreter.handleKeyEvent casing (utf16.encode "keyUp".toList)
        [utf16.encode (numberText which), utf16.encode (numberText modifiers)] =
      { interpreter
        calls := [.handleKeyEvent .keyRelease which modifiers []]
        handled := true } := by
  have press : CommandInterpreter.endsWith (utf16.encode "keyUp".toList) "Press" = false := by decide
  have up : CommandInterpreter.endsWith (utf16.encode "keyUp".toList) "Up" = true := by decide
  unfold CommandInterpreter.handleKeyEvent
  simp only [modifiers_read, List.headD_cons, to_int_number_text, press, up]
  rfl

end KeyEvents

end Messages

end Viridity.InputCommands
