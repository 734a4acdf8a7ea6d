import Viridity.TextEncoding
import Viridity.TextScanning

/-!
# Messages to the client

`ViriditySession::sendMessageToClient` puts the target before a message. `parseMessage` of
`Viridity.js` reads target, command, parameters and data back, from a string or from the
bytes of a binary frame.
-/

namespace Viridity.ClientMessages

open Viridity.TextEncoding
open Viridity.TextScanning

set_option autoImplicit false

/-- The message queue of a session after one message to the client. -/
def sendMessageToClient (messages : List Bytes) (message : Bytes) (targetId : Text) : List Bytes :=
  if targetId = [] then messages ++ [message]
  else messages ++ [utf8.encode targetId ++ utf8.unit '>' :: message]

/-- `Uint8Array.convertToString`: malformed bytes give the empty string. -/
def convertToString (bytes : Bytes) : Units :=
  match decodeUtf8 bytes with
  | some text => utf16.encode text
  | none => []

/-- The code units `\s` matches. -/
def isWhiteSpace (code : Nat) : Bool :=
  (9 ≤ code && code ≤ 13) || code == 0x20 || code == 0xA0 || code == 0x1680 ||
    (0x2000 ≤ code && code ≤ 0x200A) || code == 0x2028 || code == 0x2029 || code == 0x202F ||
    code == 0x205F || code == 0x3000 || code == 0xFEFF

/-- The code units at which `/[\s,]+/` splits. -/
def isSeparator (unit : UInt16) : Bool := isWhiteSpace unit.toNat || unit == utf16.unit ','

structure ParsedMessage (Unit : Type) where
  message : List Unit
  targetId : Option Units
  paramStartIndex : Int
  paramEndIndex : Int
  dataStartIndex : Int
  command : Units
  params : List Units
deriving DecidableEq

def ParsedMessage.data {Unit : Type} (parsed : ParsedMessage Unit) (start stop : Option Int) :
    List Unit :=
  slice parsed.message (parsed.dataStartIndex + start.getD 0)
    (stop.map fun stop => parsed.dataStartIndex + stop)

section Views

variable {Unit : Type} [DecidableEq Unit] (coding : Coding Unit) (asString : List Unit → Units)

/-- What `parseMessage` reads once the target has been cut off. -/
def parseRest (targetId : Option Units) (msgView : List Unit) (paramStartIndex : Int) :
    ParsedMessage Unit :=
  let paramEndIndex := position (coding.unit ')') msgView
  { message := msgView
    targetId := targetId
    paramStartIndex := paramStartIndex
    paramEndIndex := paramEndIndex
    dataStartIndex := paramEndIndex + 2
    command := asString (slice msgView 0 (some paramStartIndex))
    params := splitRuns isSeparator false
      (asString (slice msgView (paramStartIndex + 1) (some paramEndIndex))) }

def parseView (msgView : List Unit) : ParsedMessage Unit :=
  let paramStartIndex := position (coding.unit '(') msgView
  let bm := slice msgView 0 (some paramStartIndex)
  let indexOfMarker := position (coding.unit '>') bm
  if indexOfMarker > -1 then
    parseRest coding asString (some (asString (slice msgView 0 (some indexOfMarker))))
      (slice msgView (indexOfMarker + 1) none) (paramStartIndex - (indexOfMarker + 1))
  else parseRest coding asString none msgView paramStartIndex

variable {coding asString}

theorem parse_rest_spec {command params payload : List Unit} {colon : Unit}
    (commandPlain : coding.unit ')' ∉ command) (paramsPlain : coding.unit ')' ∉ params)
    (targetId : Option Units) :
    let msgView := command ++ coding.unit '(' :: (params ++ coding.unit ')' :: colon :: payload)
    parseRest coding asString targetId msgView command.length =
      { message := msgView
        targetId := targetId
        paramStartIndex := command.length
        paramEndIndex := (command.length + 1 + params.length : Nat)
        dataStartIndex := (command.length + 1 + params.length + 2 : Nat)
        command := asString command
        params := splitRuns isSeparator false (asString params) } := by
  intro msgView
  have apart : coding.unit ')' ≠ coding.unit '(' := by
    intro same
    exact absurd (coding.unit_inj ')' (by decide) '(' (by decide) same) (by decide)
  have front : msgView = (command ++ [coding.unit '(']) ++
      (params ++ coding.unit ')' :: colon :: payload) := by
    simp [msgView]
  have stop : position (coding.unit ')') msgView = (command.length + 1 + params.length : Nat) := by
    have absent : coding.unit ')' ∉ (command ++ [coding.unit '(']) ++ params := by
      simp [commandPlain, paramsPlain, apart]
    have found := position_append absent (colon :: payload)
    rw [List.append_assoc, ← front] at found
    rw [found]
    simp
    omega
  have commandRead : slice msgView 0 (some (command.length : Int)) = command := by
    exact slice_front command _
  have paramsRead : slice msgView (command.length + 1)
      (some ((command.length + 1 + params.length : Nat) : Int)) = params := by
    have middle := slice_middle (command ++ [coding.unit '(']) params
      (coding.unit ')' :: colon :: payload)
    rw [← front] at middle
    simpa using middle
  unfold parseRest
  simp only [stop, commandRead, paramsRead]
  rfl

theorem parse_untargeted {command : List Unit} (commandPlain : coding.unit '(' ∉ command)
    (unmarked : coding.unit '>' ∉ command) (rest : List Unit) :
    parseView coding asString (command ++ coding.unit '(' :: rest) =
      parseRest coding asString none (command ++ coding.unit '(' :: rest) command.length := by
  unfold parseView
  simp only [position_append commandPlain, slice_front, position_absent unmarked]
  rfl

theorem parse_targeted {target command : List Unit} (targetPlain : coding.unit '(' ∉ target)
    (unmarked : coding.unit '>' ∉ target) (commandPlain : coding.unit '(' ∉ command)
    (rest : List Unit) :
    parseView coding asString (target ++ coding.unit '>' :: (command ++ coding.unit '(' :: rest)) =
      parseRest coding asString (some (asString target)) (command ++ coding.unit '(' :: rest)
        command.length := by
  have apart : coding.unit '(' ≠ coding.unit '>' := by
    intro same
    exact absurd (coding.unit_inj '(' (by decide) '>' (by decide) same) (by decide)
  have whole : target ++ coding.unit '>' :: (command ++ coding.unit '(' :: rest)
      = (target ++ coding.unit '>' :: command) ++ coding.unit '(' :: rest := by
    simp
  have start : position (coding.unit '(')
      (target ++ coding.unit '>' :: (command ++ coding.unit '(' :: rest)) =
        (target ++ coding.unit '>' :: command).length := by
    rw [whole]
    apply position_append
    simp [targetPlain, commandPlain, apart]
  have marker : position (coding.unit '>') (target ++ coding.unit '>' :: command)
      = target.length := position_append unmarked command
  have bm : slice (target ++ coding.unit '>' :: (command ++ coding.unit '(' :: rest)) 0
      (some ((target ++ coding.unit '>' :: command).length : Int)) =
        target ++ coding.unit '>' :: command := by
    rw [whole]
    exact slice_front _ _
  have view : slice (target ++ coding.unit '>' :: (command ++ coding.unit '(' :: rest))
      (target.length + 1) none = command ++ coding.unit '(' :: rest := by
    have cut := slice_rest (target ++ [coding.unit '>']) (command ++ coding.unit '(' :: rest)
    simpa using cut
  have found : (target.length : Int) > -1 := by omega
  have moved : ((target ++ coding.unit '>' :: command).length : Int) - (target.length + 1)
      = command.length := by
    simp only [List.length_append, List.length_cons]
    omega
  unfold parseView
  simp only [start, bm, marker, found, if_true, slice_front, view, moved]

theorem before_opening (msgView : List Unit) :
    coding.unit '(' ∉ slice msgView 0 (some (position (coding.unit '(') msgView)) := by
  by_cases opened : coding.unit '(' ∈ msgView
  · have cut := left_position (coding.unit '(') msgView
    unfold position left at cut
    rw [if_pos opened, Int.toNat_natCast] at cut
    unfold position
    rw [if_pos opened]
    have front := slice_natural msgView 0 (msgView.idxOf (coding.unit '('))
    rw [List.drop_zero, cut] at front
    intro member
    exact before_absent _ _ (front ▸ member)
  · intro member
    exact opened ((List.take_sublist _ _).mem ((List.drop_sublist _ _).mem member))

theorem target_plain {msgView : List Unit} {targetId : Units}
    (read : (parseView coding asString msgView).targetId = some targetId) :
    ∃ part : List Unit, targetId = asString part ∧ coding.unit '(' ∉ part ∧
      coding.unit '>' ∉ part := by
  let bm := slice msgView 0 (some (position (coding.unit '(') msgView))
  have unopened : coding.unit '(' ∉ bm := before_opening msgView
  unfold parseView at read
  simp only at read
  split_ifs at read with found
  · have marked : coding.unit '>' ∈ bm := by
      by_contra absent
      rw [position_absent absent] at found
      exact absurd found (by decide)
    have place : position (coding.unit '>') bm = (bm.idxOf (coding.unit '>') : Nat) := by
      unfold position
      rw [if_pos marked]
    have part : slice msgView 0 (some (position (coding.unit '>') bm)) =
        before (coding.unit '>') bm := by
      have cut := left_position (coding.unit '>') bm
      have inside := List.idxOf_lt_length_of_mem marked
      unfold left at cut
      rw [place, Int.toNat_natCast] at cut
      have whole : bm = msgView.take (clampIndex msgView.length (position (coding.unit '(') msgView)) :=
        slice_start msgView _
      have front := slice_natural msgView 0 (bm.idxOf (coding.unit '>'))
      have early : msgView.take (bm.idxOf (coding.unit '>')) = bm.take (bm.idxOf (coding.unit '>')) := by
        have short := congrArg List.length whole
        rw [List.length_take] at short
        nth_rewrite 3 [whole]
        rw [List.take_take, Nat.min_eq_left (by omega)]
      rw [List.drop_zero, early, cut] at front
      rw [place]
      exact front
    refine ⟨before (coding.unit '>') bm, ?_, ?_, before_absent _ _⟩
    · rw [← part]
      exact (Option.some.inj read).symm
    · intro member
      exact unopened ((before_sublist _ _).mem member)
  · exact absurd read (by simp [parseRest])

end Views

theorem data_spec {Unit : Type} {front payload : List Unit} {parsed : ParsedMessage Unit}
    (message : parsed.message = front ++ payload)
    (dataStart : parsed.dataStartIndex = (front.length : Nat)) (start stop : Option Nat) :
    parsed.data (start.map Nat.cast) (stop.map Nat.cast) =
      (stop.elim payload payload.take).drop (start.getD 0) := by
  have first : parsed.dataStartIndex + (start.map (Nat.cast : Nat → Int)).getD 0
      = (front.length + start.getD 0 : Nat) := by
    rw [dataStart]
    cases start <;> simp
  unfold ParsedMessage.data
  rw [first, message, dataStart]
  cases stop with
  | none =>
      simp only [Option.map_none, slice_from]
      exact List.drop_length_add_append _
  | some stop =>
      have last : some ((front.length : Int) + stop) = some ((front.length + stop : Nat) : Int) := by
        simp
      simp only [Option.map_some, last, slice_natural]
      rw [List.take_length_add_append, List.drop_length_add_append]
      rfl

/-- `command(p1,...,pn):`, the part of a message before its data. -/
def header (command : Text) (params : List Text) : Text :=
  command ++ '(' :: ([','].intercalate params ++ [')', ':'])

/-- Commands and parameters that the reader does not cut in the middle. -/
structure PlainHeader (command : Text) (params : List Text) : Prop where
  command_plain : '(' ∉ command ∧ ')' ∉ command ∧ '>' ∉ command
  params_nonempty : params ≠ []
  params_plain : ∀ param ∈ params, param ≠ [] ∧ ',' ∉ param ∧ ')' ∉ param ∧
    ∀ letter ∈ param, isWhiteSpace letter.toNat = false

/-- The message is read as sent, and its data is cut as the payload is. -/
def ReadAs {Unit : Type} (parsed : ParsedMessage Unit) (target command : Text) (params : List Text)
    (payload : List Unit) : Prop :=
  parsed.targetId = (if target = [] then none else some (utf16.encode target)) ∧
    parsed.command = utf16.encode command ∧ parsed.params = params.map utf16.encode ∧
    ∀ start stop : Option Nat, parsed.data (start.map Nat.cast) (stop.map Nat.cast) =
      (stop.elim payload payload.take).drop (start.getD 0)

theorem plain_units {letter : Char} (plain : isWhiteSpace letter.toNat = false)
    (other : letter ≠ ',') : ∀ unit ∈ utf16.units letter, isSeparator unit = false := by
  intro unit member
  have comma : unit ≠ utf16.unit ',' := by
    intro same
    rw [same] at member
    exact other ((utf16.unit_mem_units (by decide)).mp member).symm
  have space : isWhiteSpace unit.toNat = false := by
    have bound := char_lt letter
    simp only [utf16] at member
    split_ifs at member with small
    · rw [List.mem_singleton] at member
      have code : unit.toNat = letter.toNat := by
        rw [member]
        simp
        omega
      rw [code]
      exact plain
    · have surrogate : 0xD800 ≤ unit.toNat ∧ unit.toNat < 0xE000 := by
        simp only [List.mem_cons, List.not_mem_nil, or_false] at member
        cases member with
        | inl high => subst high; simp; omega
        | inr low => subst low; simp; omega
      simp [isWhiteSpace]
      omega
  simp [isSeparator, space, comma]

theorem params_read {command : Text} {params : List Text} (plain : PlainHeader command params) :
    splitRuns isSeparator false (utf16.encode ([','].intercalate params)) =
      params.map utf16.encode := by
  rw [utf16.encode_intercalate (by decide)]
  apply split_run_intercalate
  · decide
  · simp [plain.params_nonempty]
  · intro piece member
    rw [List.mem_map] at member
    obtain ⟨param, among, rfl⟩ := member
    have letters := plain.params_plain param among
    have units : ∀ unit ∈ utf16.encode param, isSeparator unit = false := by
      intro unit inside
      obtain ⟨letter, present, inside⟩ := List.mem_flatMap.mp inside
      apply plain_units (letters.2.2.2 letter present) _ unit inside
      intro comma
      rw [comma] at present
      exact letters.2.1 present
    have begun : utf16.encode param ≠ [] := by
      rw [ne_eq, utf16.encode_nil_iff]
      exact letters.1
    exact ⟨begun, units⟩

/-- One lemma for both representations: the view is the encoded header and the payload. -/
theorem read_view {Unit : Type} [DecidableEq Unit] {coding : Coding Unit}
    {asString : List Unit → Units} {target command : Text} {params : List Text}
    (strings : ∀ text ∈ [target, command, [','].intercalate params],
      asString (coding.encode text) = utf16.encode text)
    (plain : PlainHeader command params) (targetPlain : '(' ∉ target ∧ '>' ∉ target)
    (payload : List Unit) :
    ReadAs (parseView coding asString
        ((if target = [] then [] else coding.encode target ++ [coding.unit '>']) ++
          (coding.encode (header command params) ++ payload)))
      target command params payload := by
  have opening := fun text : Text => @Coding.unit_mem_encode _ coding '(' (by decide) text
  have closing := fun text : Text => @Coding.unit_mem_encode _ coding ')' (by decide) text
  have marker := fun text : Text => @Coding.unit_mem_encode _ coding '>' (by decide) text
  have paramsPlain : ')' ∉ [','].intercalate params := by
    intro member
    cases mem_intercalate member with
    | inl same => exact absurd same (by decide)
    | inr found =>
        obtain ⟨param, among, inside⟩ := found
        exact (plain.params_plain param among).2.2.1 inside
  let front := coding.encode command ++ coding.unit '(' ::
    (coding.encode ([','].intercalate params) ++ [coding.unit ')', coding.unit ':'])
  have written : coding.encode (header command params) ++ payload = coding.encode command ++
      coding.unit '(' :: (coding.encode ([','].intercalate params) ++
        coding.unit ')' :: coding.unit ':' :: payload) := by
    have ascii := fun letter (given : IsAscii letter) => coding.units_ascii letter given
    simp [header, ascii '(' (by decide), ascii ')' (by decide), ascii ':' (by decide)]
  have rest := fun targetId : Option Units => @parse_rest_spec _ _ coding asString
    (coding.encode command) (coding.encode ([','].intercalate params)) payload (coding.unit ':')
    (by rw [closing]; exact plain.command_plain.2.1) (by rw [closing]; exact paramsPlain) targetId
  have readRest : ∀ targetId, targetId = (if target = [] then none else some (utf16.encode target)) →
      ReadAs (parseRest coding asString targetId (coding.encode (header command params) ++ payload)
        (coding.encode command).length) target command params payload := by
    intro targetId same
    rw [written, rest]
    refine ⟨same, strings command (by simp), ?_, ?_⟩
    · show splitRuns isSeparator false (asString (coding.encode ([','].intercalate params))) = _
      rw [strings _ (by simp)]
      exact params_read plain
    · intro start stop
      apply @data_spec _ front payload
      · simp [front]
      · simp [front]
        omega
  by_cases untargeted : target = []
  · rw [if_pos untargeted, List.nil_append]
    have read := readRest none (by rw [if_pos untargeted])
    rw [written] at read ⊢
    rw [parse_untargeted (by rw [opening]; exact plain.command_plain.1)
      (by rw [marker]; exact plain.command_plain.2.2)]
    exact read
  · rw [if_neg untargeted, List.append_assoc, List.singleton_append]
    have read := readRest (some (asString (coding.encode target)))
      (by rw [if_neg untargeted, strings target List.mem_cons_self])
    rw [written] at read ⊢
    rw [parse_targeted (by rw [opening]; exact targetPlain.1)
      (by rw [marker]; exact targetPlain.2) (by rw [opening]; exact plain.command_plain.1)]
    exact read

def parseText (msg : Units) : ParsedMessage UInt16 := parseView utf16 id msg

def parseBinary (msg : Bytes) : ParsedMessage UInt8 := parseView utf8 convertToString msg

theorem convert_encoded (text : Text) : convertToString (utf8.encode text) = utf16.encode text := by
  unfold convertToString
  rw [decode_encoded]

theorem message_queued (messages : List Bytes) (message : Bytes) (target : Text) :
    sendMessageToClient messages message target = messages ++
      [(if target = [] then [] else utf8.encode target ++ [utf8.unit '>']) ++ message] := by
  unfold sendMessageToClient
  split_ifs <;> simp

def addressed (target message : Text) : Text :=
  (if target = [] then [] else target ++ ['>']) ++ message

theorem encode_addressed {Unit : Type} (coding : Coding Unit) (target message : Text) :
    coding.encode (addressed target message) =
      (if target = [] then [] else coding.encode target ++ [coding.unit '>']) ++
        coding.encode message := by
  unfold addressed
  rw [coding.encode_append]
  split_ifs <;> simp [coding.units_ascii '>' (by decide)]

theorem text_queued (messages : List Bytes) (message target : Text) :
    sendMessageToClient messages (utf8.encode message) target =
      messages ++ [utf8.encode (addressed target message)] := by
  rw [message_queued, encode_addressed]

def imageHeader : Text := header ['i'] [['1'], ['p', 'n', 'g']]

end Viridity.ClientMessages
