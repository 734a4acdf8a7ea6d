import Viridity.CanvasPainting
import Viridity.ClientMessages
import Viridity.InputCommands

/-!
# What the renderer reads

The strings a display's callback gets of a message: a command, parameters that it makes numbers
of where it needs them, and data that names an image, contains it as a string or is the image.
All of it is what the display wrote, whichever of the two forms the message came in.
-/

namespace Viridity.RendererMessages

open Viridity.QtRectangle
open Viridity.ImageAux
open Viridity.Compositing
open Viridity.TextEncoding
open Viridity.TextScanning
open Viridity.ServerMessages
open Viridity.ClientMessages
open Viridity.SceneDisplay
open Viridity.FrameFlow
open Viridity.PlayerPainting
open Viridity.PatchRequests
open Viridity.PatchGeometry
open Viridity.NumberText
open Viridity.DisplayMessageText
open Viridity.InputCommands
open Viridity.CanvasPainting
open GraphicsSceneDisplay (announcedType isInline operationMessages)

set_option autoImplicit false

section Numbers

/-- The value of a digit of any radix up to 36, which is that of no other unit. -/
def digitValue (unit : UInt16) : Nat :=
  let code := unit.toNat
  if 48 ≤ code ∧ code ≤ 57 then code - 48
  else if 65 ≤ code ∧ code ≤ 90 then code - 55
  else if 97 ≤ code ∧ code ≤ 122 then code - 87
  else 36

def parseNatural (text : Units) : Option Nat :=
  let hexadecimal := (qString "0x").isPrefixOf text || (qString "0X").isPrefixOf text
  let radix := if hexadecimal then 16 else 10
  let digits := (if hexadecimal then text.drop 2 else text).takeWhile fun unit =>
    digitValue unit < radix
  if digits = [] then none
  else some (digits.foldl (fun number unit => radix * number + digitValue unit) 0)

/-- `parseInt`; `none` is `NaN`. -/
def parseInt (text : Units) : Option Int :=
  match text.dropWhile fun unit => isWhiteSpace unit.toNat with
  | [] => none
  | first :: rest =>
      if first = utf16.unit '-' then (parseNatural rest).map fun number : Nat => -(number : Int)
      else if first = utf16.unit '+' then (parseNatural rest).map Nat.cast
      else (parseNatural (first :: rest)).map Nat.cast

theorem digit_value_decimal {unit : UInt16} (digit : isDigit unit = true) :
    digitValue unit = unit.toNat - 48 ∧ digitValue unit < 10 := by
  unfold isDigit at digit
  rw [Bool.and_eq_true, decide_eq_true_eq, decide_eq_true_eq] at digit
  have value : digitValue unit = unit.toNat - 48 := if_pos digit
  omega

theorem parse_natural_digits {digits : Units} (nonempty : digits ≠ [])
    (plain : ∀ unit ∈ digits, isDigit unit = true) :
    parseNatural digits = some (digitsNumber digits) := by
  have decimal : ((qString "0x").isPrefixOf digits || (qString "0X").isPrefixOf digits) = false := by
    rw [Bool.or_eq_false_iff]
    constructor
    · rw [Bool.eq_false_iff]
      intro begins
      have member := (List.isPrefixOf_iff_prefix.mp begins).subset
        (show utf16.unit 'x' ∈ qString "0x" by decide)
      exact absurd (plain _ member) (by decide)
    · rw [Bool.eq_false_iff]
      intro begins
      have member := (List.isPrefixOf_iff_prefix.mp begins).subset
        (show utf16.unit 'X' ∈ qString "0X" by decide)
      exact absurd (plain _ member) (by decide)
  have whole : digits.takeWhile (fun unit => decide (digitValue unit < 10)) = digits := by
    rw [List.takeWhile_eq_self_iff]
    intro unit member
    rw [decide_eq_true_eq]
    exact (digit_value_decimal (plain unit member)).2
  have folded : ∀ (units : Units) (start : Nat), (∀ unit ∈ units, isDigit unit = true) →
      units.foldl (fun number unit => 10 * number + digitValue unit) start =
        units.foldl (fun number unit => 10 * number + (unit.toNat - 48)) start := by
    intro units
    induction units with
    | nil => exact fun start _ => rfl
    | cons unit units induction =>
        intro start digits
        rw [List.forall_mem_cons] at digits
        rw [List.foldl_cons, List.foldl_cons, (digit_value_decimal digits.1).1, induction _ digits.2]
  unfold parseNatural digitsNumber
  simp only [decimal, Bool.false_eq_true, if_false, whole]
  rw [if_neg nonempty, if_pos ⟨nonempty, List.all_eq_true.mpr plain⟩, folded _ 0 plain]

theorem number_digits (natural : Nat) :
    utf16.encode (Nat.toDigits 10 natural) ≠ [] ∧
      ∀ unit ∈ utf16.encode (Nat.toDigits 10 natural), isDigit unit = true := by
  have digits : ∀ letter ∈ Nat.toDigits 10 natural, 48 ≤ letter.toNat ∧ letter.toNat ≤ 57 :=
    fun letter inside =>
      digit_plain (Nat.isDigit_of_mem_toDigits (by decide) (Nat.le_refl 10) inside)
  have ascii : ∀ letter ∈ Nat.toDigits 10 natural, IsAscii letter := by
    intro letter inside
    have bounds := digits letter inside
    unfold IsAscii
    omega
  constructor
  · rw [ne_eq, utf16.encode_nil_iff]
    exact Nat.toDigits_ne_nil
  · rw [utf16.encode_ascii ascii]
    intro unit member
    obtain ⟨letter, inside, rfl⟩ := List.mem_map.mp member
    unfold isDigit
    rw [unit_to_nat (ascii letter inside), Bool.and_eq_true, decide_eq_true_eq, decide_eq_true_eq]
    exact digits letter inside

theorem parse_int_number_text (number : Int) :
    parseInt (utf16.encode (numberText number)) = some number := by
  have digits := number_digits number.natAbs
  have natural := parse_natural_digits digits.1 digits.2
  rw [digits_number_read] at natural
  by_cases negative : number < 0
  · have written : utf16.encode (numberText number) =
        utf16.unit '-' :: utf16.encode (Nat.toDigits 10 number.natAbs) := by
      unfold numberText
      rw [if_pos negative, utf16.encode_ascii_cons (by decide)]
    unfold parseInt
    rw [written, List.dropWhile_cons_of_neg (by decide)]
    dsimp only
    rw [if_pos rfl, natural, Option.map_some]
    congr 1
    omega
  · have written : numberText number = Nat.toDigits 10 number.natAbs := by
      unfold numberText
      rw [if_neg negative]
    rw [written]
    cases units : utf16.encode (Nat.toDigits 10 number.natAbs) with
    | nil => exact absurd units digits.1
    | cons first rest =>
        rw [units] at natural digits
        have digit := digits.2 first List.mem_cons_self
        have visible : isWhiteSpace first.toNat = false := by
          unfold isDigit at digit
          rw [Bool.and_eq_true, decide_eq_true_eq, decide_eq_true_eq] at digit
          unfold isWhiteSpace
          simp
          omega
        unfold parseInt
        rw [List.dropWhile_cons_of_neg (by rw [visible]; decide)]
        dsimp only
        rw [if_neg, if_neg, natural, Option.map_some]
        · congr 1
          omega
        · intro plus
          rw [plus] at digit
          exact absurd digit (by decide)
        · intro minus
          rw [minus] at digit
          exact absurd digit (by decide)

end Numbers

/-- What `parseMessage` makes of a string or of the bytes of a binary frame. -/
inductive CallbackMessage where
  | text (t : ParsedMessage UInt16)
  | binary (t : ParsedMessage UInt8)
deriving DecidableEq

namespace CallbackMessage

def targetId : CallbackMessage → Option Units
  | .text t => t.targetId
  | .binary t => t.targetId

def command : CallbackMessage → Units
  | .text t => t.command
  | .binary t => t.command

def params : CallbackMessage → List Units
  | .text t => t.params
  | .binary t => t.params

def dataAsString (message : CallbackMessage) (start stop : Option Int) : Units :=
  match message with
  | .text t => t.data start stop
  | .binary t => convertToString (t.data start stop)

end CallbackMessage

/-- What the display's side of a connection sends: text, or bytes when it asked for these. -/
inductive ServerFrame where
  | text (message : Bytes)
  | binary (message : Bytes)
deriving DecidableEq

def ServerFrame.ofMessage (returnBinary : Bool) (message : Bytes) : ServerFrame :=
  if returnBinary then .binary message else .text message

def parseMessage (decoder : Decoder) : ServerFrame → CallbackMessage
  | .text message => .text (parseText (utf16.encode (decoder.decode message)))
  | .binary message => .binary (parseBinary message)

/-- What `img.src` is set to: an address, a data URL of a type and its data, or the data URL a
`FileReader` makes of bytes. -/
inductive ImageSource where
  | address (url : Units)
  | dataUrl (contentType data : Units)
  | blob (contentType : Units) (bytes : Bytes)
deriving DecidableEq

structure PatchImage where
  inputParams : List Units
  isPackedAlpha : Bool
  margin : Option Int
  src : ImageSource
deriving DecidableEq

/-- `rgba(red,green,blue,alpha / 255)`. -/
structure FillStyle where
  red : Units
  green : Units
  blue : Units
  alpha : Units
deriving DecidableEq

/-- `contentType.replace(";pa", "")`: the first occurrence goes. -/
def withoutFirst (pattern : Units) : Units → Units
  | [] => []
  | unit :: rest =>
      if pattern.isPrefixOf (unit :: rest) then (unit :: rest).drop pattern.length
      else unit :: withoutFirst pattern rest

def paramAt (params : List Units) (index : Nat) : Units := params.getD index []

/-- Where a `dI` has its image from; `sessionUrl` is `v.fullLocation + "/" + v.sessionId`. -/
def imageSource (sessionUrl : Text) (t : CallbackMessage) (contentType : Units) : ImageSource :=
  if t.dataAsString (some 0) (some 3) = qString "fb:" then
    .address (utf16.encode sessionUrl ++ qString "/p/" ++ t.dataAsString (some 3) none)
  else if t.dataAsString (some 0) (some 4) = qString "http" then
    .address (t.dataAsString none none)
  else
    match t with
    | .binary parsed =>
        if qString "base64" <:+: contentType then
          .dataUrl contentType (convertToString (parsed.data none none))
        else .blob contentType (parsed.data none none)
    | .text parsed => .dataUrl contentType (parsed.data none none)

def contentTypeOf (announced : Units) : Units :=
  if qString ";pa" <:+: announced then withoutFirst (qString ";pa") announced else announced

def patchImage (sessionUrl : Text) (t : CallbackMessage) : PatchImage where
  inputParams := t.params
  isPackedAlpha := decide (qString ";pa" <:+: paramAt t.params 6)
  margin := parseInt (paramAt t.params 5)
  src := imageSource sessionUrl t (contentTypeOf (paramAt t.params 6))

/-- The colour of a style, with components beyond the range at its ends. A style with anything
else in it has none. -/
def FillStyle.colour (style : FillStyle) : QColor :=
  match parseInt style.red, parseInt style.green, parseInt style.blue, parseInt style.alpha with
  | some red, some green, some blue, some alpha =>
      colourOf (max 0 (min 255 red)) (max 0 (min 255 green)) (max 0 (min 255 blue))
        (max 0 (min 255 alpha))
  | _, _, _, _ => none

def PatchImage.paint (codec : PatchCodec) (data : Bytes) (image : PatchImage)
    (canvas : QPoint → CanvasPixel) : QPoint → CanvasPixel :=
  match parseInt (paramAt image.inputParams 1), parseInt (paramAt image.inputParams 2),
      parseInt (paramAt image.inputParams 3), parseInt (paramAt image.inputParams 4), image.margin with
  | some dstX, some dstY, some imgWidth, some imgHeight, some margin =>
      renderImage (codec.loadFromData data) image.isPackedAlpha dstX dstY imgWidth imgHeight margin
        canvas
  | _, _, _, _, _ => canvas

/-- What was handed out for a patch identifier that was read off a URL. -/
def handedOutNamed (name : Units) : DisplayEvent → Option Bytes
  | .tookPatch taken (some patch) => if qString taken = name then some patch.data else none
  | .tookPatch _ none => none
  | .sent _ => none
  | .ready => none
  | .forcedFullUpdate => none

/-- The data an image can be loaded from, given what the display has handed out. A data URL that
is not in Base64 is left out. -/
def ImageSource.loaded (decoder : Decoder) (log : List DisplayEvent) : ImageSource → Option Bytes
  | .address url =>
      log.findSome? (handedOutNamed (patchIdOfUrl decoder (utf8.encode (decodeUtf16 url))))
  | .dataUrl contentType data =>
      if qString ";base64" <:+ contentType then
        some (Base64.decode (utf8.encode (decodeUtf16 data)))
      else none
  | .blob _ bytes => some bytes

/-- A patch as `createPatch` makes it: an image of one of three kinds, with the first byte of one,
if it has any. -/
structure ProperPatch (patch : GraphicsSceneFramePatch) : Prop where
  kind : patch.mimeType = "image/png" ∨ patch.mimeType = "image/jpeg" ∨ patch.mimeType = "image/bmp"
  signature : ∀ byte ∈ patch.data.head?, byte = 0x89 ∨ byte = 0xFF ∨ byte = 0x42

/-- A message as a display makes it; an image is that of a proper patch. -/
def Announced (displayId : String) (returnBinary : Bool) : DisplayMessage → Prop
  | .dI frame _ _ mimeType payload => ∃ settings patch index, ProperPatch patch ∧
      mimeType = announcedType settings returnBinary patch ∧
      payload = if isInline settings patch then .inline patch.data !returnBinary
        else .fetch (GraphicsSceneDisplay.patchId displayId frame index)
  | .fullUpdate _ => True
  | .mI _ _ _ => True
  | .fR _ _ _ => True
  | .frameEnd _ => True

/-- The letters of an identifier that are kept in messages and in addresses. -/
def NameLetter (letter : Char) : Prop :=
  CallLetter letter ∧ letter ≠ '/'

instance (letter : Char) : Decidable (NameLetter letter) := inferInstanceAs (Decidable (_ ∧ _))

structure PlainName (displayId : String) : Prop where
  nonempty : displayId.toList ≠ []
  letters : ∀ letter ∈ displayId.toList, NameLetter letter

section Bytes

variable {decoder : Decoder} {displayId : String} (name : PlainName displayId)

include name

theorem name_ascii : ∀ letter ∈ displayId.toList, IsAscii letter :=
  fun letter member => (name.letters letter member).1.1.1

theorem name_text_plain : nameText decoder displayId = displayId.toList := by
  have latin := latin1_ascii (name_ascii name)
  have ended : ∀ byte ∈ utf8.encode displayId.toList, decide (byte ≠ 0) = true := by
    intro byte member
    rw [decide_eq_true_iff]
    intro same
    have written : utf8.unit zero ∈ utf8.encode displayId.toList := by
      rw [same] at member
      exact member
    rw [utf8.unit_mem_encode (by decide)] at written
    exact (name.letters zero written).1.1.2 rfl
  unfold nameText
  rw [latin, List.takeWhile_eq_self_iff.mpr ended, decoder.decode_encode]

theorem message_bytes_plain {message : DisplayMessage} (plain : PlainMessage message) :
    messageBytes decoder displayId message =
      utf8.encode displayId.toList ++ utf8.unit '>' ::
        (utf8.encode (headerText message) ++ payloadBytes message) := by
  have ascii : ∀ letter ∈ displayId.toList ++ '>' :: headerText message, IsAscii letter := by
    intro letter member
    rcases List.mem_append.mp member with inside | behind
    · exact name_ascii name letter inside
    · rcases List.mem_cons.mp behind with same | header
      · rw [same]
        decide
      · exact (frame_call_letters plain letter header).1
  have written : utf8.encode (displayId.toList ++ '>' :: headerText message) =
      utf8.encode displayId.toList ++ utf8.unit '>' :: utf8.encode (headerText message) := by
    rw [Coding.encode_append, utf8.encode_ascii_cons (by decide)]
  unfold messageBytes
  rw [name_text_plain name]
  cases message <;>
    simp only [latin1_ascii ascii, written, List.append_assoc, List.cons_append]

end Bytes

section Headers

theorem number_text_visible {number : Int} : numberText number ≠ [] ∧
    ∀ letter ∈ numberText number, isWhiteSpace letter.toNat = false := by
  constructor
  · intro empty
    have read := parse_int_number_text number
    rw [empty] at read
    cases read
  · intro letter member
    unfold isWhiteSpace
    rcases number_text_letters member with rfl | bounds
    · decide
    · simp
      omega

theorem numbers_visible {numbers : List Int} {param : Text}
    (among : param ∈ numbers.map numberText) :
    param ≠ [] ∧ ∀ letter ∈ param, isWhiteSpace letter.toNat = false := by
  obtain ⟨number, _, rfl⟩ := List.mem_map.mp among
  exact number_text_visible

theorem announced_type_parts (settings : EncoderSettings) (returnBinary : Bool)
    {patch : GraphicsSceneFramePatch} (proper : ProperPatch patch) :
    ∃ kind ∈ ["image/png".toList, "image/jpeg".toList, "image/bmp".toList],
      ∃ packed ∈ ["".toList, ";pa".toList],
        (announcedType settings returnBinary patch).toList = kind ++ packed ++
          if isInline settings patch && !returnBinary then ";base64".toList else "".toList := by
  have kind : patch.mimeType.toList ∈
      ["image/png".toList, "image/jpeg".toList, "image/bmp".toList] := by
    rcases proper.kind with kind | kind | kind
    · rw [kind]
      decide
    · rw [kind]
      decide
    · rw [kind]
      decide
  have packed : (if patch.packedAlpha then ";pa" else "").toList ∈ ["".toList, ";pa".toList] := by
    cases patch.packedAlpha with
    | true => decide
    | false => decide
  refine ⟨_, kind, _, packed, ?_⟩
  unfold announcedType
  dsimp only
  cases isInline settings patch && !returnBinary with
  | true => rw [if_pos rfl, if_pos rfl, String.toList_append, String.toList_append]
  | false => simp

theorem announced_type_letters {displayId : String} {returnBinary : Bool} {frame : Nat}
    {rect : QRect} {artefactMargin : Int} {mimeType : String} {payload : PatchPayload}
    (announced : Announced displayId returnBinary (.dI frame rect artefactMargin mimeType payload)) :
    mimeType.toList ≠ [] ∧ ∀ letter ∈ mimeType.toList,
      ParamLetter letter ∧ isWhiteSpace letter.toNat = false := by
  have checked : ∀ kind ∈ ["image/png".toList, "image/jpeg".toList, "image/bmp".toList],
      ∀ packed ∈ ["".toList, ";pa".toList], ∀ base64 ∈ [";base64".toList, "".toList],
        kind ++ packed ++ base64 ≠ [] ∧ (kind ++ packed ++ base64).all (fun letter =>
          decide (ParamLetter letter ∧ isWhiteSpace letter.toNat = false)) = true := by
    decide
  obtain ⟨settings, patch, index, proper, type, _⟩ := announced
  obtain ⟨kind, kinds, packed, packeds, parts⟩ := announced_type_parts settings returnBinary proper
  have base64 : (if isInline settings patch && !returnBinary then ";base64".toList else "".toList) ∈
      [";base64".toList, "".toList] := by
    split_ifs
    · exact List.mem_cons_self
    · exact List.mem_cons_of_mem _ List.mem_cons_self
  have letters := checked kind kinds packed packeds _ base64
  rw [type, parts]
  exact ⟨letters.1, fun letter member =>
    of_decide_eq_true (List.all_eq_true.mp letters.2 letter member)⟩

variable {displayId : String} {returnBinary : Bool} {message : DisplayMessage}
variable (announced : Announced displayId returnBinary message)

include announced

theorem announced_plain : PlainMessage message := by
  cases message with
  | dI frame rect artefactMargin mimeType payload =>
      exact fun letter member => ((announced_type_letters announced).2 letter member).1
  | fullUpdate frame => trivial
  | mI frame rect dstPoint => trivial
  | fR frame rect fillColor => trivial
  | frameEnd frame => trivial

theorem announced_visible {param : Text} (among : param ∈ (frameCall message).2) :
    param ≠ [] ∧ ∀ letter ∈ param, isWhiteSpace letter.toNat = false := by
  cases message with
  | fullUpdate frame => exact @numbers_visible [(frame : Int)] param among
  | dI frame rect artefactMargin mimeType payload =>
      have split : (frameCall (.dI frame rect artefactMargin mimeType payload)).2 =
          [(frame : Int), rect.x1, rect.y1, rect.width, rect.height, artefactMargin].map numberText ++
            [mimeType.toList] := rfl
      rw [split, List.mem_append] at among
      cases among with
      | inl number => exact numbers_visible number
      | inr type =>
          have letters := announced_type_letters announced
          rw [List.mem_singleton.mp type]
          exact ⟨letters.1, fun letter member => (letters.2 letter member).2⟩
  | mI frame rect dstPoint =>
      exact @numbers_visible [(frame : Int), rect.x1, rect.y1, rect.width, rect.height, dstPoint.x,
        dstPoint.y] param among
  | fR frame rect fillColor =>
      exact @numbers_visible ([(frame : Int), rect.x1, rect.y1, rect.width, rect.height] ++
        colourComponents fillColor) param among
  | frameEnd frame => exact @numbers_visible [(frame : Int)] param among

theorem announced_header : PlainHeader (frameCall message).1 (frameCall message).2 where
  command_plain := by
    have letters := frame_call_command message
    refine ⟨fun member => (letters _ member).2 rfl, fun member => (letters _ member).1.2.2.1 rfl, ?_⟩
    cases message with
    | fullUpdate frame => exact fun member => absurd member (show '>' ∉ "fullUpdate".toList by decide)
    | dI frame rect artefactMargin mimeType payload =>
        exact fun member => absurd member (show '>' ∉ "dI".toList by decide)
    | mI frame rect dstPoint => exact fun member => absurd member (show '>' ∉ "mI".toList by decide)
    | fR frame rect fillColor => exact fun member => absurd member (show '>' ∉ "fR".toList by decide)
    | frameEnd frame => exact fun member => absurd member (show '>' ∉ "end".toList by decide)
  params_nonempty := (frame_call_plain (announced_plain announced)).params_nonempty
  params_plain := by
    intro param among
    have letters := fun letter member =>
      @frame_call_params message (announced_plain announced) param among letter member
    have visible := announced_visible announced among
    exact ⟨visible.1, fun member => (letters _ member).2.1 rfl,
      fun member => (letters _ member).2.2.1 rfl, visible.2⟩

end Headers

def payloadText : DisplayMessage → Text
  | .dI _ _ _ _ (.inline data _) => (Base64.encode data).map byteLetter
  | .dI _ _ _ _ (.fetch patchId) => "fb:".toList ++ patchId.toList
  | .fullUpdate _ => []
  | .mI _ _ _ => []
  | .fR _ _ _ => []
  | .frameEnd _ => []

section Reading

variable {decoder : Decoder} {displayId : String} (name : PlainName displayId)
variable {message : DisplayMessage}

include name

theorem name_plain : '(' ∉ displayId.toList ∧ '>' ∉ displayId.toList :=
  ⟨fun member => (name.letters _ member).1.2.1 rfl,
    fun member => (name.letters _ member).1.2.2.2.1 rfl⟩

omit name in
theorem header_text_eq (message : DisplayMessage) :
    header (frameCall message).1 (frameCall message).2 = headerText message := by
  unfold header headerText call
  simp

omit name in
theorem payload_text_bytes (announced : Announced displayId false message) :
    payloadBytes message = utf8.encode (payloadText message) := by
  cases message with
  | dI frame rect artefactMargin mimeType payload =>
      obtain ⟨settings, patch, index, _, _, same⟩ := announced
      rw [same]
      split_ifs
      · exact (base64_bytes patch.data).symm
      · rfl
  | fullUpdate frame => rfl
  | mI frame rect dstPoint => rfl
  | fR frame rect fillColor => rfl
  | frameEnd frame => rfl

theorem text_message_read (reader : Decoder) (announced : Announced displayId false message) :
    ReadAs (parseText (utf16.encode (reader.decode (messageBytes decoder displayId message))))
      displayId.toList (frameCall message).1 (frameCall message).2
      (utf16.encode (payloadText message)) := by
  have written : messageBytes decoder displayId message =
      utf8.encode (displayId.toList ++ '>' :: (headerText message ++ payloadText message)) := by
    rw [message_bytes_plain name (announced_plain announced), payload_text_bytes announced,
      Coding.encode_append, utf8.encode_ascii_cons (by decide), Coding.encode_append]
  have read := @read_view UInt16 _ utf16 id displayId.toList _ _
    (fun _ _ => rfl) (announced_header announced) (name_plain name) (utf16.encode (payloadText message))
  rw [if_neg name.nonempty, header_text_eq, List.append_assoc, List.singleton_append] at read
  rw [written, reader.decode_encode, Coding.encode_append, utf16.encode_ascii_cons (by decide),
    Coding.encode_append]
  exact read

theorem binary_message_read {returnBinary : Bool} (announced : Announced displayId returnBinary message) :
    ReadAs (parseBinary (messageBytes decoder displayId message))
      displayId.toList (frameCall message).1 (frameCall message).2 (payloadBytes message) := by
  have read := @read_view UInt8 _ utf8 convertToString displayId.toList _ _
    (fun text _ => convert_encoded text) (announced_header announced) (name_plain name) (payloadBytes message)
  rw [if_neg name.nonempty, header_text_eq, List.append_assoc, List.singleton_append] at read
  rw [message_bytes_plain name (announced_plain announced)]
  exact read

end Reading

section Sources

/-- The first byte of an image keeps its Base64 from beginning as an address does. -/
theorem base64_head {patch : GraphicsSceneFramePatch} (proper : ProperPatch patch) :
    ∀ byte ∈ (Base64.encode patch.data).head?, byte ≠ 104 := by
  have signature := proper.signature
  have digits : ∀ first : UInt8, first = 0x89 ∨ first = 0xFF ∨ first = 0x42 →
      Base64.digit (first.toNat / 4) ≠ 104 := by
    intro first same
    rcases same with rfl | rfl | rfl
    · decide
    · decide
    · decide
  intro byte head
  match patch.data, signature, head with
  | first :: second :: third :: rest, signature, head =>
      cases head
      exact digits first (signature first rfl)
  | [first, second], signature, head =>
      cases head
      exact digits first (signature first rfl)
  | [first], signature, head =>
      cases head
      exact digits first (signature first rfl)

theorem base64_type : ∀ kind ∈ ["image/png".toList, "image/jpeg".toList, "image/bmp".toList],
    ∀ packed ∈ ["".toList, ";pa".toList], qString ";base64" <:+
      contentTypeOf (utf16.encode (kind ++ packed ++ ";base64".toList)) := by
  decide

theorem bytes_type : ∀ kind ∈ ["image/png".toList, "image/jpeg".toList, "image/bmp".toList],
    ∀ packed ∈ ["".toList, ";pa".toList], ¬ qString "base64" <:+:
      contentTypeOf (utf16.encode (kind ++ packed)) := by
  decide

theorem base64_no_address {patch : GraphicsSceneFramePatch} (proper : ProperPatch patch) :
    (utf16.encode ((Base64.encode patch.data).map byteLetter)).take 3 ≠ qString "fb:" ∧
      (utf16.encode ((Base64.encode patch.data).map byteLetter)).take 4 ≠ qString "http" := by
  constructor
  · intro same
    have member : utf16.unit ':' ∈ utf16.encode ((Base64.encode patch.data).map byteLetter) := by
      apply List.mem_of_mem_take (i := 3)
      rw [same]
      decide
    rw [utf16.unit_mem_encode (by decide)] at member
    obtain ⟨byte, inside, letter⟩ := List.mem_map.mp member
    have colon := byte_letter_ascii (show IsAscii (byteLetter byte) by rw [letter]; decide)
    rw [letter] at colon
    rw [← colon] at inside
    exact Base64.colon_not_mem_encode patch.data inside
  · intro same
    have head := base64_head proper
    cases digits : Base64.encode patch.data with
    | nil =>
        rw [digits] at same
        exact absurd same (by decide)
    | cons first rest =>
        rw [digits] at same head
        have ascii : IsAscii (byteLetter first) :=
          (base64_call (List.mem_map_of_mem (by rw [digits]; exact List.mem_cons_self))).1.1
        rw [List.map_cons, utf16.encode_ascii_cons ascii, List.take_succ_cons] at same
        have unit := List.head_eq_of_cons_eq (same.trans
          (show qString "http" = utf16.unit 'h' :: qString "ttp" by decide))
        have letter := utf16.unit_inj _ ascii 'h' (by decide) unit
        have byte := byte_letter_ascii ascii
        rw [letter] at byte
        exact head first rfl byte.symm

theorem image_no_text {patch : GraphicsSceneFramePatch} (proper : ProperPatch patch) {letter : Char}
    (other : ¬ (utf8.unit letter = 0x89 ∨ utf8.unit letter = 0xFF ∨ utf8.unit letter = 0x42))
    (ascii : IsAscii letter) (rest : Text) (count : Nat) :
    convertToString (patch.data.take count) ≠ utf16.encode (letter :: rest) := by
  intro same
  unfold convertToString at same
  cases decoded : decodeUtf8 (patch.data.take count) with
  | none =>
      rw [decoded] at same
      exact absurd (utf16.encode_nil_iff.mp same.symm) (List.cons_ne_nil _ _)
  | some text =>
      rw [decoded] at same
      have bytes : patch.data.take count = utf8.unit letter :: utf8.encode rest := by
        rw [encoded_decoded decoded, utf16_injective same, utf8.encode_ascii_cons ascii]
      have head : patch.data.head? = some (utf8.unit letter) := by
        have begun := congrArg List.head? bytes
        rw [List.head?_take] at begun
        split_ifs at begun with none
        · cases begun
        · exact begun
      exact other (proper.signature _ head)

theorem bytes_no_address {patch : GraphicsSceneFramePatch} (proper : ProperPatch patch) :
    convertToString (patch.data.take 3) ≠ qString "fb:" ∧
      convertToString (patch.data.take 4) ≠ qString "http" :=
  ⟨image_no_text proper (by decide) (by decide) "b:".toList 3,
    image_no_text proper (by decide) (by decide) "ttp".toList 4⟩

end Sources

end Viridity.RendererMessages
