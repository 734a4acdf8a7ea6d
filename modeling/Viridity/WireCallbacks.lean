import Viridity.RendererMessages
import Viridity.ScreenMirror

/-!
# The renderer behind a connection

The callback of a display as it works on strings: frames are told apart by the text of their
numbers, images are named or contained by the data of a message, and what it sends is text.
It does what the renderer of parsed messages does, image by image and event by event.
-/

namespace Viridity.WireCallbacks

open Viridity.QtRectangle
open Viridity.ImageAux
open Viridity.Compositing
open Viridity.TextEncoding
open Viridity.TextScanning
open Viridity.ServerMessages
open Viridity.ClientMessages
open Viridity.SceneDisplay
open Viridity.FrameFlow
open Viridity.DisplayDispatch
open Viridity.DisplayClient
open Viridity.PlayerPainting
open Viridity.PatchRequests
open Viridity.PatchGeometry
open Viridity.NumberText
open Viridity.DisplayMessageText
open Viridity.InputCommands
open Viridity.CanvasPainting
open Viridity.CanvasPhases
open Viridity.RendererMessages
open Viridity.ScreenMirror
open GraphicsSceneDisplay (announcedType isInline)

set_option autoImplicit false

/-- A display and its client: the identifier of the display, the address of the session, the text
of the pixel ratio, and how each of them decodes what it receives. -/
structure ClientSetup where
  displayId : String
  sessionUrl : Text
  ratio : Text
  clientDecoder : Decoder
  serverDecoder : Decoder

/-- What the renderer does to its canvases. A number is `none` where it is `NaN`. -/
inductive RendererEvent where
  | filled (dstX dstY dstWidth dstHeight : Option Int) (fillStyle : FillStyle)
  | moved (srcX srcY srcWidth srcHeight dstX dstY : Option Int)
  | drawn (image : PatchImage)
  | failed (image : PatchImage)
  | flipped (frame : Option Units)
deriving DecidableEq

/-- The renderer; its last frame is `none` while it is the number 0 it starts with. -/
structure WireRenderer where
  lastFrame : Option Units
  frameEndReceived : Bool
  frameErrors : Nat
  pendingPatchesCount : Int
  waitingForFullUpdate : Bool
  loading : List PatchImage
deriving DecidableEq

structure WireOutcome where
  renderer : WireRenderer
  sent : List Text
  events : List RendererEvent

namespace WireRenderer

def initial : WireRenderer where
  lastFrame := none
  frameEndReceived := true
  frameErrors := 0
  pendingPatchesCount := 0
  waitingForFullUpdate := false
  loading := []

section Callbacks

variable (setup : ClientSetup) (renderer : WireRenderer)

/-- `v.sendMessage(msg, dr.targetId)`. -/
def message (msg : Text) : Text := sendMessage msg (some setup.displayId.toList)

def requestFullUpdate (forced : Bool) : WireOutcome where
  renderer := { renderer with waitingForFullUpdate := true }
  sent := [message setup
    ("requestFullUpdate(".toList ++ (if forced then "1".toList else "0".toList) ++ ")".toList)]
  events := []

def determineReadyState : WireOutcome :=
  if renderer.frameEndReceived && renderer.pendingPatchesCount == 0 then
    if renderer.frameErrors > 0 then
      let outcome := requestFullUpdate setup renderer true
      ⟨{ outcome.renderer with frameErrors := 0 }, message setup "ready()".toList :: outcome.sent, []⟩
    else
      ⟨{ renderer with frameErrors := 0 }, [message setup "ready()".toList],
        [.flipped renderer.lastFrame]⟩
  else ⟨renderer, [], []⟩

def frameCommand (t : CallbackMessage) : WireOutcome :=
  let number := fun index => parseInt (paramAt t.params index)
  if t.command = qString "fR" then
    ⟨renderer, [], [.filled (number 1) (number 2) (number 3) (number 4)
      ⟨paramAt t.params 5, paramAt t.params 6, paramAt t.params 7, paramAt t.params 8⟩]⟩
  else if t.command = qString "mI" then
    ⟨renderer, [], [.moved (number 1) (number 2) (number 3) (number 4) (number 5) (number 6)]⟩
  else if t.command = qString "dI" then
    ⟨{ renderer with
        pendingPatchesCount := renderer.pendingPatchesCount + 1
        loading := renderer.loading ++ [patchImage setup.sessionUrl t] }, [], []⟩
  else if t.command = qString "info" then ⟨{ renderer with frameEndReceived := true }, [], []⟩
  else if t.command = qString "end" then
    determineReadyState setup { renderer with frameEndReceived := true }
  else ⟨renderer, [], []⟩

def messageCallback (t : CallbackMessage) : WireOutcome :=
  let frame := paramAt t.params 0
  if t.command = qString "showInputMethod" ∨ t.command = qString "hideInputMethod" then
    ⟨renderer, [], []⟩
  else if renderer.waitingForFullUpdate && t.command != qString "fullUpdate" then ⟨renderer, [], []⟩
  else
    let started :=
      if t.command = qString "fullUpdate" then
        { renderer with waitingForFullUpdate := false, pendingPatchesCount := 0 }
      else renderer
    if started.lastFrame ≠ some frame then
      let renamed := { started with lastFrame := some frame }
      if renamed.pendingPatchesCount ≠ 0 then
        -- the previous frame is not completely rendered
        requestFullUpdate setup { renamed with pendingPatchesCount := 0 } false
      else frameCommand setup { renamed with frameEndReceived := false } t
    else frameCommand setup started t

/-- `processMessage`, as far as this display is concerned. -/
def processMessage (t : CallbackMessage) : WireOutcome :=
  if t.targetId = some (qString setup.displayId) then messageCallback setup renderer t
  else ⟨renderer, [], []⟩

/-- The renderer when the image at `index` has left, before `_determineReadyState`. -/
def imageLeft (index : Nat) (loaded : Bool) : WireRenderer :=
  { renderer with
    loading := renderer.loading.eraseIdx index
    frameErrors := if loaded then renderer.frameErrors else renderer.frameErrors + 1
    pendingPatchesCount := renderer.pendingPatchesCount - 1 }

/-- `onload` and `onerror` of the image at `index`. -/
def imageDone (index : Nat) (loaded : Bool) : WireOutcome :=
  match renderer.loading[index]? with
  | some image =>
      let outcome := determineReadyState setup (renderer.imageLeft index loaded)
      { outcome with events := (if loaded then .drawn image else .failed image) :: outcome.events }
  | none => ⟨renderer, [], []⟩

def resizeMessage (width height : Int) : Text :=
  message setup ("resize(".toList ++ numberText width ++ ",".toList ++ numberText height ++
    ",".toList ++ setup.ratio ++ ")".toList)

/-- `_reconnectDisplay`; the forced resize reports the size of the container. -/
def reconnectDisplay (params : List String) (width height : Int) : WireOutcome :=
  ⟨renderer, [message setup ("newDisplay(".toList ++ [','].intercalate (params.map String.toList) ++
    ")".toList), resizeMessage setup width height], []⟩

def resize (width height : Int) : WireOutcome := ⟨renderer, [resizeMessage setup width height], []⟩

end Callbacks

end WireRenderer

/-- What the canvases become; `data` is what was loaded for an image. -/
def rendererEvent (codec : PatchCodec) (data : PatchImage → Bytes) (canvases : Canvases) :
    RendererEvent → Canvases
  | .filled (some dstX) (some dstY) (some dstWidth) (some dstHeight) fillStyle =>
      { canvases with
        canvas := { canvases.canvas with
          pixel :=
            let cleared := clearRect dstX dstY dstWidth dstHeight canvases.canvas.pixel
            match fillStyle.colour with
            | some colour => fillCanvasRect colour dstX dstY dstWidth dstHeight cleared
            | none => cleared } }
  | .filled _ _ _ _ _ => canvases
  | .moved (some srcX) (some srcY) (some srcWidth) (some srcHeight) (some dstX) (some dstY) =>
      { canvases with
        canvas := { canvases.canvas with
          pixel := drawCanvasImage Pixel.sourceOver canvases.frontCanvas srcX srcY srcWidth srcHeight
            dstX dstY (clearRect dstX dstY srcWidth srcHeight canvases.canvas.pixel) } }
  | .moved _ _ _ _ _ _ => canvases
  | .drawn image =>
      { canvases with
        canvas := { canvases.canvas with pixel := image.paint codec (data image) canvases.canvas.pixel } }
  | .failed _ => canvases
  | .flipped _ => flipToFront canvases

/-- What a client's request to the display says to a display that exists. -/
def readCommand (decoder : Decoder) (message : Bytes) : Option DisplayCommand :=
  let params := (splitMessage decoder message [] []).params
  if CommandInterpreter.startsWith message "newDisplay" then
    some (.newDisplay (params.map fun param => String.ofList (decodeUtf16 param)))
  else if CommandInterpreter.startsWith message "ready" then some .ready
  else if CommandInterpreter.startsWith message "requestFullUpdate" then
    some (.requestFullUpdate (params.map toInt))
  else if CommandInterpreter.startsWith message "resize" then
    match params with
    | [width, height, _] => some (.resize (toInt width) (toInt height))
    | _ => none
  else none

def frameText : FrameParam → Option Units
  | .unset => none
  | .empty => some []
  | .number frame => some (utf16.encode (numberText frame))

def commandText : ClientMessage → Text
  | .done => "done".toList
  | .frame message => (frameCall message).1

def paramTexts : ClientMessage → List Text
  | .done => [[]]
  | .frame message => (frameCall message).2

section Relations

variable (setup : ClientSetup)

structure PlainSetup : Prop where
  name : PlainName setup.displayId
  url : zero ∉ setup.sessionUrl ∧ setup.sessionUrl.head? ≠ some byteOrderMark ∧ setup.sessionUrl ≠ []
  ratio : ∀ letter ∈ setup.ratio, CallLetter letter

/-- An image paints what its operation does, and is loaded from the same data. -/
structure ImageReads (image : PatchImage) (operation : DisplayMessage) : Prop where
  paints : ∀ (codec : PatchCodec) (data : Bytes) (canvases : Canvases),
    image.paint codec data canvases.canvas.pixel = paintOperation codec data canvases operation
  loads : ∀ log, image.src.loaded setup.serverDecoder log = imageData log operation

structure RendererReads (wire : WireRenderer) (renderer : DisplayRenderer) : Prop where
  lastFrame : wire.lastFrame = frameText renderer.lastFrame
  frameEndReceived : wire.frameEndReceived = renderer.frameEndReceived
  frameErrors : wire.frameErrors = renderer.frameErrors
  pendingPatchesCount : wire.pendingPatchesCount = renderer.pendingPatchesCount
  waitingForFullUpdate : wire.waitingForFullUpdate = renderer.waitingForFullUpdate
  loading : List.Forall₂ (ImageReads setup) wire.loading renderer.loading

def EventReads (event : RendererEvent) : CanvasEvent → Prop
  | .painted operation => (∀ frame, event ≠ .flipped frame) ∧ ∀ codec log canvases,
      rendererEvent codec (fun image => (image.src.loaded setup.serverDecoder log).getD []) canvases
        event =
      canvasEvent codec (fun operation => (imageData log operation).getD []) canvases
        (.painted operation)
  | .failed operation => ∃ image, event = .failed image ∧ ImageReads setup image operation
  | .flipped param => event = .flipped (frameText param)

/-- A text the display reads as a command. Of a new display that exists the parameters do not
matter. -/
def Says (text : Text) (command : DisplayCommand) : Prop :=
  let taken := takeTargetFromMessage setup.serverDecoder (utf8.encode text)
  taken.1 = some (qString setup.displayId) ∧
    ∃ read, readCommand setup.serverDecoder taken.2 = some read ∧
      (read = command ∨ ∃ params others, read = .newDisplay params ∧ command = .newDisplay others)

structure OutcomeReads (wire : WireOutcome) (outcome : ClientOutcome) : Prop where
  renderer : RendererReads setup wire.renderer outcome.renderer
  sent : List.Forall₂ (Says setup) wire.sent outcome.sent
  events : List.Forall₂ (EventReads setup) wire.events outcome.events

structure MessageReads (t : CallbackMessage) (message : ClientMessage) : Prop where
  targetId : t.targetId = some (qString setup.displayId)
  command : t.command = utf16.encode (commandText message)
  params : t.params = (paramTexts message).map utf16.encode
  image : ∀ frame rect artefactMargin mimeType payload,
    message = .frame (.dI frame rect artefactMargin mimeType payload) →
      ImageReads setup (patchImage setup.sessionUrl t)
        (.dI frame rect artefactMargin mimeType payload)

def FrameTells (frame : ServerFrame) : ClientMessage → Prop
  | .done => ∃ returnBinary, frame = .ofMessage returnBinary
      (utf8.encode (addressed setup.displayId.toList "done()".toList))
  | .frame message => ∃ returnBinary, Announced setup.displayId returnBinary message ∧
      frame = .ofMessage returnBinary (messageBytes setup.serverDecoder setup.displayId message)

end Relations

section Requests

variable {setup : ClientSetup} (plain : PlainSetup setup)

include plain

theorem plain_target : PlainTarget setup.displayId.toList := by
  have letters := fun letter member => (plain.name.letters letter member).1
  refine ⟨plain.name.nonempty, name_plain plain.name, fun member => (letters _ member).1.2 rfl, ?_⟩
  intro mark
  have ascii := (letters _ (List.mem_of_head? mark)).1.1
  exact absurd ascii (by decide)

theorem says_call {command : Text} {params : List Text} {request : DisplayCommand}
    (commandLetters : ∀ letter ∈ command, CallLetter letter) (nonempty : params ≠ [])
    (paramLetters : ∀ param ∈ params, ∀ letter ∈ param, CallLetter letter)
    (read : splitMessage setup.serverDecoder (utf8.encode (call command params)) [] [] =
        ⟨-1, utf16.encode command, params.map utf16.encode⟩ →
      readCommand setup.serverDecoder (utf8.encode (call command params)) = some request) :
    Says setup (WireRenderer.message setup (call command params)) request := by
  have back := @call_read_back setup.serverDecoder _ _ _ (plain_target plain) commandLetters nonempty
    paramLetters
  have split := back.2.2
  rw [back.2.1] at split
  refine ⟨back.1, request, ?_, Or.inl rfl⟩
  unfold WireRenderer.message
  rw [back.2.1]
  exact read split

omit plain in
theorem call_begins (command : Text) (params : List Text) :
    utf8.encode command <+: utf8.encode (call command params) := by
  unfold call
  rw [Coding.encode_append]
  exact List.prefix_append _ _

theorem says_ready : Says setup (WireRenderer.message setup "ready()".toList) .ready := by
  apply @says_call setup plain "ready".toList [[]]
  · exact call_letters_checked (by decide)
  · exact List.cons_ne_nil _ _
  · intro param among
    rw [List.mem_singleton.mp among]
    exact fun letter member => absurd member List.not_mem_nil
  · intro _
    have begins := call_begins "ready".toList [[]]
    unfold readCommand
    rw [starts_otherwise begins (by decide) (by decide), starts_with begins]
    rfl

theorem says_request (wire : WireRenderer) (renderer : DisplayRenderer) (forced : Bool) :
    List.Forall₂ (Says setup) (wire.requestFullUpdate setup forced).sent
      (renderer.requestFullUpdate forced).sent := by
  have digit : ∀ number : Int, Says setup (WireRenderer.message setup
      (call "requestFullUpdate".toList [numberText number])) (.requestFullUpdate [number]) := by
    intro number
    apply says_call plain
    · exact call_letters_checked (by decide)
    · exact List.cons_ne_nil _ _
    · intro param among
      rw [List.mem_singleton.mp among]
      exact fun letter => number_text_call
    · intro split
      have begins := call_begins "requestFullUpdate".toList [numberText number]
      unfold readCommand
      rw [split, starts_otherwise begins (by decide) (by decide),
        starts_otherwise begins (by decide) (by decide), starts_with begins]
      simp only [Bool.false_eq_true, if_false, if_true, List.map_cons, List.map_nil,
        to_int_number_text]
  apply List.Forall₂.cons _ .nil
  cases forced with
  | true => exact digit 1
  | false => exact digit 0

theorem says_resize (width height : Int) :
    Says setup (WireRenderer.resizeMessage setup width height) (.resize width height) := by
  have written : WireRenderer.resizeMessage setup width height = WireRenderer.message setup
      (call "resize".toList [numberText width, numberText height, setup.ratio]) := by
    unfold WireRenderer.resizeMessage call
    simp
  rw [written]
  apply says_call plain
  · exact call_letters_checked (by decide)
  · exact List.cons_ne_nil _ _
  · intro param among
    simp only [List.mem_cons, List.not_mem_nil, or_false] at among
    rcases among with rfl | rfl | rfl
    · exact fun letter => number_text_call
    · exact fun letter => number_text_call
    · exact plain.ratio
  · intro split
    have begins := call_begins "resize".toList [numberText width, numberText height, setup.ratio]
    unfold readCommand
    rw [split, starts_otherwise begins (by decide) (by decide),
      starts_otherwise begins (by decide) (by decide),
      starts_otherwise begins (by decide) (by decide), starts_with begins]
    simp only [Bool.false_eq_true, if_false, if_true, List.map_cons, List.map_nil,
      to_int_number_text]

theorem says_new_display (params : List String) :
    Says setup (WireRenderer.message setup ("newDisplay(".toList ++
      [','].intercalate (params.map String.toList) ++ ")".toList)) (.newDisplay params) := by
  have written : "newDisplay(".toList ++ [','].intercalate (params.map String.toList) ++ ")".toList =
      call "newDisplay".toList (params.map String.toList) := by
    unfold call
    simp
  have target := plain_target plain
  have taken := @target_taken setup.serverDecoder setup.displayId.toList "newDisplay".toList
    target.unmarked (by decide) (params.map String.toList) []
  rw [List.append_nil, (kept_iff _).mpr target.kept] at taken
  have begins := call_begins "newDisplay".toList (params.map String.toList)
  unfold Says WireRenderer.message sendMessage
  rw [written]
  dsimp only
  rw [if_neg target.nonempty, taken]
  have read : ∃ others, readCommand setup.serverDecoder
      (utf8.encode (call "newDisplay".toList (params.map String.toList))) = some (.newDisplay others) := by
    unfold readCommand
    rw [starts_with begins]
    exact ⟨_, if_pos rfl⟩
  obtain ⟨others, read⟩ := read
  exact ⟨rfl, _, read, Or.inr ⟨others, params, rfl, rfl⟩⟩

end Requests

section Messages

variable {setup : ClientSetup} (plain : PlainSetup setup)

theorem data_parts {Unit : Type} {parsed : ParsedMessage Unit} {target command : Text}
    {params : List Text} {payload : List Unit} (read : ReadAs parsed target command params payload) :
    parsed.data (some 0) (some 3) = payload.take 3 ∧ parsed.data (some 0) (some 4) = payload.take 4 ∧
      parsed.data (some 3) none = payload.drop 3 ∧ parsed.data none none = payload :=
  ⟨read.2.2.2 (some 0) (some 3), read.2.2.2 (some 0) (some 4), read.2.2.2 (some 3) none,
    read.2.2.2 none none⟩

theorem announced_base64 {settings : EncoderSettings} {patch : GraphicsSceneFramePatch}
    (proper : ProperPatch patch) (inline : isInline settings patch = true) :
    qString ";base64" <:+ contentTypeOf (qString (announcedType settings false patch)) := by
  obtain ⟨kind, kinds, packed, packeds, parts⟩ := announced_type_parts settings false proper
  rw [inline] at parts
  have type := base64_type kind kinds packed packeds
  unfold qString at type ⊢
  rw [parts]
  exact type

theorem announced_bytes (settings : EncoderSettings) {patch : GraphicsSceneFramePatch}
    (proper : ProperPatch patch) :
    ¬ qString "base64" <:+: contentTypeOf (qString (announcedType settings true patch)) := by
  obtain ⟨kind, kinds, packed, packeds, parts⟩ := announced_type_parts settings true proper
  rw [Bool.not_true, Bool.and_false] at parts
  have type := bytes_type kind kinds packed packeds
  unfold qString at type ⊢
  rw [parts]
  rw [← List.append_nil (kind ++ packed)] at type
  exact type

theorem handed_out_named (patchId : String) : handedOutNamed (qString patchId) = handedOut patchId := by
  funext event
  cases event with
  | tookPatch taken outcome =>
      cases outcome with
      | none => rfl
      | some patch =>
          unfold handedOutNamed handedOut
          simp only [q_string_eq_iff]
  | sent message => rfl
  | ready => rfl
  | forcedFullUpdate => rfl

include plain

theorem address_loads {patchId : String} (whole : '/' ∉ patchId.toList ∧ zero ∉ patchId.toList)
    (log : List DisplayEvent) :
    (ImageSource.address (utf16.encode setup.sessionUrl ++ qString "/p/" ++ qString patchId)).loaded
      setup.serverDecoder log = log.findSome? (handedOut patchId) := by
  have url : utf16.encode setup.sessionUrl ++ qString "/p/" ++ qString patchId =
      utf16.encode ((setup.sessionUrl ++ "/p".toList) ++ '/' :: patchId.toList) := by
    unfold qString
    rw [← Coding.encode_append, ← Coding.encode_append]
    congr 1
    simp
  have ended : zero ∉ (setup.sessionUrl ++ "/p".toList) ++ '/' :: patchId.toList := by
    simp only [List.mem_append, List.mem_cons, not_or]
    exact ⟨⟨plain.url.1, by decide⟩, by decide, whole.2⟩
  have mark : ((setup.sessionUrl ++ "/p".toList) ++ '/' :: patchId.toList).head? ≠
      some byteOrderMark := by
    have begun := plain.url
    cases front : setup.sessionUrl with
    | nil => exact absurd front begun.2.2
    | cons first rest =>
        rw [front] at begun
        exact begun.2.1
  have absent : utf16.unit '/' ∉ utf16.encode patchId.toList := by
    rw [utf16.unit_mem_encode (by decide)]
    exact whole.1
  have named : patchIdOfUrl setup.serverDecoder (utf8.encode
      ((setup.sessionUrl ++ "/p".toList) ++ '/' :: patchId.toList)) = qString patchId := by
    unfold patchIdOfUrl
    dsimp only
    rw [to_string_encoded, (kept_iff _).mpr ⟨ended, mark⟩, Coding.encode_append,
      utf16.encode_ascii_cons (by decide), last_position_append _ absent, if_pos (by omega)]
    have rest := mid_rest (utf16.encode (setup.sessionUrl ++ "/p".toList) ++ [utf16.unit '/'])
      (utf16.encode patchId.toList)
    rw [List.append_assoc, List.length_append] at rest
    exact rest
  unfold ImageSource.loaded
  dsimp only
  rw [url, decode_utf16_encoded, named, handed_out_named]

/-- Identifiers of patches have no letter that does not pass through an address. -/
theorem patch_name_whole (frame index : Nat) :
    '/' ∉ (GraphicsSceneDisplay.patchId setup.displayId frame index).toList ∧
      zero ∉ (GraphicsSceneDisplay.patchId setup.displayId frame index).toList := by
  constructor
  · apply patch_id_without _ _ _ (by decide) (by decide)
    exact fun member => (plain.name.letters _ member).2 rfl
  · apply patch_id_without _ _ _ (by decide) (by decide)
    exact fun member => (plain.name.letters _ member).1.1.2 rfl

theorem text_source_loads {parsed : ParsedMessage UInt16} {target command : Text}
    {params : List Text} {frame : Nat} {rect : QRect} {artefactMargin : Int} {mimeType : String}
    {payload : PatchPayload}
    (announced : Announced setup.displayId false (.dI frame rect artefactMargin mimeType payload))
    (read : ReadAs parsed target command params
      (utf16.encode (payloadText (.dI frame rect artefactMargin mimeType payload))))
    (log : List DisplayEvent) :
    (imageSource setup.sessionUrl (.text parsed) (contentTypeOf (qString mimeType))).loaded
      setup.serverDecoder log = imageData log (.dI frame rect artefactMargin mimeType payload) := by
  obtain ⟨settings, patch, index, proper, type, content⟩ := announced
  obtain ⟨three, four, rest, whole⟩ := data_parts read
  unfold imageSource CallbackMessage.dataAsString
  dsimp only
  cases inline : isInline settings patch with
  | true =>
      rw [inline, if_pos rfl] at content
      rw [content] at three four whole ⊢
      have apart := base64_no_address proper
      have base64 := announced_base64 proper inline
      rw [← type] at base64
      rw [if_neg (by rw [three]; exact apart.1), if_neg (by rw [four]; exact apart.2), whole]
      unfold ImageSource.loaded
      dsimp only
      rw [if_pos base64, decode_utf16_encoded]
      unfold payloadText
      dsimp only
      rw [base64_bytes, Base64.decode_encode]
      rfl
  | false =>
      rw [inline, if_neg Bool.false_ne_true] at content
      rw [content] at three rest ⊢
      have written : utf16.encode (payloadText (.dI frame rect artefactMargin mimeType
          (.fetch (GraphicsSceneDisplay.patchId setup.displayId frame index)))) =
          qString "fb:" ++ qString (GraphicsSceneDisplay.patchId setup.displayId frame index) :=
        Coding.encode_append _ _ _
      rw [written] at three rest
      have name : parsed.data (some 3) none =
          qString (GraphicsSceneDisplay.patchId setup.displayId frame index) := rest
      have begins : parsed.data (some 0) (some 3) = qString "fb:" := three
      rw [if_pos begins, name]
      exact address_loads plain (patch_name_whole plain frame index) log

theorem binary_source_loads {parsed : ParsedMessage UInt8} {target command : Text}
    {params : List Text} {frame : Nat} {rect : QRect} {artefactMargin : Int} {mimeType : String}
    {payload : PatchPayload}
    (announced : Announced setup.displayId true (.dI frame rect artefactMargin mimeType payload))
    (read : ReadAs parsed target command params
      (payloadBytes (.dI frame rect artefactMargin mimeType payload)))
    (log : List DisplayEvent) :
    (imageSource setup.sessionUrl (.binary parsed) (contentTypeOf (qString mimeType))).loaded
      setup.serverDecoder log = imageData log (.dI frame rect artefactMargin mimeType payload) := by
  obtain ⟨settings, patch, index, proper, type, content⟩ := announced
  obtain ⟨three, four, rest, whole⟩ := data_parts read
  unfold imageSource CallbackMessage.dataAsString
  dsimp only
  cases inline : isInline settings patch with
  | true =>
      rw [inline, if_pos rfl] at content
      rw [content] at three four whole ⊢
      have apart := bytes_no_address proper
      have bytes := announced_bytes settings proper
      rw [← type] at bytes
      rw [if_neg (by rw [three]; exact apart.1), if_neg (by rw [four]; exact apart.2), if_neg bytes,
        whole]
      rfl
  | false =>
      rw [inline, if_neg Bool.false_ne_true] at content
      rw [content] at three rest ⊢
      have written : payloadBytes (.dI frame rect artefactMargin mimeType
          (.fetch (GraphicsSceneDisplay.patchId setup.displayId frame index))) =
          utf8.encode "fb:".toList ++
            utf8.encode (GraphicsSceneDisplay.patchId setup.displayId frame index).toList :=
        Coding.encode_append _ _ _
      rw [written] at three rest
      have name : parsed.data (some 3) none =
          utf8.encode (GraphicsSceneDisplay.patchId setup.displayId frame index).toList := rest
      have begins : convertToString (parsed.data (some 0) (some 3)) = qString "fb:" := by
        rw [three]
        exact convert_encoded "fb:".toList
      rw [if_pos begins, name, convert_encoded]
      exact address_loads plain (patch_name_whole plain frame index) log

omit plain in
theorem image_paints {t : CallbackMessage} {frame : Nat} {rect : QRect} {artefactMargin : Int}
    {mimeType : String} {payload : PatchPayload}
    (params : t.params = (frameCall (.dI frame rect artefactMargin mimeType payload)).2.map
      utf16.encode) (codec : PatchCodec) (data : Bytes) (canvases : Canvases) :
    (patchImage setup.sessionUrl t).paint codec data canvases.canvas.pixel =
      paintOperation codec data canvases (.dI frame rect artefactMargin mimeType payload) := by
  have param := fun index => congrArg (fun params => paramAt params index) params
  have dstX : parseInt (paramAt t.params 1) = some rect.x1 :=
    (congrArg parseInt (param 1)).trans (parse_int_number_text _)
  have dstY : parseInt (paramAt t.params 2) = some rect.y1 :=
    (congrArg parseInt (param 2)).trans (parse_int_number_text _)
  have imgWidth : parseInt (paramAt t.params 3) = some rect.width :=
    (congrArg parseInt (param 3)).trans (parse_int_number_text _)
  have imgHeight : parseInt (paramAt t.params 4) = some rect.height :=
    (congrArg parseInt (param 4)).trans (parse_int_number_text _)
  have margin : parseInt (paramAt t.params 5) = some artefactMargin :=
    (congrArg parseInt (param 5)).trans (parse_int_number_text _)
  have type : paramAt t.params 6 = qString mimeType := param 6
  unfold PatchImage.paint patchImage
  dsimp only
  rw [dstX, dstY, imgWidth, imgHeight, margin, type]
  rfl

omit plain in
theorem done_read {Unit : Type} [DecidableEq Unit] {coding : Coding Unit}
    {asString : List Unit → Units} (strings : ∀ text, asString (coding.encode text) = utf16.encode text)
    {target : Text} (nonempty : target ≠ []) (unmarked : '(' ∉ target ∧ '>' ∉ target) :
    let parsed := parseView coding asString (coding.encode (addressed target "done()".toList))
    parsed.targetId = some (utf16.encode target) ∧ parsed.command = utf16.encode "done".toList ∧
      parsed.params = [[]] := by
  have opening := fun text : Text => @Coding.unit_mem_encode _ coding '(' (by decide) text
  have closing := fun text : Text => @Coding.unit_mem_encode _ coding ')' (by decide) text
  have marker := fun text : Text => @Coding.unit_mem_encode _ coding '>' (by decide) text
  have written : coding.encode (addressed target "done()".toList) = coding.encode target ++
      coding.unit '>' :: (coding.encode "done".toList ++ coding.unit '(' :: [coding.unit ')']) := by
    have call : "done()".toList = "done".toList ++ ['(', ')'] := by decide
    have ascii := fun letter (given : IsAscii letter) => coding.units_ascii letter given
    rw [encode_addressed, if_neg nonempty, call, Coding.encode_append]
    simp [ascii '(' (by decide), ascii ')' (by decide)]
  have apart : coding.unit ')' ≠ coding.unit '(' := by
    intro same
    exact absurd (coding.unit_inj ')' (by decide) '(' (by decide) same) (by decide)
  have absent : coding.unit ')' ∉ coding.encode "done".toList ++ [coding.unit '('] := by
    rw [List.mem_append, closing, List.mem_singleton]
    rintro (member | same)
    · exact absurd member (by decide)
    · exact apart same
  have stop := position_append absent []
  rw [List.append_assoc, List.singleton_append, List.length_append, List.length_singleton] at stop
  have commandRead := slice_front (coding.encode "done".toList) (coding.unit '(' :: [coding.unit ')'])
  have paramsRead := slice_middle (coding.encode "done".toList ++ [coding.unit '(']) []
    [coding.unit ')']
  rw [List.append_assoc, List.length_append, List.length_singleton] at paramsRead
  intro parsed
  have read : parsed = parseRest coding asString (some (asString (coding.encode target)))
      (coding.encode "done".toList ++ coding.unit '(' :: [coding.unit ')'])
      (coding.encode "done".toList).length := by
    rw [← parse_targeted (by rw [opening]; exact unmarked.1) (by rw [marker]; exact unmarked.2)
      (by rw [opening]; decide), ← written]
  rw [read]
  refine ⟨congrArg some (strings target), ?_, ?_⟩
  · exact (congrArg asString commandRead).trans (strings _)
  · have empty : asString [] = [] := strings []
    unfold parseRest
    dsimp only
    rw [stop]
    have none : slice (coding.encode "done".toList ++ coding.unit '(' :: [coding.unit ')'])
        ((coding.encode "done".toList).length + 1)
        (some ((coding.encode "done".toList).length + 1 : Nat)) = [] := paramsRead
    rw [none, empty]
    rfl

omit plain in
/-- A message is read as the one of its parts when its image is loaded from the same data. -/
theorem message_reads_parts {t : CallbackMessage} {message : DisplayMessage}
    (target : t.targetId = some (qString setup.displayId))
    (command : t.command = utf16.encode (frameCall message).1)
    (params : t.params = (frameCall message).2.map utf16.encode)
    (loads : ∀ frame rect artefactMargin mimeType payload,
      message = .dI frame rect artefactMargin mimeType payload → ∀ log,
        (imageSource setup.sessionUrl t (contentTypeOf (qString mimeType))).loaded
          setup.serverDecoder log = imageData log message) :
    MessageReads setup t (.frame message) := by
  refine ⟨target, command, params, ?_⟩
  intro frame rect artefactMargin mimeType payload same
  cases same
  have type : paramAt t.params 6 = qString mimeType :=
    congrArg (fun params => paramAt params 6) params
  refine ⟨image_paints params, fun log => ?_⟩
  have loaded := loads frame rect artefactMargin mimeType payload rfl log
  rw [← type] at loaded
  exact loaded

/-- A message on its way is read as the one it was. -/
theorem frame_reads {frame : ServerFrame} {message : ClientMessage}
    (tells : FrameTells setup frame message) :
    MessageReads setup (parseMessage setup.clientDecoder frame) message := by
  cases message with
  | frame message =>
      obtain ⟨returnBinary, announced, rfl⟩ := tells
      cases returnBinary with
      | true =>
          have read := @binary_message_read setup.serverDecoder _ plain.name _ _ announced
          have target := read.1
          rw [if_neg plain.name.nonempty] at target
          refine message_reads_parts ?_ read.2.1 read.2.2.1 ?_
          · exact target
          · intro frame rect artefactMargin mimeType payload same log
            subst same
            exact binary_source_loads plain announced read log
      | false =>
          have read := @text_message_read setup.serverDecoder _ plain.name _ setup.clientDecoder announced
          have target := read.1
          rw [if_neg plain.name.nonempty] at target
          refine message_reads_parts ?_ read.2.1 read.2.2.1 ?_
          · exact target
          · intro frame rect artefactMargin mimeType payload same log
            subst same
            exact text_source_loads plain announced read log
  | done =>
      obtain ⟨returnBinary, rfl⟩ := tells
      have none : ∀ operation, ClientMessage.done = .frame operation → False := nofun
      cases returnBinary with
      | true =>
          have read := @done_read UInt8 _ utf8 convertToString convert_encoded _ plain.name.nonempty
            (name_plain plain.name)
          exact ⟨read.1, read.2.1, read.2.2, fun _ _ _ _ _ same => absurd same (none _)⟩
      | false =>
          have read := @done_read UInt16 _ utf16 id (fun _ => rfl) _ plain.name.nonempty
            (name_plain plain.name)
          have written : parseMessage setup.clientDecoder (.ofMessage false (utf8.encode
              (addressed setup.displayId.toList "done()".toList))) =
              .text (parseView utf16 id (utf16.encode
                (addressed setup.displayId.toList "done()".toList))) :=
            congrArg (fun text => CallbackMessage.text (parseText (utf16.encode text)))
              (setup.clientDecoder.decode_encode _)
          rw [written]
          exact ⟨read.1, read.2.1, read.2.2, fun _ _ _ _ _ same => absurd same (none _)⟩

end Messages

section Lists

variable {Entry Other : Type} {corresponds : Entry → Other → Prop}
variable {entries : List Entry} {others : List Other}

theorem forall_two_erase (same : List.Forall₂ corresponds entries others) (index : Nat) :
    List.Forall₂ corresponds (entries.eraseIdx index) (others.eraseIdx index) := by
  induction same generalizing index with
  | nil => exact .nil
  | cons first rest induction =>
      cases index with
      | zero => exact rest
      | succ index => exact .cons first (induction index)

theorem forall_two_at (same : List.Forall₂ corresponds entries others) (index : Nat) :
    (entries[index]? = none ∧ others[index]? = none) ∨
      ∃ entry other, entries[index]? = some entry ∧ others[index]? = some other ∧
        corresponds entry other := by
  induction same generalizing index with
  | nil => exact Or.inl ⟨rfl, rfl⟩
  | cons first rest induction =>
      cases index with
      | zero => exact Or.inr ⟨_, _, rfl, rfl, first⟩
      | succ index => exact induction index

end Lists

section Simulation

variable {setup : ClientSetup} (plain : PlainSetup setup)
variable {wire : WireRenderer} {renderer : DisplayRenderer}

theorem frame_text_injective {first second : FrameParam} :
    frameText first = frameText second ↔ first = second := by
  have numbers : ∀ frame : Nat, utf16.encode (numberText frame) ≠ [] := by
    intro frame
    rw [ne_eq, utf16.encode_nil_iff]
    exact number_text_visible.1
  constructor
  · intro same
    match first, second, same with
    | .unset, .unset, _ => rfl
    | .empty, .empty, _ => rfl
    | .empty, .number frame, same => exact absurd (Option.some.inj same).symm (numbers frame)
    | .number frame, .empty, same => exact absurd (Option.some.inj same) (numbers frame)
    | .number frame, .number other, same =>
        have read := congrArg parseInt (Option.some.inj same)
        rw [parse_int_number_text, parse_int_number_text] at read
        exact congrArg FrameParam.number (Int.ofNat.inj (Option.some.inj read))
  · exact congrArg frameText

theorem colour_reads (colour : QColor) :
    (FillStyle.mk (utf16.encode (numberText ((colourComponents colour).getD 0 0)))
      (utf16.encode (numberText ((colourComponents colour).getD 1 0)))
      (utf16.encode (numberText ((colourComponents colour).getD 2 0)))
      (utf16.encode (numberText ((colourComponents colour).getD 3 0)))).colour =
      some (colour.getD 0xFF000000) := by
  have bound := (colour.getD 0xFF000000).isLt
  have within : ∀ component ∈ colourComponents colour,
      max 0 (min 255 component) = component := by
    intro component member
    unfold colourComponents at member
    simp only [List.mem_cons, List.not_mem_nil, or_false] at member
    omega
  unfold FillStyle.colour
  simp only [parse_int_number_text]
  rw [within _ (by simp [colourComponents]), within _ (by simp [colourComponents]),
    within _ (by simp [colourComponents]), within _ (by simp [colourComponents]), colour_read]

include plain

theorem request_reads (same : RendererReads setup wire renderer) (forced : Bool) :
    OutcomeReads setup (wire.requestFullUpdate setup forced) (renderer.requestFullUpdate forced) where
  renderer := { same with waitingForFullUpdate := rfl }
  sent := says_request plain wire renderer forced
  events := .nil

theorem determine_reads (same : RendererReads setup wire renderer) :
    OutcomeReads setup (wire.determineReadyState setup) renderer.determineReadyState := by
  unfold WireRenderer.determineReadyState DisplayRenderer.determineReadyState
  rw [same.frameEndReceived, same.pendingPatchesCount, same.frameErrors]
  split_ifs with complete errors
  · have request := request_reads plain same true
    exact ⟨{ request.renderer with frameErrors := rfl }, .cons (says_ready plain) request.sent, .nil⟩
  · refine ⟨?_, .cons (says_ready plain) .nil, .cons ?_ .nil⟩
    · exact { same with frameEndReceived := rfl, frameErrors := rfl, pendingPatchesCount := rfl }
    · exact congrArg RendererEvent.flipped same.lastFrame
  · exact ⟨same, .nil, .nil⟩

variable {t : CallbackMessage} {message : ClientMessage}

theorem frame_command_reads (same : RendererReads setup wire renderer)
    (read : MessageReads setup t message) :
    OutcomeReads setup (wire.frameCommand setup t) (renderer.frameCommand message) := by
  have numbers := parse_int_number_text
  have param := fun index => congrArg (fun params => paramAt params index) read.params
  unfold WireRenderer.frameCommand
  cases message with
  | done =>
      have command : t.command = qString "done" := read.command
      rw [command, if_neg (by decide), if_neg (by decide), if_neg (by decide), if_neg (by decide),
        if_neg (by decide)]
      exact ⟨same, .nil, .nil⟩
  | frame message =>
      cases message with
      | fullUpdate frame =>
          have command : t.command = qString "fullUpdate" := read.command
          rw [command, if_neg (by decide), if_neg (by decide), if_neg (by decide),
            if_neg (by decide), if_neg (by decide)]
          exact ⟨same, .nil, .nil⟩
      | frameEnd frame =>
          have command : t.command = qString "end" := read.command
          rw [command, if_neg (by decide), if_neg (by decide), if_neg (by decide),
            if_neg (by decide), if_pos rfl]
          exact determine_reads plain { same with frameEndReceived := rfl }
      | dI frame rect artefactMargin mimeType payload =>
          have command : t.command = qString "dI" := read.command
          have count := congrArg (fun count : Int => count + 1) same.pendingPatchesCount
          have image := read.image frame rect artefactMargin mimeType payload rfl
          rw [command, if_neg (by decide), if_neg (by decide), if_pos rfl]
          refine ⟨{ same with pendingPatchesCount := count, loading := ?_ }, .nil, .nil⟩
          exact List.rel_append same.loading (.cons image .nil)
      | mI frame rect dstPoint =>
          have command : t.command = qString "mI" := read.command
          have srcX : paramAt t.params 1 = utf16.encode (numberText rect.x1) := param 1
          have srcY : paramAt t.params 2 = utf16.encode (numberText rect.y1) := param 2
          have srcWidth : paramAt t.params 3 = utf16.encode (numberText rect.width) := param 3
          have srcHeight : paramAt t.params 4 = utf16.encode (numberText rect.height) := param 4
          have dstX : paramAt t.params 5 = utf16.encode (numberText dstPoint.x) := param 5
          have dstY : paramAt t.params 6 = utf16.encode (numberText dstPoint.y) := param 6
          rw [command, if_neg (by decide), if_pos rfl]
          refine ⟨same, .nil, .cons ⟨nofun, ?_⟩ .nil⟩
          intro codec log canvases
          dsimp only
          rw [srcX, srcY, srcWidth, srcHeight, dstX, dstY, numbers, numbers, numbers, numbers,
            numbers, numbers]
          rfl
      | fR frame rect fillColor =>
          have command : t.command = qString "fR" := read.command
          have dstX : paramAt t.params 1 = utf16.encode (numberText rect.x1) := param 1
          have dstY : paramAt t.params 2 = utf16.encode (numberText rect.y1) := param 2
          have dstWidth : paramAt t.params 3 = utf16.encode (numberText rect.width) := param 3
          have dstHeight : paramAt t.params 4 = utf16.encode (numberText rect.height) := param 4
          have style : FillStyle.colour ⟨paramAt t.params 5, paramAt t.params 6, paramAt t.params 7,
              paramAt t.params 8⟩ = some (fillColor.getD 0xFF000000) := by
            rw [param 5, param 6, param 7, param 8]
            exact colour_reads fillColor
          rw [command, if_pos rfl]
          refine ⟨same, .nil, .cons ⟨nofun, ?_⟩ .nil⟩
          intro codec log canvases
          dsimp only
          rw [dstX, dstY, dstWidth, dstHeight, numbers, numbers, numbers, numbers]
          unfold rendererEvent
          dsimp only
          rw [style]
          rfl

omit plain in
theorem full_update_command (read : MessageReads setup t message) :
    (t.command = qString "fullUpdate") ↔ isFullUpdate message = true := by
  rw [read.command]
  cases message with
  | done => decide
  | frame message =>
      cases message with
      | fullUpdate frame => exact iff_of_true rfl rfl
      | dI frame rect artefactMargin mimeType payload =>
          exact iff_of_false (show utf16.encode "dI".toList ≠ _ by decide) Bool.false_ne_true
      | mI frame rect dstPoint =>
          exact iff_of_false (show utf16.encode "mI".toList ≠ _ by decide) Bool.false_ne_true
      | fR frame rect fillColor =>
          exact iff_of_false (show utf16.encode "fR".toList ≠ _ by decide) Bool.false_ne_true
      | frameEnd frame =>
          exact iff_of_false (show utf16.encode "end".toList ≠ _ by decide) Bool.false_ne_true

omit plain in
theorem other_command (read : MessageReads setup t message) :
    ¬ (t.command = qString "showInputMethod" ∨ t.command = qString "hideInputMethod") := by
  rw [read.command]
  cases message with
  | done => decide
  | frame message =>
      cases message with
      | fullUpdate frame =>
          show ¬ (utf16.encode "fullUpdate".toList = _ ∨ utf16.encode "fullUpdate".toList = _)
          decide
      | dI frame rect artefactMargin mimeType payload =>
          show ¬ (utf16.encode "dI".toList = _ ∨ utf16.encode "dI".toList = _)
          decide
      | mI frame rect dstPoint =>
          show ¬ (utf16.encode "mI".toList = _ ∨ utf16.encode "mI".toList = _)
          decide
      | fR frame rect fillColor =>
          show ¬ (utf16.encode "fR".toList = _ ∨ utf16.encode "fR".toList = _)
          decide
      | frameEnd frame =>
          show ¬ (utf16.encode "end".toList = _ ∨ utf16.encode "end".toList = _)
          decide

omit plain in
theorem frame_param_reads (read : MessageReads setup t message) :
    some (paramAt t.params 0) = frameText (frameParam message) := by
  rw [read.params]
  cases message with
  | done => rfl
  | frame message =>
      cases message with
      | fullUpdate frame => rfl
      | dI frame rect artefactMargin mimeType payload => rfl
      | mI frame rect dstPoint => rfl
      | fR frame rect fillColor => rfl
      | frameEnd frame => rfl

/-- A message is handled as the one it is read as. -/
theorem message_callback_reads (same : RendererReads setup wire renderer)
    (read : MessageReads setup t message) :
    OutcomeReads setup (wire.messageCallback setup t) (renderer.messageCallback message) := by
  have frame := frame_param_reads read
  have full := full_update_command read
  have waiting : (wire.waitingForFullUpdate && t.command != qString "fullUpdate") =
      (renderer.waitingForFullUpdate && !isFullUpdate message) := by
    rw [same.waitingForFullUpdate]
    congr 1
    rw [bne, Bool.not_inj_iff, Bool.eq_iff_iff, beq_iff_eq]
    exact full
  -- the renderer that has taken notice of a full update
  have started : RendererReads setup
      (if t.command = qString "fullUpdate" then
        { wire with waitingForFullUpdate := false, pendingPatchesCount := 0 } else wire)
      (if isFullUpdate message then
        { renderer with waitingForFullUpdate := false, pendingPatchesCount := 0 } else renderer) := by
    by_cases command : t.command = qString "fullUpdate"
    · rw [if_pos command, if_pos (full.mp command)]
      exact { same with waitingForFullUpdate := rfl, pendingPatchesCount := rfl }
    · rw [if_neg command, if_neg fun update => command (full.mpr update)]
      exact same
  unfold WireRenderer.messageCallback DisplayRenderer.messageCallback
  dsimp only
  rw [if_neg (other_command read), waiting]
  by_cases dropped : (renderer.waitingForFullUpdate && !isFullUpdate message) = true
  · rw [if_pos dropped, if_pos dropped]
    exact ⟨same, .nil, .nil⟩
  · rw [if_neg dropped, if_neg dropped]
    revert started
    generalize (if t.command = qString "fullUpdate" then
      { wire with waitingForFullUpdate := false, pendingPatchesCount := 0 } else wire) = first
    generalize (if isFullUpdate message then
      { renderer with waitingForFullUpdate := false, pendingPatchesCount := 0 } else renderer) = second
    intro started
    have other : first.lastFrame ≠ some (paramAt t.params 0) ↔
        second.lastFrame ≠ frameParam message := by
      rw [started.lastFrame, frame, ne_eq, ne_eq, frame_text_injective]
    by_cases renamed : second.lastFrame ≠ frameParam message
    · rw [if_pos (other.mpr renamed), if_pos renamed, started.pendingPatchesCount]
      by_cases pending : second.pendingPatchesCount ≠ 0
      · rw [if_pos pending, if_pos pending]
        have abandoned : RendererReads setup
            { first with lastFrame := some (paramAt t.params 0), pendingPatchesCount := 0 }
            { second with lastFrame := frameParam message, pendingPatchesCount := 0 } :=
          { started with lastFrame := frame, pendingPatchesCount := rfl }
        exact request_reads plain abandoned false
      · rw [if_neg pending, if_neg pending]
        exact frame_command_reads plain
          { started with
            lastFrame := frame, frameEndReceived := rfl, pendingPatchesCount := rfl } read
    · rw [if_neg fun differs => renamed (other.mp differs), if_neg renamed]
      exact frame_command_reads plain started read

theorem process_reads (same : RendererReads setup wire renderer)
    (read : MessageReads setup t message) :
    OutcomeReads setup (wire.processMessage setup t) (renderer.messageCallback message) := by
  unfold WireRenderer.processMessage
  rw [if_pos read.targetId]
  exact message_callback_reads plain same read

theorem image_done_reads (same : RendererReads setup wire renderer) (index : Nat) (loaded : Bool) :
    OutcomeReads setup (wire.imageDone setup index loaded) (renderer.imageDone index loaded) := by
  unfold WireRenderer.imageDone DisplayRenderer.imageDone
  rcases forall_two_at same.loading index with ⟨gone, left⟩ | ⟨image, operation, here, there, reads⟩
  · rw [gone, left]
    exact ⟨same, .nil, .nil⟩
  · have departed : RendererReads setup (wire.imageLeft index loaded)
        (renderer.imageLeft index loaded) := by
      refine ⟨same.lastFrame, same.frameEndReceived, ?_, ?_, same.waitingForFullUpdate, ?_⟩
      · unfold WireRenderer.imageLeft DisplayRenderer.imageLeft
        rw [same.frameErrors]
      · exact congrArg (fun count : Int => count - 1) same.pendingPatchesCount
      · exact forall_two_erase same.loading index
    have outcome := determine_reads plain departed
    rw [here, there]
    refine ⟨outcome.renderer, outcome.sent, .cons ?_ outcome.events⟩
    cases loaded with
    | false => exact ⟨image, rfl, reads⟩
    | true =>
        refine ⟨nofun, ?_⟩
        intro codec log canvases
        have data := reads.loads log
        have paints := reads.paints codec ((imageData log operation).getD []) canvases
        rw [if_pos rfl]
        unfold rendererEvent canvasEvent
        dsimp only
        rw [data, paints]

theorem reconnect_reads (same : RendererReads setup wire renderer) (params : List String)
    (width height : Int) :
    OutcomeReads setup (wire.reconnectDisplay setup params width height)
      (renderer.reconnectDisplay params width height) :=
  ⟨same, .cons (says_new_display plain params) (.cons (says_resize plain width height) .nil), .nil⟩

theorem resize_reads (same : RendererReads setup wire renderer) (width height : Int) :
    OutcomeReads setup (wire.resize setup width height) (renderer.resize width height) :=
  ⟨same, .cons (says_resize plain width height) .nil, .nil⟩

end Simulation

end Viridity.WireCallbacks
