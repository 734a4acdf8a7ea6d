import Viridity.ClientMessages
import Viridity.NumberText
import Viridity.ServerMessages

/-!
# Data bridges

A bridge has two ends, `DataBridge.js` in the browser and `ViridityDataBridge.qml` over
`ViridityNativeDataBridge` on the server. Each end calls the other with numbered data
messages and keeps the callbacks of its calls until they are answered. Messages may
overtake one another; user code may send more data while it is called.
-/

namespace Viridity.DataBridge

open Viridity.NumberText
open Viridity.TextEncoding
open Viridity.TextScanning
open Viridity.ClientMessages
open Viridity.ServerMessages

set_option autoImplicit false

def undefinedText : Text := ['u', 'n', 'd', 'e', 'f', 'i', 'n', 'e', 'd']
def dataText : Text := ['d', 'a', 't', 'a']
def dataResponseText : Text := ['d', 'a', 't', 'a', 'R', 'e', 's', 'p', 'o', 'n', 's', 'e']

/-- `JSON.stringify` and `JSON.parse`; the latter throws on what is not JSON. -/
structure Json (Value : Type) where
  stringify : Value → Text
  parse : Units → Option Value
  parse_stringify : ∀ value, parse (utf16.encode (stringify value)) = some value
  parse_undefined : parse (utf16.encode undefinedText) = none
  parse_empty : parse [] = none
  stringify_begins : ∀ value letter, (stringify value).head? = some letter → Plain letter
  stringify_ended : ∀ value, zero ∉ stringify value

/-- What both ends are set up with. The number of arguments that a function of JavaScript can be
applied to is limited; no browser has a lower limit than 65535. -/
structure Setting (Value : Type) where
  targetId : Text
  decoder : Decoder
  json : Json Value
  argumentLimit : Nat
  argumentLimit_least : 65535 ≤ argumentLimit

/-- `++` on a number of JavaScript, which is exact up to 2^53. -/
def nextNumber (value : Int) : Int := if value < 9007199254740992 then value + 1 else value

def nextInt (value : Int) : Int := wrap (value + 1)

structure Bridge (Callback : Type) where
  responseId : Int
  pendingResponseCallbacks : List (Units × Callback)

namespace Bridge

variable {Callback : Type}

def start : Bridge Callback := { responseId := 0, pendingResponseCallbacks := [] }

def lookup (bridge : Bridge Callback) (name : Units) : Option Callback :=
  (bridge.pendingResponseCallbacks.find? fun entry => entry.1 = name).map Prod.snd

/-- Only functions are kept. -/
def assign (bridge : Bridge Callback) (name : Units) : Option Callback → Bridge Callback
  | none => bridge
  | some callback =>
      { bridge with
        pendingResponseCallbacks :=
          (name, callback) :: bridge.pendingResponseCallbacks.filter fun entry => entry.1 ≠ name }

def delete (bridge : Bridge Callback) (name : Units) : Bridge Callback :=
  { bridge with
    pendingResponseCallbacks :=
      bridge.pendingResponseCallbacks.filter fun entry => entry.1 ≠ name }

end Bridge

inductive Side where
  | browser
  | qml
deriving DecidableEq

/-- What a message is about: the data of a call, or what the handler returned for it, nothing
if it threw. -/
inductive Content (Value : Type) where
  | data (value : Value)
  | response (result : Option (Option Value))

/-- A message on its way. Only its bytes are read; whose call it belongs to is bookkeeping. -/
structure Flight (Value : Type) where
  message : Bytes
  caller : Side
  call : Nat
  content : Content Value

/-- The ends and the messages between them. The callback each call was given, and every
invocation of one, are on record. -/
structure BridgeState (Value Callback : Type) where
  browser : Bridge Callback
  qml : Bridge Callback
  toBrowser : List (Flight Value)
  toQml : List (Flight Value)
  browserCalls : List (Option Callback)
  qmlCalls : List (Option Callback)
  invoked : List (Side × Callback × Option Value)

/-- How a handler ends; what it returns may be undefined. -/
inductive Outcome (Value : Type) where
  | throws
  | returns (result : Option Value)

/-- `nested` is the data user code sends while it is called, `dispatched` whether the session
was found, `handler` what `onDataReceived` does, if there is one. -/
inductive BridgeAction (Value Callback : Type) where
  | browserSend (data : Value) (callback : Option Callback)
  | qmlSend (data : Value) (callback : Option Callback) (dispatched : Bool)
  | deliverToBrowser (index : Nat) (binary : Bool) (handler : Option (Outcome Value))
      (nested : List (Value × Option Callback))
  | deliverToQml (index : Nat) (handler : Outcome Value)
      (nested : List (Value × Option Callback × Bool)) (callbackThrows : Bool)

/-- A message as `parseMessage` hands it to a target's callback. -/
structure Incoming where
  targetId : Option Units
  command : Units
  params : List Units
  dataAsString : Units
deriving DecidableEq

/-- `convertToString` applies a function to all the bytes. Where they are too many that throws,
which is caught. -/
def convertWithin (limit : Nat) (bytes : Bytes) : Units :=
  if bytes.length ≤ limit then convertToString bytes else []

def incoming (decoder : Decoder) (limit : Nat) (binary : Bool) (message : Bytes) : Incoming :=
  if binary then
    let t := parseView utf8 (convertWithin limit) message
    { targetId := t.targetId, command := t.command, params := t.params
      dataAsString := convertWithin limit (t.data none none) }
  else
    let t := parseText (utf16.encode (decoder.decode message))
    { targetId := t.targetId, command := t.command, params := t.params
      dataAsString := t.data none none }

def bridgeMessage (command responseId payload : Text) : Text :=
  call command [responseId] ++ ':' :: payload

section Steps

variable {Value Callback : Type} (setting : Setting Value)

def resultText : Option Value → Text
  | none => undefinedText
  | some value => setting.json.stringify value

/-- `JSON.parse` in `_messageCallback`, where the text undefined stands for itself. -/
def responseValue (input : Units) : Option (Option Value) :=
  if input = utf16.encode undefinedText then some none
  else (setting.json.parse input).map some

def toServer (message : Text) : Bytes := utf8.encode (sendMessage message (some setting.targetId))

def toClient (message : Text) : List Bytes :=
  sendMessageToClient [] (utf8.encode message) setting.targetId

def browserSend (state : BridgeState Value Callback) (data : Value) (callback : Option Callback) :
    BridgeState Value Callback :=
  let responseId := nextNumber state.browser.responseId
  let message := bridgeMessage dataText (numberText responseId) (setting.json.stringify data)
  let call := state.browserCalls.length + 1
  { state with
    browser := { state.browser with responseId := responseId }.assign (keyText responseId) callback
    toQml := state.toQml ++ [⟨toServer setting message, .browser, call, .data data⟩]
    browserCalls := state.browserCalls ++ [callback] }

/-- `sendData` of `ViridityDataBridge.qml` over that of the native bridge, which returns the
number of the call, or false as a number when the message was not dispatched. -/
def qmlSend (state : BridgeState Value Callback) (data : Value) (callback : Option Callback)
    (dispatched : Bool) : BridgeState Value Callback :=
  let responseId := nextInt state.qml.responseId
  let message := bridgeMessage dataText (numberText responseId) (setting.json.stringify data)
  let call := state.qmlCalls.length + 1
  let sent := if dispatched then toClient setting message else []
  { state with
    qml := { state.qml with responseId := responseId }.assign
      (keyText (if dispatched then responseId else 0)) callback
    toBrowser := state.toBrowser ++ sent.map fun bytes => ⟨bytes, .qml, call, .data data⟩
    qmlCalls := state.qmlCalls ++ [callback] }

def browserSends (state : BridgeState Value Callback) (nested : List (Value × Option Callback)) :
    BridgeState Value Callback :=
  nested.foldl (fun state sent => browserSend setting state sent.1 sent.2) state

def qmlSends (state : BridgeState Value Callback)
    (nested : List (Value × Option Callback × Bool)) : BridgeState Value Callback :=
  nested.foldl (fun state sent => qmlSend setting state sent.1 sent.2.1 sent.2.2) state

/-- The answer of the browser: an exception leaves the result undefined. -/
def browserAnswer (state : BridgeState Value Callback) (flight : Flight Value) (t : Incoming)
    (handler : Outcome Value) (nested : List (Value × Option Callback)) :
    BridgeState Value Callback :=
  let outcome : Option (Option Value) :=
    match setting.json.parse t.dataAsString, handler with
    | some _, .returns result => some result
    | _, _ => none
  let handled :=
    match setting.json.parse t.dataAsString with
    | some _ => browserSends setting state nested
    | none => state
  let message := bridgeMessage dataResponseText (decodeUtf16 (t.params.headD []))
    (resultText setting (outcome.getD none))
  { handled with
    toQml := handled.toQml ++
      [⟨toServer setting message, flight.caller, flight.call, .response outcome⟩] }

/-- The callback is deleted whatever happens: exceptions are caught, also those of callbacks. -/
def browserResponse (state : BridgeState Value Callback) (responseId input : Units)
    (nested : List (Value × Option Callback)) : BridgeState Value Callback :=
  match state.browser.lookup responseId with
  | none => state
  | some callback =>
      let called :=
        match responseValue setting input with
        | some response =>
            browserSends setting
              { state with invoked := state.invoked ++ [(Side.browser, callback, response)] } nested
        | none => state
      { called with browser := called.browser.delete responseId }

def messageCallback (state : BridgeState Value Callback) (flight : Flight Value) (t : Incoming)
    (handler : Option (Outcome Value)) (nested : List (Value × Option Callback)) :
    BridgeState Value Callback :=
  if t.targetId = some (utf16.encode setting.targetId) ∧
      (t.command = utf16.encode dataText ∨ t.command = utf16.encode dataResponseText) then
    let responseId := t.params.headD []
    if t.command = utf16.encode dataResponseText then
      browserResponse setting state responseId t.dataAsString nested
    else
      match handler with
      | none => state
      | some outcome => browserAnswer setting state flight t outcome nested
  else state

/-- The answer of the server: the response stays null when the handler throws. -/
def qmlAnswer (state : BridgeState Value Callback) (flight : Flight Value) (responseId : Units)
    (input : Units) (handler : Outcome Value) (nested : List (Value × Option Callback × Bool)) :
    BridgeState Value Callback :=
  let outcome : Option (Option Value) :=
    match setting.json.parse input, handler with
    | some _, .returns result => some result
    | _, _ => none
  let handled :=
    match setting.json.parse input with
    | some _ => qmlSends setting state nested
    | none => state
  let message := bridgeMessage dataResponseText (decodeUtf16 responseId)
    ((outcome.map (resultText setting)).getD [])
  { handled with
    toBrowser := handled.toBrowser ++ (toClient setting message).map fun bytes =>
      ⟨bytes, flight.caller, flight.call, .response outcome⟩ }

/-- `onResponseReceived`: no exception is caught, neither that of `JSON.parse` nor that of
the callback, and the callback is deleted last. -/
def qmlResponse (state : BridgeState Value Callback) (responseId input : Units)
    (nested : List (Value × Option Callback × Bool)) (callbackThrows : Bool) :
    BridgeState Value Callback :=
  match state.qml.lookup responseId with
  | none => state
  | some callback =>
      match setting.json.parse input with
      | none => state
      | some response =>
          let called := qmlSends setting
            { state with invoked := state.invoked ++ [(Side.qml, callback, some response)] } nested
          if callbackThrows then called
          else { called with qml := called.qml.delete responseId }

/-- `localHandleMessage` with the handlers of the QML component. Subscriptions are left out. -/
def localHandleMessage (state : BridgeState Value Callback) (flight : Flight Value)
    (handler : Outcome Value) (nested : List (Value × Option Callback × Bool))
    (callbackThrows : Bool) : BridgeState Value Callback :=
  let taken := takeTargetFromMessage setting.decoder flight.message
  if taken.1.getD [] = utf16.encode setting.targetId ∧ utf8.encode dataText <+: taken.2 then
    let split := splitMessage setting.decoder taken.2 [] []
    if split.params.length = 1 ∧ split.datagramStartIndex > -1 then
      let responseId := split.params.headD []
      let input := toQString setting.decoder (mid taken.2 split.datagramStartIndex (-1))
      if split.command = utf16.encode dataResponseText then
        qmlResponse setting state responseId input nested callbackThrows
      else qmlAnswer setting state flight responseId input handler nested
    else state
  else state

def bridgeStep (state : BridgeState Value Callback) :
    BridgeAction Value Callback → Option (BridgeState Value Callback)
  | .browserSend data callback => some (browserSend setting state data callback)
  | .qmlSend data callback dispatched => some (qmlSend setting state data callback dispatched)
  | .deliverToBrowser index binary handler nested =>
      match state.toBrowser[index]? with
      | none => none
      | some flight =>
          some (messageCallback setting { state with toBrowser := state.toBrowser.eraseIdx index }
            flight (incoming setting.decoder setting.argumentLimit binary flight.message) handler
            nested)
  | .deliverToQml index handler nested callbackThrows =>
      match state.toQml[index]? with
      | none => none
      | some flight =>
          some (localHandleMessage setting { state with toQml := state.toQml.eraseIdx index }
            flight handler nested callbackThrows)

end Steps

def start {Value Callback : Type} : BridgeState Value Callback where
  browser := Bridge.start
  qml := Bridge.start
  toBrowser := []
  toQml := []
  browserCalls := []
  qmlCalls := []
  invoked := []

end Viridity.DataBridge
