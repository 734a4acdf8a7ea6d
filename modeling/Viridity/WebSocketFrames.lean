import Mathlib.Algebra.Group.Nat.Defs
import Viridity.NumberText
import Viridity.ResumedParsing
import Viridity.TextScanning

/-!
# WebSocket frames

One end of a WebSocket as Tufao has it, either of the two: what it writes for a message and how
it takes apart what it is sent. The socket below takes what is written and hands over what
arrives, in pieces of any size, until it is closed.
-/

namespace Viridity.WebSocketFrames

open Viridity.NumberText (wrap bigEndian)
open Viridity.TextEncoding
open Viridity.TextScanning
open Viridity.ResumedParsing

set_option autoImplicit false

/-! ## The header of a frame -/

structure Frame where
  first : UInt8
  second : UInt8
deriving DecidableEq

namespace Frame

def fin (frame : Frame) : Bool := frame.first &&& 0x80 != 0

def setFin (frame : Frame) : Frame := { frame with first := frame.first ||| 0x80 }

def opcode (frame : Frame) : UInt8 := frame.first &&& 0xF

def setOpcode (frame : Frame) (opcode : UInt8) : Frame :=
  { frame with first := (frame.first &&& 0xF0) ||| (opcode &&& 0xF) }

def masked (frame : Frame) : Bool := frame.second &&& 0x80 != 0

def setMasked (frame : Frame) : Frame := { frame with second := frame.second ||| 0x80 }

def payloadLength (frame : Frame) : UInt8 := frame.second &&& 0x7F

def setPayloadLength (frame : Frame) (length : UInt8) : Frame :=
  { frame with second := (frame.second &&& 0x80) ||| (length &&& 0x7F) }

def isControlFrame (frame : Frame) : Bool := frame.first &&& 0x8 != 0

def standardFrame (isClientNode : Bool) : Frame :=
  if isClientNode then setMasked ⟨0, 0⟩ else ⟨0, 0⟩

def controlFrame (isClientNode : Bool) : Frame := (standardFrame isClientNode).setFin

end Frame

def continuation : UInt8 := 0x00
def text : UInt8 := 0x01
def binary : UInt8 := 0x02
def connectionClose : UInt8 := 0x08
def ping : UInt8 := 0x09
def pong : UInt8 := 0x0A

def toBigEndian : Nat → Nat → Bytes
  | 0, _ => []
  | bytes + 1, value => toBigEndian bytes (value / 256) ++ [UInt8.ofNat value]

structure MaskingKey where
  piece0 : UInt8
  piece1 : UInt8
  piece2 : UInt8
  piece3 : UInt8
deriving DecidableEq

namespace MaskingKey

def bytes (key : MaskingKey) : Bytes := [key.piece0, key.piece1, key.piece2, key.piece3]

/-- `maskingKey[index % 4]`. -/
def piece (key : MaskingKey) (index : Nat) : UInt8 :=
  if index % 4 = 0 then key.piece0
  else if index % 4 = 1 then key.piece1
  else if index % 4 = 2 then key.piece2
  else key.piece3

end MaskingKey

/-- Every byte with the piece of the key at its index, from some index on. -/
def unmasked (key : MaskingKey) : Nat → Bytes → Bytes
  | _, [] => []
  | index, byte :: bytes => (byte ^^^ key.piece index) :: unmasked key (index + 1) bytes

def writePayload (frame : Frame) (isClientNode : Bool) (key : MaskingKey) (data : Bytes) : Bytes :=
  let size := data.length
  let sized :=
    if size < 126 then frame.setPayloadLength (UInt8.ofNat size)
    else if size ≤ 65535 then frame.setPayloadLength 126
    else frame.setPayloadLength 127
  [sized.first, sized.second] ++
    (if size < 126 then [] else if size ≤ 65535 then toBigEndian 2 size else toBigEndian 8 size) ++
    (if isClientNode then key.bytes ++ unmasked key 0 data else data)

/-! ## An end of the connection -/

inductive State where
  | connecting
  | open
  | closing
  | closed
deriving DecidableEq

inductive ParsingState where
  | frame
  | size16
  | size64
  | maskingKey
  | payloadData
deriving DecidableEq

inductive MessageType where
  | textMessage
  | binaryMessage
deriving DecidableEq

/-- What an end does to its socket and what it emits. A frame is written with its payload, under
whatever key is drawn then. -/
inductive SocketEvent where
  | write (frame : Frame) (payload : Bytes)
  | closeSocket
  | newMessage (message : Bytes)
  | pong (payload : Bytes)
deriving DecidableEq

/-- `WebSocket::Priv` once the handshake is over. `socketOpen` is the state of the socket and
`protocolError` whether `lastError` was set. -/
structure WebSocket where
  messageType : MessageType
  protocolError : Bool
  socketOpen : Bool
  buffer : Bytes
  state : State
  isClientNode : Bool
  parsingState : ParsingState
  remainingPayloadSize : Nat
  maskingKey : MaskingKey
  maskingIndex : UInt8
  frame : Frame
  payload : Bytes
  fragmentOpcode : UInt8
  fragment : Bytes
deriving DecidableEq

namespace WebSocket

def opened (isClientNode : Bool) : WebSocket where
  messageType := .binaryMessage
  protocolError := false
  socketOpen := true
  buffer := []
  state := .open
  isClientNode := isClientNode
  parsingState := .frame
  remainingPayloadSize := 0
  maskingKey := ⟨0, 0, 0, 0⟩
  maskingIndex := 0
  frame := ⟨0, 0⟩
  payload := []
  fragmentOpcode := 0
  fragment := []

def setMessagesType (socket : WebSocket) (type : MessageType) : WebSocket :=
  { socket with messageType := type }

def writeControl (socket : WebSocket) (opcode : UInt8) (data : Bytes) : SocketEvent :=
  .write ((Frame.controlFrame socket.isClientNode).setOpcode opcode) data

def close (socket : WebSocket) (code : Nat) : WebSocket × List SocketEvent :=
  if socket.state = .closing ∨ socket.state = .closed then (socket, [])
  else
    ({ socket with state := .closing }, [socket.writeControl connectionClose (toBigEndian 2 code)])

/-- A message in one frame; nothing is sent unless the connection is open. -/
def sendData (socket : WebSocket) (opcode : UInt8) (msg : Bytes) : List SocketEvent :=
  if socket.state ≠ .open then []
  else [.write (((Frame.standardFrame socket.isClientNode).setFin).setOpcode opcode) msg]

def sendBinaryMessage (socket : WebSocket) (msg : Bytes) : List SocketEvent :=
  socket.sendData binary msg

def sendUtf8Message (socket : WebSocket) (msg : Bytes) : List SocketEvent :=
  socket.sendData text msg

def sendMessage (socket : WebSocket) (msg : Bytes) : List SocketEvent :=
  match socket.messageType with
  | .binaryMessage => socket.sendBinaryMessage msg
  | .textMessage => socket.sendUtf8Message msg

def sendPing (socket : WebSocket) (data : Bytes) : List SocketEvent :=
  if socket.state ≠ .open then [] else [socket.writeControl ping data]

/-! ## Reading -/

def afterSize (socket : WebSocket) : ParsingState :=
  if socket.isClientNode then .payloadData else .maskingKey

def stays (socket : WebSocket) : Round WebSocket SocketEvent := ⟨socket, [], false⟩

def proceeds (socket : WebSocket) : Round WebSocket SocketEvent := ⟨socket, [], true⟩

/-- `close(StatusCode::PROTOCOL_ERROR)` and what follows it in `parseFrame`. -/
def failed (socket : WebSocket) : Round WebSocket SocketEvent :=
  let closing := socket.close 1002
  ⟨{ closing.1 with protocolError := true, socketOpen := false }, closing.2 ++ [.closeSocket], false⟩

def parseHeader (socket : WebSocket) (frame : Frame) : Round WebSocket SocketEvent :=
  if !frame.fin && frame.isControlFrame then socket.failed
  else if (frame.masked && socket.isClientNode) || (!frame.masked && !socket.isClientNode) then
    socket.failed
  else if frame.payloadLength = 126 then proceeds { socket with parsingState := .size16 }
  else if frame.payloadLength = 127 then proceeds { socket with parsingState := .size64 }
  else
    proceeds { socket with
      remainingPayloadSize := frame.payloadLength.toNat
      parsingState := socket.afterSize }

def parseFrame (socket : WebSocket) : Round WebSocket SocketEvent :=
  match socket.buffer with
  | first :: second :: rest =>
      parseHeader { socket with frame := ⟨first, second⟩, buffer := rest } ⟨first, second⟩
  | _ => socket.stays

def parseSize (socket : WebSocket) (bytes : Nat) : Round WebSocket SocketEvent :=
  if socket.buffer.length < bytes then socket.stays
  else
    proceeds { socket with
      remainingPayloadSize := bigEndian (socket.buffer.take bytes)
      buffer := socket.buffer.drop bytes
      parsingState := socket.afterSize }

def parseMaskingKey (socket : WebSocket) : Round WebSocket SocketEvent :=
  match socket.buffer with
  | piece0 :: piece1 :: piece2 :: piece3 :: rest =>
      proceeds { socket with
        maskingIndex := 0
        maskingKey := ⟨piece0, piece1, piece2, piece3⟩
        buffer := rest
        parsingState := .payloadData }
  | _ => socket.stays

/-- `decodeFragment`: what becomes of the chunk. -/
def decodeFragment (socket : WebSocket) (chunk : Bytes) : Bytes :=
  if socket.isClientNode then chunk
  else unmasked socket.maskingKey socket.maskingIndex.toNat chunk

/-- `decodeFragment`: what becomes of the index. -/
def decodedIndex (socket : WebSocket) (chunk : Bytes) : UInt8 :=
  if socket.isClientNode then socket.maskingIndex
  else socket.maskingIndex + UInt8.ofNat chunk.length

def evaluateControlFrame (socket : WebSocket) : WebSocket × List SocketEvent :=
  if socket.frame.opcode = connectionClose then
    if socket.state = .closing then
      ({ socket with socketOpen := false, payload := [] }, [.closeSocket])
    else if socket.isClientNode then
      ({ socket with state := .closing, payload := [] },
        [socket.writeControl connectionClose socket.payload])
    else
      ({ socket with state := .closing, socketOpen := false, payload := [] },
        [socket.writeControl connectionClose socket.payload, .closeSocket])
  else if socket.frame.opcode = ping then
    ({ socket with payload := [] }, [socket.writeControl pong socket.payload])
  else if socket.frame.opcode = pong then ({ socket with payload := [] }, [.pong socket.payload])
  else
    let closing := socket.close 1008
    ({ closing.1 with protocolError := true, socketOpen := false, payload := [] },
      closing.2 ++ [.closeSocket])

/-- What a frame means when its payload is complete. The payload of the last fragment stays where
it was read. -/
def evaluateFrame (socket : WebSocket) : WebSocket × List SocketEvent :=
  if socket.frame.fin then
    if socket.frame.isControlFrame then socket.evaluateControlFrame
    else if socket.frame.opcode = continuation then
      ({ socket with fragment := [] }, [.newMessage socket.fragment])
    else ({ socket with payload := [] }, [.newMessage socket.payload])
  else
    ({ socket with
        fragment := socket.fragment ++ socket.payload
        payload := []
        fragmentOpcode :=
          if socket.frame.opcode = continuation then socket.fragmentOpcode
          else socket.frame.opcode }, [])

/-- An empty payload is evaluated in a control frame only. -/
def evaluateEmpty (socket : WebSocket) : WebSocket × List SocketEvent :=
  if socket.frame.isControlFrame then socket.evaluateControlFrame else (socket, [])

/-- As much of the payload as there is; its size becomes an int on the way. -/
def payloadChunk (socket : WebSocket) : Bytes :=
  left socket.buffer (wrap socket.remainingPayloadSize)

def takeChunk (socket : WebSocket) (chunk : Bytes) : WebSocket :=
  { socket with
    buffer := socket.buffer.drop chunk.length
    remainingPayloadSize := socket.remainingPayloadSize - chunk.length
    maskingIndex := socket.decodedIndex chunk
    payload := socket.payload ++ socket.decodeFragment chunk }

def afterChunk (socket : WebSocket) : Round WebSocket SocketEvent :=
  if socket.remainingPayloadSize ≠ 0 then socket.stays
  else
    let evaluated := { socket with parsingState := .frame }.evaluateFrame
    ⟨evaluated.1, evaluated.2, true⟩

def parsePayloadData (socket : WebSocket) : Round WebSocket SocketEvent :=
  if socket.remainingPayloadSize = 0 then
    ⟨{ socket.evaluateEmpty.1 with parsingState := .frame }, socket.evaluateEmpty.2, true⟩
  else if socket.buffer = [] then socket.stays
  else (socket.takeChunk socket.payloadChunk).afterChunk

def parseBufferRound (socket : WebSocket) : Round WebSocket SocketEvent :=
  match socket.parsingState with
  | .frame => socket.parseFrame
  | .size16 => socket.parseSize 2
  | .size64 => socket.parseSize 8
  | .maskingKey => socket.parseMaskingKey
  | .payloadData => socket.parsePayloadData

/-- The rounds to come: each takes bytes off the buffer, but for the end of an empty payload. -/
def work (socket : WebSocket) : Nat :=
  2 * socket.buffer.length + if socket.parsingState = .payloadData then 1 else 0

/-- A piece of the input; a closed socket hands over nothing. -/
def supply (socket : WebSocket) (data : Bytes) : WebSocket :=
  if socket.socketOpen then { socket with buffer := socket.buffer ++ data } else socket

/-! ## Input that comes later -/

def extended (socket : WebSocket) (more : Bytes) : WebSocket :=
  { socket with buffer := socket.buffer ++ more }

theorem supply_open {socket : WebSocket} (alive : socket.socketOpen = true) (more : Bytes) :
    socket.supply more = socket.extended more := by
  unfold supply
  rw [if_pos alive]
  rfl

theorem supply_closed {socket : WebSocket} (dead : ¬ socket.socketOpen = true) (more : Bytes) :
    socket.supply more = socket := by
  unfold supply
  rw [if_neg dead]

theorem supply_socket_open (socket : WebSocket) (more : Bytes) :
    (socket.supply more).socketOpen = socket.socketOpen := by
  unfold supply
  split_ifs <;> rfl

theorem supply_append (socket : WebSocket) (front back : Bytes) :
    socket.supply (front ++ back) = (socket.supply front).supply back := by
  by_cases alive : socket.socketOpen = true
  · have still : (socket.extended front).socketOpen = true := alive
    rw [supply_open alive, supply_open alive, supply_open still]
    unfold extended
    rw [List.append_assoc]
  · rw [supply_closed alive, supply_closed alive, supply_closed alive]

theorem extended_close (socket : WebSocket) (code : Nat) (more : Bytes) :
    (socket.extended more).close code =
      ((socket.close code).1.extended more, (socket.close code).2) := by
  unfold close extended
  dsimp only
  split_ifs <;> rfl

theorem extended_control (socket : WebSocket) (more : Bytes) :
    (socket.extended more).evaluateControlFrame =
      (socket.evaluateControlFrame.1.extended more, socket.evaluateControlFrame.2) := by
  unfold evaluateControlFrame
  rw [extended_close]
  unfold extended
  dsimp only
  split_ifs <;> rfl

theorem extended_frame (socket : WebSocket) (more : Bytes) :
    (socket.extended more).evaluateFrame =
      (socket.evaluateFrame.1.extended more, socket.evaluateFrame.2) := by
  unfold evaluateFrame
  rw [extended_control]
  unfold extended
  dsimp only
  split_ifs <;> rfl

theorem extended_empty (socket : WebSocket) (more : Bytes) :
    (socket.extended more).evaluateEmpty =
      (socket.evaluateEmpty.1.extended more, socket.evaluateEmpty.2) := by
  unfold evaluateEmpty
  rw [extended_control]
  unfold extended
  dsimp only
  split_ifs <;> rfl

/-- The round of a socket that was handed more goes as it went without. -/
def Unmoved (round : WebSocket → Round WebSocket SocketEvent) (socket : WebSocket) : Prop :=
  ∀ more, round (socket.extended more) =
    { round socket with state := (round socket).state.extended more }

/-- The round goes on or closes the socket, and goes so whatever it is handed. -/
def Settled (round : WebSocket → Round WebSocket SocketEvent) (socket : WebSocket) : Prop :=
  ((round socket).again = true ∨ (round socket).state.socketOpen = false) ∧ Unmoved round socket

/-- The round takes up where the same round stopped. -/
def TakenUp (round : WebSocket → Round WebSocket SocketEvent) (socket : WebSocket) : Prop :=
  (round socket).again = false ∧ (round socket).events = [] ∧
    (round socket).state.parsingState = socket.parsingState ∧
    (round socket).state.socketOpen = socket.socketOpen ∧
    ∀ more, round (socket.extended more) = round ((round socket).state.extended more)

theorem stays_taken_up {round : WebSocket → Round WebSocket SocketEvent} {socket : WebSocket}
    (waits : round socket = socket.stays) : TakenUp round socket := by
  unfold TakenUp
  rw [waits]
  exact ⟨rfl, rfl, rfl, rfl, fun _ => rfl⟩

theorem extended_failed (socket : WebSocket) : Unmoved failed socket := by
  intro more
  unfold failed
  rw [extended_close]
  rfl

theorem extended_header (frame : Frame) (socket : WebSocket) :
    Unmoved (fun other => other.parseHeader frame) socket := by
  intro more
  unfold parseHeader
  dsimp only
  rw [extended_failed socket more]
  unfold extended
  dsimp only
  split_ifs <;> rfl

theorem header_settles (socket : WebSocket) (frame : Frame) :
    (socket.parseHeader frame).again = true ∨
      (socket.parseHeader frame).state.socketOpen = false := by
  unfold parseHeader
  split_ifs
  · exact .inr rfl
  · exact .inr rfl
  all_goals exact .inl rfl

theorem parse_frame_cases (socket : WebSocket) :
    Settled parseFrame socket ∨ TakenUp parseFrame socket := by
  rcases held : socket.buffer with _ | ⟨first, _ | ⟨second, rest⟩⟩
  · right
    apply stays_taken_up
    unfold parseFrame
    rw [held]
  · right
    apply stays_taken_up
    unfold parseFrame
    rw [held]
  · left
    constructor
    · unfold parseFrame
      rw [held]
      exact header_settles { socket with frame := ⟨first, second⟩, buffer := rest } _
    intro more
    have longer : (socket.extended more).buffer = first :: second :: (rest ++ more) := by
      unfold extended
      rw [held]
      rfl
    unfold parseFrame
    rw [longer, held]
    exact extended_header ⟨first, second⟩
      { socket with frame := ⟨first, second⟩, buffer := rest } more

theorem parse_size_cases (bytes : Nat) (socket : WebSocket) :
    Settled (fun other => other.parseSize bytes) socket ∨
      TakenUp (fun other => other.parseSize bytes) socket := by
  by_cases short : socket.buffer.length < bytes
  · right
    apply stays_taken_up
    unfold parseSize
    rw [if_pos short]
  · left
    constructor
    · left
      unfold parseSize
      dsimp only
      rw [if_neg short]
      rfl
    intro more
    have enough : bytes ≤ socket.buffer.length := by omega
    have longer : ¬ (socket.extended more).buffer.length < bytes := by
      unfold extended
      rw [List.length_append]
      omega
    unfold parseSize
    dsimp only
    rw [if_neg short, if_neg longer]
    unfold extended
    dsimp only
    rw [List.take_append_of_le_length enough, List.drop_append_of_le_length enough]
    rfl

theorem parse_masking_key_cases (socket : WebSocket) :
    Settled parseMaskingKey socket ∨ TakenUp parseMaskingKey socket := by
  rcases held : socket.buffer with
    _ | ⟨piece0, _ | ⟨piece1, _ | ⟨piece2, _ | ⟨piece3, rest⟩⟩⟩⟩
  case cons.cons.cons.cons =>
    left
    constructor
    · left
      unfold parseMaskingKey
      rw [held]
      rfl
    intro more
    unfold parseMaskingKey extended
    rw [held]
    rfl
  all_goals
    right
    apply stays_taken_up
    unfold parseMaskingKey
    rw [held]

/-! ## The payload -/

theorem piece_modulo (key : MaskingKey) {index other : Nat} (same : index % 4 = other % 4) :
    key.piece index = key.piece other := by
  unfold MaskingKey.piece
  rw [same]

end WebSocket

open WebSocket

theorem unmasked_cons (key : MaskingKey) (index : Nat) (byte : UInt8) (bytes : Bytes) :
    unmasked key index (byte :: bytes) =
      (byte ^^^ key.piece index) :: unmasked key (index + 1) bytes := rfl

theorem unmasked_length (key : MaskingKey) (index : Nat) (bytes : Bytes) :
    (unmasked key index bytes).length = bytes.length := by
  induction bytes generalizing index with
  | nil => rfl
  | cons byte bytes induction =>
      rw [unmasked_cons, List.length_cons, List.length_cons, induction]

theorem unmasked_append (key : MaskingKey) (index : Nat) (front back : Bytes) :
    unmasked key index (front ++ back) =
      unmasked key index front ++ unmasked key (index + front.length) back := by
  induction front generalizing index with
  | nil => rfl
  | cons byte front induction =>
      have further : index + 1 + front.length = index + (byte :: front).length := by
        rw [List.length_cons]
        omega
      rw [List.cons_append, unmasked_cons, unmasked_cons, induction, further, List.cons_append]

theorem unmasked_modulo (key : MaskingKey) (bytes : Bytes) {index other : Nat}
    (same : index % 4 = other % 4) : unmasked key index bytes = unmasked key other bytes := by
  induction bytes generalizing index other with
  | nil => rfl
  | cons byte bytes induction =>
      have following : (index + 1) % 4 = (other + 1) % 4 := by omega
      rw [unmasked_cons, unmasked_cons, piece_modulo key same, induction following]

theorem unmasked_twice (key : MaskingKey) (index : Nat) (bytes : Bytes) :
    unmasked key index (unmasked key index bytes) = bytes := by
  induction bytes generalizing index with
  | nil => rfl
  | cons byte bytes induction =>
      have back : (byte ^^^ key.piece index) ^^^ key.piece index = byte := by
        rw [UInt8.xor_assoc, UInt8.xor_self, UInt8.xor_zero]
      rw [unmasked_cons, unmasked_cons, back, induction]

namespace WebSocket

theorem decode_fragment_append (socket : WebSocket) (front back : Bytes) (decoded : WebSocket)
    (key : decoded.maskingKey = socket.maskingKey)
    (role : decoded.isClientNode = socket.isClientNode)
    (index : decoded.maskingIndex = socket.decodedIndex front) :
    socket.decodeFragment (front ++ back) =
      socket.decodeFragment front ++ decoded.decodeFragment back := by
  unfold decodeFragment
  unfold decodedIndex at index
  rw [role]
  split_ifs at index ⊢ with client
  · rfl
  · rw [unmasked_append, index, key]
    congr 1
    apply unmasked_modulo
    rw [UInt8.toNat_add, UInt8.toNat_ofNat']
    omega

theorem decoded_index_append (socket : WebSocket) (front back : Bytes) (decoded : WebSocket)
    (role : decoded.isClientNode = socket.isClientNode)
    (index : decoded.maskingIndex = socket.decodedIndex front) :
    socket.decodedIndex (front ++ back) = decoded.decodedIndex back := by
  unfold decodedIndex
  unfold decodedIndex at index
  rw [role, List.length_append, UInt8.ofNat_add]
  split_ifs at index ⊢ with client
  · exact index.symm
  · rw [index, UInt8.add_assoc]

theorem wrap_le (size : Nat) : (wrap size).toNat ≤ size := by
  unfold wrap
  omega

theorem wrap_sub (size taken : Nat) (within : taken ≤ (wrap size).toNat) :
    (wrap (size - taken : Nat)).toNat = (wrap size).toNat - taken := by
  unfold wrap at within ⊢
  omega

theorem payload_chunk_extended (socket : WebSocket) (more : Bytes) :
    (socket.extended more).payloadChunk = socket.payloadChunk ++
      more.take ((wrap socket.remainingPayloadSize).toNat - socket.buffer.length) :=
  List.take_append

theorem payload_chunk_length (socket : WebSocket) : socket.payloadChunk.length =
    min (wrap socket.remainingPayloadSize).toNat socket.buffer.length :=
  List.length_take

theorem chunk_after (socket : WebSocket) (chunk more : Bytes) :
    ((socket.takeChunk chunk).extended more).payloadChunk =
      (socket.buffer.drop chunk.length ++ more).take
        (wrap (socket.remainingPayloadSize - chunk.length : Nat)).toNat := rfl

/-- What is left of the payload is read as it would have been together with the first chunk. -/
theorem payload_chunk_rest (socket : WebSocket) (more : Bytes) :
    ((socket.takeChunk socket.payloadChunk).extended more).payloadChunk =
      more.take ((wrap socket.remainingPayloadSize).toNat - socket.buffer.length) := by
  have length := payload_chunk_length socket
  have size := wrap_sub socket.remainingPayloadSize socket.payloadChunk.length (by omega)
  rw [chunk_after, size]
  by_cases all : socket.buffer.length ≤ (wrap socket.remainingPayloadSize).toNat
  · have whole : socket.payloadChunk.length = socket.buffer.length := by omega
    rw [whole, List.drop_length, List.nil_append]
  · have none : (wrap socket.remainingPayloadSize).toNat - socket.payloadChunk.length = 0 := by
      omega
    have zero : (wrap socket.remainingPayloadSize).toNat - socket.buffer.length = 0 := by omega
    rw [none, zero, List.take_zero, List.take_zero]

theorem take_chunk_twice (socket : WebSocket) (front back more : Bytes)
    (within : front.length ≤ socket.buffer.length) :
    (socket.extended more).takeChunk (front ++ back) =
      ((socket.takeChunk front).extended more).takeChunk back := by
  have buffer : (socket.buffer ++ more).drop (front ++ back).length =
      (socket.buffer.drop front.length ++ more).drop back.length := by
    rw [List.length_append, ← List.drop_drop, List.drop_append_of_le_length within]
  have size : socket.remainingPayloadSize - (front ++ back).length =
      socket.remainingPayloadSize - front.length - back.length := by
    rw [List.length_append, Nat.sub_sub]
  have index : socket.decodedIndex (front ++ back) = (socket.takeChunk front).decodedIndex back :=
    decoded_index_append socket front back _ rfl rfl
  have payload : socket.payload ++ socket.decodeFragment (front ++ back) =
      socket.payload ++ socket.decodeFragment front ++
        (socket.takeChunk front).decodeFragment back := by
    rw [decode_fragment_append socket front back (socket.takeChunk front) rfl rfl rfl,
      List.append_assoc]
  unfold takeChunk at index payload
  unfold takeChunk extended
  congr 1

theorem take_chunk_extended (socket : WebSocket) (more : Bytes) :
    (socket.extended more).takeChunk (socket.extended more).payloadChunk =
      ((socket.takeChunk socket.payloadChunk).extended more).takeChunk
        ((socket.takeChunk socket.payloadChunk).extended more).payloadChunk := by
  rw [payload_chunk_extended, payload_chunk_rest]
  apply take_chunk_twice
  rw [payload_chunk_length]
  omega

theorem take_chunk_parsing (socket : WebSocket) (chunk : Bytes) :
    (socket.takeChunk chunk).parsingState = socket.parsingState := rfl

theorem take_chunk_open (socket : WebSocket) (chunk : Bytes) :
    (socket.takeChunk chunk).socketOpen = socket.socketOpen := rfl

theorem take_chunk_nil (socket : WebSocket) : socket.takeChunk [] = socket := by
  have index : socket.decodedIndex [] = socket.maskingIndex := by
    unfold decodedIndex
    split_ifs
    · rfl
    · exact UInt8.add_zero _
  have decoded : socket.decodeFragment [] = [] := by
    unfold decodeFragment
    split_ifs <;> rfl
  unfold takeChunk
  rw [index, decoded, List.append_nil]
  rfl

theorem parse_payload_data_some {socket : WebSocket} (some : socket.remainingPayloadSize ≠ 0) :
    socket.parsePayloadData = (socket.takeChunk socket.payloadChunk).afterChunk := by
  unfold parsePayloadData
  rw [if_neg some]
  split_ifs with none
  · have nothing : socket.payloadChunk = [] := by
      unfold payloadChunk left
      rw [none, List.take_nil]
    rw [nothing, take_chunk_nil]
    unfold afterChunk
    rw [if_pos some]
  · rfl

theorem extended_after_chunk {socket : WebSocket} (complete : socket.remainingPayloadSize = 0) :
    Unmoved afterChunk socket := by
  intro more
  have still : (socket.extended more).remainingPayloadSize = 0 := complete
  unfold afterChunk
  rw [if_neg (not_not.mpr still), if_neg (not_not.mpr complete)]
  have evaluated := extended_frame { socket with parsingState := .frame } more
  unfold extended at evaluated ⊢
  dsimp only at evaluated ⊢
  rw [evaluated]

theorem take_chunk_complete {socket : WebSocket}
    (complete : (socket.takeChunk socket.payloadChunk).remainingPayloadSize = 0) (more : Bytes) :
    (socket.extended more).takeChunk (socket.extended more).payloadChunk =
      (socket.takeChunk socket.payloadChunk).extended more := by
  have length := payload_chunk_length socket
  have size : socket.remainingPayloadSize - socket.payloadChunk.length = 0 := complete
  have bound := wrap_le socket.remainingPayloadSize
  have zero : (wrap socket.remainingPayloadSize).toNat - socket.buffer.length = 0 := by omega
  rw [take_chunk_extended, payload_chunk_rest, zero, List.take_zero, take_chunk_nil]

theorem parse_payload_data_cases (socket : WebSocket) :
    Settled parsePayloadData socket ∨ TakenUp parsePayloadData socket := by
  by_cases none : socket.remainingPayloadSize = 0
  · left
    constructor
    · left
      unfold parsePayloadData
      rw [if_pos none]
    intro more
    have still : (socket.extended more).remainingPayloadSize = 0 := none
    unfold parsePayloadData
    rw [if_pos none, if_pos still, extended_empty]
    rfl
  have some : ∀ more, (socket.extended more).remainingPayloadSize ≠ 0 := fun _ => none
  by_cases complete : (socket.takeChunk socket.payloadChunk).remainingPayloadSize = 0
  · left
    constructor
    · left
      rw [parse_payload_data_some none]
      unfold afterChunk
      rw [if_neg (not_not.mpr complete)]
    intro more
    rw [parse_payload_data_some none, parse_payload_data_some (some more),
      take_chunk_complete complete]
    exact extended_after_chunk complete more
  · right
    have waits : socket.parsePayloadData = (socket.takeChunk socket.payloadChunk).stays := by
      rw [parse_payload_data_some none]
      unfold afterChunk
      rw [if_pos complete]
    unfold TakenUp
    rw [waits]
    have later : ∀ more, ((socket.takeChunk socket.payloadChunk).extended more).parsePayloadData =
        (socket.extended more).parsePayloadData := by
      intro more
      have left : ((socket.takeChunk socket.payloadChunk).extended more).remainingPayloadSize ≠ 0 :=
        complete
      rw [parse_payload_data_some left, parse_payload_data_some (some more),
        take_chunk_extended socket more]
    exact ⟨rfl, rfl, take_chunk_parsing socket _, take_chunk_open socket _,
      fun more => (later more).symm⟩

theorem round_cases (socket : WebSocket) :
    Settled parseBufferRound socket ∨ TakenUp parseBufferRound socket := by
  have lift : ∀ round : WebSocket → Round WebSocket SocketEvent,
      (∀ other : WebSocket, other.parsingState = socket.parsingState →
        other.parseBufferRound = round other) →
      Settled round socket ∨ TakenUp round socket →
      Settled parseBufferRound socket ∨ TakenUp parseBufferRound socket := by
    intro round same either
    apply either.imp
    · intro settled
      constructor
      · rw [same socket rfl]
        exact settled.1
      intro more
      rw [same (socket.extended more) rfl, same socket rfl]
      exact settled.2 more
    · intro taken
      unfold TakenUp
      rw [same socket rfl]
      refine ⟨taken.1, taken.2.1, taken.2.2.1, taken.2.2.2.1, ?_⟩
      intro more
      rw [same (socket.extended more) rfl,
        same ((round socket).state.extended more) taken.2.2.1]
      exact taken.2.2.2.2 more
  cases parsing : socket.parsingState with
  | frame =>
      apply lift _ _ (parse_frame_cases socket)
      intro other same
      unfold parseBufferRound
      rw [same, parsing]
  | size16 =>
      apply lift _ _ (parse_size_cases 2 socket)
      intro other same
      unfold parseBufferRound
      rw [same, parsing]
  | size64 =>
      apply lift _ _ (parse_size_cases 8 socket)
      intro other same
      unfold parseBufferRound
      rw [same, parsing]
  | maskingKey =>
      apply lift _ _ (parse_masking_key_cases socket)
      intro other same
      unfold parseBufferRound
      rw [same, parsing]
  | payloadData =>
      apply lift _ _ (parse_payload_data_cases socket)
      intro other same
      unfold parseBufferRound
      rw [same, parsing]

/-! ## The rounds are a parser -/

theorem close_kept (socket : WebSocket) (code : Nat) :
    (socket.close code).1.buffer = socket.buffer ∧
      (socket.close code).1.parsingState = socket.parsingState := by
  unfold close
  split_ifs <;> exact ⟨rfl, rfl⟩

theorem control_kept (socket : WebSocket) :
    socket.evaluateControlFrame.1.buffer = socket.buffer ∧
      socket.evaluateControlFrame.1.parsingState = socket.parsingState := by
  unfold evaluateControlFrame
  split_ifs
  · exact ⟨rfl, rfl⟩
  · exact ⟨rfl, rfl⟩
  · exact ⟨rfl, rfl⟩
  · exact ⟨rfl, rfl⟩
  · exact ⟨rfl, rfl⟩
  · exact close_kept socket 1008

theorem frame_kept (socket : WebSocket) :
    socket.evaluateFrame.1.buffer = socket.buffer ∧
      socket.evaluateFrame.1.parsingState = socket.parsingState := by
  unfold evaluateFrame
  split_ifs
  · exact control_kept socket
  all_goals exact ⟨rfl, rfl⟩

theorem empty_kept (socket : WebSocket) :
    socket.evaluateEmpty.1.buffer = socket.buffer := by
  unfold evaluateEmpty
  split_ifs
  · exact (control_kept socket).1
  · rfl

theorem after_size_work (socket : WebSocket) (held : Bytes) (bytes : Nat) (taken : 0 < bytes)
    (within : bytes ≤ socket.buffer.length) (length : held.length = socket.buffer.length - bytes)
    (parsing : socket.parsingState ≠ .payloadData) {after : WebSocket}
    (left : after.buffer = held) : after.work < socket.work := by
  unfold work
  rw [if_neg parsing, left, length]
  split_ifs <;> omega

theorem header_work (socket : WebSocket) {frame : Frame}
    (again : (socket.parseHeader frame).again = true) :
    (socket.parseHeader frame).state.buffer = socket.buffer := by
  unfold parseHeader at again ⊢
  split_ifs at again ⊢
  all_goals first | rfl | exact absurd again Bool.false_ne_true

theorem parse_frame_work {socket : WebSocket} (again : socket.parseFrame.again = true)
    (parsing : socket.parsingState ≠ .payloadData) : socket.parseFrame.state.work < socket.work := by
  unfold parseFrame at again ⊢
  rcases held : socket.buffer with _ | ⟨first, _ | ⟨second, rest⟩⟩
  · rw [held] at again
    exact absurd again Bool.false_ne_true
  · rw [held] at again
    exact absurd again Bool.false_ne_true
  · rw [held] at again
    have length : socket.buffer.length = rest.length + 2 := by
      rw [held]
      rfl
    exact after_size_work socket rest 2 (by decide) (by omega) (by omega) parsing
      (header_work { socket with frame := ⟨first, second⟩, buffer := rest } again)

theorem parse_size_work {socket : WebSocket} {bytes : Nat} (taken : 0 < bytes)
    (again : (socket.parseSize bytes).again = true) (parsing : socket.parsingState ≠ .payloadData) :
    (socket.parseSize bytes).state.work < socket.work := by
  unfold parseSize at again ⊢
  split_ifs at again ⊢ with short
  · exact absurd again Bool.false_ne_true
  · exact after_size_work socket (socket.buffer.drop bytes) bytes taken (by omega)
      List.length_drop parsing rfl

theorem parse_masking_key_work {socket : WebSocket} (again : socket.parseMaskingKey.again = true)
    (parsing : socket.parsingState ≠ .payloadData) :
    socket.parseMaskingKey.state.work < socket.work := by
  unfold parseMaskingKey at again ⊢
  rcases held : socket.buffer with
    _ | ⟨piece0, _ | ⟨piece1, _ | ⟨piece2, _ | ⟨piece3, rest⟩⟩⟩⟩
  case cons.cons.cons.cons =>
    rw [held] at again
    have length : socket.buffer.length = rest.length + 4 := by
      rw [held]
      rfl
    exact after_size_work socket rest 4 (by decide) (by omega) (by omega) parsing rfl
  all_goals
    rw [held] at again
    exact absurd again Bool.false_ne_true

theorem parse_payload_data_work {socket : WebSocket} (again : socket.parsePayloadData.again = true)
    (parsing : socket.parsingState = .payloadData) :
    socket.parsePayloadData.state.work < socket.work := by
  have finished : ∀ after : WebSocket, after.buffer.length ≤ socket.buffer.length →
      after.parsingState = .frame → after.work < socket.work := by
    intro after length parsed
    unfold work
    rw [if_pos parsing, parsed, if_neg (by decide)]
    omega
  by_cases none : socket.remainingPayloadSize = 0
  · unfold parsePayloadData
    rw [if_pos none]
    apply finished
    · exact le_of_eq (congrArg List.length (empty_kept socket))
    · rfl
  · rw [parse_payload_data_some none] at again ⊢
    unfold afterChunk at again ⊢
    split_ifs at again ⊢ with left
    · exact absurd again Bool.false_ne_true
    · have kept := frame_kept
        { socket.takeChunk socket.payloadChunk with parsingState := .frame }
      apply finished
      · rw [kept.1]
        unfold takeChunk
        rw [List.length_drop]
        omega
      · exact kept.2

theorem round_work {socket : WebSocket} (again : socket.parseBufferRound.again = true) :
    socket.parseBufferRound.state.work < socket.work := by
  cases parsing : socket.parsingState with
  | frame =>
      have round : socket.parseBufferRound = socket.parseFrame := by
        unfold parseBufferRound
        rw [parsing]
      rw [round] at again ⊢
      exact parse_frame_work again (by rw [parsing]; decide)
  | size16 =>
      have round : socket.parseBufferRound = socket.parseSize 2 := by
        unfold parseBufferRound
        rw [parsing]
      rw [round] at again ⊢
      exact parse_size_work (by decide) again (by rw [parsing]; decide)
  | size64 =>
      have round : socket.parseBufferRound = socket.parseSize 8 := by
        unfold parseBufferRound
        rw [parsing]
      rw [round] at again ⊢
      exact parse_size_work (by decide) again (by rw [parsing]; decide)
  | maskingKey =>
      have round : socket.parseBufferRound = socket.parseMaskingKey := by
        unfold parseBufferRound
        rw [parsing]
      rw [round] at again ⊢
      exact parse_masking_key_work again (by rw [parsing]; decide)
  | payloadData =>
      have round : socket.parseBufferRound = socket.parsePayloadData := by
        unfold parseBufferRound
        rw [parsing]
      rw [round] at again ⊢
      exact parse_payload_data_work again parsing

/-- A socket still open afterwards was open before, and nothing else has happened to the
connection than that it may be closing. -/
def StillOpen (socket after : WebSocket) : Prop :=
  after.socketOpen = true → socket.socketOpen = true ∧
    after.protocolError = socket.protocolError ∧ after.isClientNode = socket.isClientNode ∧
    (after.state = socket.state ∨ after.state = .closing)

theorem control_open (socket : WebSocket) : StillOpen socket socket.evaluateControlFrame.1 := by
  intro alive
  unfold evaluateControlFrame at alive ⊢
  split_ifs at alive ⊢
  · exact ⟨alive, rfl, rfl, .inr rfl⟩
  · exact ⟨alive, rfl, rfl, .inl rfl⟩
  · exact ⟨alive, rfl, rfl, .inl rfl⟩

theorem frame_open (socket : WebSocket) : StillOpen socket socket.evaluateFrame.1 := by
  intro alive
  unfold evaluateFrame at alive ⊢
  split_ifs at alive ⊢
  · exact control_open socket alive
  all_goals exact ⟨alive, rfl, rfl, .inl rfl⟩

theorem empty_open (socket : WebSocket) : StillOpen socket socket.evaluateEmpty.1 := by
  intro alive
  unfold evaluateEmpty at alive ⊢
  split_ifs at alive ⊢
  · exact control_open socket alive
  · exact ⟨alive, rfl, rfl, .inl rfl⟩

theorem header_open (socket : WebSocket) (frame : Frame) :
    StillOpen socket (socket.parseHeader frame).state := by
  intro alive
  unfold parseHeader at alive ⊢
  split_ifs at alive ⊢
  all_goals first
    | exact ⟨alive, rfl, rfl, .inl rfl⟩
    | exact absurd alive Bool.false_ne_true

theorem after_chunk_open (socket : WebSocket) : StillOpen socket socket.afterChunk.state := by
  intro alive
  unfold afterChunk at alive ⊢
  split_ifs at alive ⊢
  · exact ⟨alive, rfl, rfl, .inl rfl⟩
  · exact frame_open { socket with parsingState := .frame } alive

theorem parse_frame_open (socket : WebSocket) : StillOpen socket socket.parseFrame.state := by
  intro alive
  unfold parseFrame at alive ⊢
  rcases held : socket.buffer with _ | ⟨first, _ | ⟨second, rest⟩⟩
  · rw [held] at alive
    exact ⟨alive, rfl, rfl, .inl rfl⟩
  · rw [held] at alive
    exact ⟨alive, rfl, rfl, .inl rfl⟩
  · rw [held] at alive
    exact header_open { socket with frame := ⟨first, second⟩, buffer := rest } _ alive

theorem parse_size_open (socket : WebSocket) (bytes : Nat) :
    StillOpen socket (socket.parseSize bytes).state := by
  intro alive
  unfold parseSize at alive ⊢
  split_ifs at alive ⊢
  all_goals exact ⟨alive, rfl, rfl, .inl rfl⟩

theorem parse_masking_key_open (socket : WebSocket) :
    StillOpen socket socket.parseMaskingKey.state := by
  intro alive
  unfold parseMaskingKey at alive ⊢
  rcases held : socket.buffer with
    _ | ⟨piece0, _ | ⟨piece1, _ | ⟨piece2, _ | ⟨piece3, rest⟩⟩⟩⟩
  all_goals
    rw [held] at alive
    exact ⟨alive, rfl, rfl, .inl rfl⟩

theorem take_chunk_kept (socket : WebSocket) (chunk : Bytes) :
    (socket.takeChunk chunk).protocolError = socket.protocolError ∧
      (socket.takeChunk chunk).isClientNode = socket.isClientNode ∧
      (socket.takeChunk chunk).state = socket.state := ⟨rfl, rfl, rfl⟩

theorem parse_payload_data_open (socket : WebSocket) :
    StillOpen socket socket.parsePayloadData.state := by
  intro alive
  by_cases none : socket.remainingPayloadSize = 0
  · unfold parsePayloadData at alive ⊢
    rw [if_pos none] at alive ⊢
    exact empty_open socket alive
  · rw [parse_payload_data_some none] at alive ⊢
    have taken := after_chunk_open _ alive
    have kept := take_chunk_kept socket socket.payloadChunk
    rw [take_chunk_open, kept.1, kept.2.1, kept.2.2] at taken
    exact taken

theorem round_open (socket : WebSocket) : StillOpen socket socket.parseBufferRound.state := by
  unfold parseBufferRound
  split
  · exact parse_frame_open socket
  · exact parse_size_open socket 2
  · exact parse_size_open socket 8
  · exact parse_masking_key_open socket
  · exact parse_payload_data_open socket

/-- A round that goes on or closes the socket is the one a longer buffer has. -/
theorem round_unmoved {socket : WebSocket}
    (moves : socket.parseBufferRound.again = true ∨
      socket.parseBufferRound.state.socketOpen ≠ socket.socketOpen) :
    Unmoved parseBufferRound socket := by
  rcases round_cases socket with settled | taken
  · exact settled.2
  · unfold TakenUp at taken
    rcases moves with again | closes
    · rw [taken.1] at again
      exact absurd again Bool.false_ne_true
    · exact absurd taken.2.2.2.1 closes

theorem round_gone {socket : WebSocket} (more : Bytes)
    (dead : ¬ socket.parseBufferRound.state.socketOpen = true) :
    ¬ (socket.supply more).parseBufferRound.state.socketOpen = true := by
  by_cases alive : socket.socketOpen = true
  · have moves : socket.parseBufferRound.state.socketOpen ≠ socket.socketOpen := by
      rw [alive]
      exact dead
    rw [supply_open alive, round_unmoved (.inr moves) more]
    exact dead
  · rw [supply_closed alive]
    exact dead

theorem round_stable {socket : WebSocket} (more : Bytes)
    (alive : socket.parseBufferRound.state.socketOpen = true)
    (again : socket.parseBufferRound.again = true) :
    (socket.supply more).parseBufferRound =
      { socket.parseBufferRound with state := socket.parseBufferRound.state.supply more } := by
  rw [supply_open (round_open socket alive).1, supply_open alive]
  exact round_unmoved (.inl again) more

theorem round_resumes {socket : WebSocket} (more : Bytes)
    (alive : socket.parseBufferRound.state.socketOpen = true)
    (stops : socket.parseBufferRound.again = false) :
    (socket.supply more).parseBufferRound =
      { (socket.parseBufferRound.state.supply more).parseBufferRound with
        events := socket.parseBufferRound.events ++
          (socket.parseBufferRound.state.supply more).parseBufferRound.events } := by
  rw [supply_open (round_open socket alive).1, supply_open alive]
  rcases round_cases socket with settled | taken
  · rcases settled.1 with again | closed
    · rw [stops] at again
      exact absurd again Bool.false_ne_true
    · rw [closed] at alive
      exact absurd alive Bool.false_ne_true
  · unfold TakenUp at taken
    rw [taken.2.2.2.2 more, taken.2.1, List.nil_append]

/-- `parseBuffer` on what `readData` is handed. -/
def receiver : Parser WebSocket UInt8 SocketEvent where
  supply := supply
  round := parseBufferRound
  work := work
  live socket := socket.socketOpen = true
  supply_append := supply_append
  shrinks _ again := round_work again
  gives_up socket alive := (round_open socket alive).1
  gone _ more dead := round_gone more dead
  stable _ more alive again := round_stable more alive again
  resumes _ more alive stops := round_resumes more alive stops

/-- `onReadyRead`: a piece of what the other end wrote. -/
def readData (socket : WebSocket) (data : Bytes) : WebSocket × List SocketEvent :=
  receiver.feed socket data

def readAll (socket : WebSocket) (pieces : List Bytes) : WebSocket × List SocketEvent :=
  receiver.feedAll socket pieces

/-- However the bytes an end receives are cut, it comes to the same state and has emitted and
written the same, as long as they do not make it close the socket. -/
theorem read_all_of_any_pieces (socket : WebSocket) (pieces : List Bytes) (filled : pieces ≠ [])
    (alive : (socket.readData pieces.flatten).1.socketOpen = true) :
    socket.readAll pieces = socket.readData pieces.flatten :=
  Parser.feed_all_flatten filled alive

theorem read_all_of_two_pieces :
    (opened true).readAll [[0x81], [0x01, 97]] = (opened true).readData [0x81, 0x01, 97] :=
  read_all_of_any_pieces (opened true) [[0x81], [0x01, 97]] (by decide) (by decide +kernel)

end WebSocket

/-! ## One frame -/

theorem to_big_endian_length (bytes value : Nat) : (toBigEndian bytes value).length = bytes := by
  induction bytes generalizing value with
  | zero => rfl
  | succ bytes induction =>
      unfold toBigEndian
      rw [List.length_append, induction]
      rfl

theorem big_endian_of_number (bytes value : Nat) (fits : value < 256 ^ bytes) :
    bigEndian (toBigEndian bytes value) = value := by
  induction bytes generalizing value with
  | zero =>
      have zero : value = 0 := by
        rw [Nat.pow_zero] at fits
        omega
      rw [zero]
      rfl
  | succ bytes induction =>
      have high : value / 256 < 256 ^ bytes := by
        rw [Nat.pow_succ, Nat.mul_comm] at fits
        exact Nat.div_lt_of_lt_mul fits
      have low : (UInt8.ofNat value).toNat = value % 256 := UInt8.toNat_ofNat'
      have front := induction (value / 256) high
      unfold bigEndian at front ⊢
      unfold toBigEndian
      rw [List.foldl_append, front, List.foldl_cons, List.foldl_nil, low]
      omega

theorem role_and_length (isClientNode : Bool) (length : Fin 128) :
    let second := (Frame.standardFrame isClientNode).second &&& 0x80 ||| UInt8.ofNat length &&& 0x7F
    (second &&& 0x80 != 0) = isClientNode ∧ second &&& 0x7F = UInt8.ofNat length := by
  revert isClientNode length
  decide

namespace WebSocket

theorem parse_proceeds {socket next : WebSocket} (goes : socket.parseBufferRound = proceeds next) :
    receiver.parse socket = receiver.parse next := by
  have round : receiver.round socket = proceeds next := goes
  rw [Parser.parse_again (by rw [round]; rfl), round]
  rfl

theorem parse_idle {socket : WebSocket} (parsing : socket.parsingState = .frame)
    (held : socket.buffer = []) : receiver.parse socket = (socket, []) := by
  have round : receiver.round socket = socket.stays := by
    change socket.parseBufferRound = socket.stays
    unfold parseBufferRound
    rw [parsing]
    unfold parseFrame
    rw [held]
  rw [Parser.parse_stops (by rw [round]; rfl), round]
  rfl

def evaluated (socket : WebSocket) (payload : Bytes) : WebSocket × List SocketEvent :=
  if payload = [] then socket.evaluateEmpty else socket.evaluateFrame

def betweenFrames (socket : WebSocket) : WebSocket := { socket with parsingState := .frame }

theorem between_close (socket : WebSocket) (code : Nat) :
    socket.betweenFrames.close code =
      ((socket.close code).1.betweenFrames, (socket.close code).2) := by
  unfold close betweenFrames
  dsimp only
  split_ifs <;> rfl

theorem between_control (socket : WebSocket) :
    socket.betweenFrames.evaluateControlFrame =
      (socket.evaluateControlFrame.1.betweenFrames, socket.evaluateControlFrame.2) := by
  unfold evaluateControlFrame
  rw [between_close]
  unfold betweenFrames
  dsimp only
  split_ifs <;> rfl

theorem between_empty (socket : WebSocket) :
    socket.betweenFrames.evaluateEmpty =
      (socket.evaluateEmpty.1.betweenFrames, socket.evaluateEmpty.2) := by
  unfold evaluateEmpty
  rw [between_control]
  unfold betweenFrames
  dsimp only
  split_ifs <;> rfl

theorem parse_payload (socket : WebSocket) (parsing : socket.parsingState = .payloadData)
    (size : socket.remainingPayloadSize = socket.buffer.length)
    (fits : socket.buffer.length < 2147483648) :
    receiver.parse socket =
      (socket.takeChunk socket.buffer).betweenFrames.evaluated socket.buffer := by
  have chunk : socket.payloadChunk = socket.buffer := by
    have whole : socket.buffer.length ≤ (wrap socket.remainingPayloadSize).toNat := by
      unfold wrap
      omega
    exact List.take_of_length_le whole
  have left : (socket.takeChunk socket.buffer).betweenFrames.buffer = [] := List.drop_length
  have idle : ∀ after : WebSocket, after.buffer = [] → after.parsingState = .frame →
      receiver.parse after = (after, []) := fun after held parsed => parse_idle parsed held
  have round : receiver.round socket = socket.parsePayloadData := by
    change socket.parseBufferRound = _
    unfold parseBufferRound
    rw [parsing]
  unfold evaluated
  split_ifs with none
  · have zero : socket.remainingPayloadSize = 0 := by
      rw [size, none]
      rfl
    have goes : receiver.round socket =
        ⟨socket.evaluateEmpty.1.betweenFrames, socket.evaluateEmpty.2, true⟩ := by
      rw [round]
      unfold parsePayloadData
      rw [if_pos zero]
      rfl
    have held : socket.evaluateEmpty.1.betweenFrames.buffer = [] := (empty_kept socket).trans none
    rw [Parser.parse_again (by rw [goes]), goes]
    dsimp only
    rw [idle _ held rfl, none, take_chunk_nil, between_empty, List.append_nil]
  · have some : socket.remainingPayloadSize ≠ 0 := by
      rw [size]
      exact fun zero => none (List.length_eq_zero_iff.mp zero)
    have complete : (socket.takeChunk socket.buffer).remainingPayloadSize = 0 := by
      unfold takeChunk
      dsimp only
      omega
    have goes : receiver.round socket =
        ⟨(socket.takeChunk socket.buffer).betweenFrames.evaluateFrame.1,
          (socket.takeChunk socket.buffer).betweenFrames.evaluateFrame.2, true⟩ := by
      rw [round, parse_payload_data_some some, chunk]
      unfold afterChunk
      rw [if_neg (not_not.mpr complete)]
      rfl
    have kept := frame_kept (socket.takeChunk socket.buffer).betweenFrames
    rw [Parser.parse_again (by rw [goes]), goes]
    dsimp only
    rw [idle _ (kept.1.trans left) kept.2, List.append_nil]

def enciphered (isClientNode : Bool) (key : MaskingKey) (data : Bytes) : Bytes :=
  if isClientNode then key.bytes ++ unmasked key 0 data else data

structure Completed (socket : WebSocket) (data : Bytes) (read : WebSocket) : Prop where
  alive : read.socketOpen = socket.socketOpen
  error : read.protocolError = socket.protocolError
  state : read.state = socket.state
  role : read.isClientNode = socket.isClientNode
  frame : read.frame = socket.frame
  payload : read.payload = socket.payload ++ data
  fragment : read.fragment = socket.fragment
  parsing : read.parsingState = .frame
  buffer : read.buffer = []

theorem completed_chunk {socket : WebSocket} {data : Bytes}
    (decoded : socket.decodeFragment socket.buffer = data) :
    Completed socket data (socket.takeChunk socket.buffer).betweenFrames where
  alive := rfl
  error := rfl
  state := rfl
  role := rfl
  frame := rfl
  payload := congrArg (socket.payload ++ ·) decoded
  fragment := rfl
  parsing := rfl
  buffer := List.drop_length

theorem parse_enciphered (socket : WebSocket) (key : MaskingKey) (data : Bytes)
    (parsing : socket.parsingState = socket.afterSize)
    (size : socket.remainingPayloadSize = data.length) (fits : data.length < 2147483648)
    (held : socket.buffer = enciphered (!socket.isClientNode) key data) :
    ∃ read, Completed socket data read ∧ receiver.parse socket = read.evaluated data := by
  unfold afterSize at parsing
  unfold enciphered at held
  cases role : socket.isClientNode with
  | true =>
      rw [role, if_pos rfl] at parsing
      rw [role, Bool.not_true, if_neg Bool.false_ne_true] at held
      have decoded : socket.decodeFragment socket.buffer = data := by
        unfold decodeFragment
        rw [if_pos role, held]
      have parsed := parse_payload socket parsing (by rw [held, size]) (by rw [held]; exact fits)
      exact ⟨_, completed_chunk decoded, held ▸ parsed⟩
  | false =>
      rw [role, if_neg Bool.false_ne_true] at parsing
      rw [role, Bool.not_false, if_pos rfl] at held
      let keyed : WebSocket := { socket with
        maskingIndex := 0
        maskingKey := key
        buffer := unmasked key 0 data
        parsingState := .payloadData }
      have goes : socket.parseBufferRound = proceeds keyed := by
        unfold parseBufferRound
        rw [parsing]
        unfold parseMaskingKey
        rw [held]
        rfl
      have server : keyed.isClientNode = false := role
      have decoded : keyed.decodeFragment keyed.buffer = data := by
        unfold decodeFragment
        rw [server, if_neg Bool.false_ne_true]
        exact unmasked_twice key 0 data
      have length := unmasked_length key 0 data
      have parsed := parse_payload keyed rfl
        (size.trans length.symm) (length.trans_lt fits)
      have completed := completed_chunk decoded
      have evaluates : ∀ read : WebSocket, read.evaluated keyed.buffer = read.evaluated data := by
        intro read
        have same : keyed.buffer = [] ↔ data = [] := by
          rw [← List.length_eq_zero_iff, ← List.length_eq_zero_iff, ← length]
        unfold evaluated
        simp only [same]
      rw [← parse_proceeds goes, evaluates] at parsed
      exact ⟨_, ⟨completed.alive, completed.error, completed.state, completed.role,
        completed.frame, completed.payload, completed.fragment, completed.parsing,
        completed.buffer⟩, parsed⟩

def lengthCode (size : Nat) : Nat := if size < 126 then size else if size ≤ 65535 then 126 else 127

def sizeBytes (size : Nat) : Bytes :=
  if size < 126 then [] else if size ≤ 65535 then toBigEndian 2 size else toBigEndian 8 size

theorem write_payload_parts (frame : Frame) (isClientNode : Bool) (key : MaskingKey)
    (data : Bytes) :
    writePayload frame isClientNode key data =
      (frame.setPayloadLength (UInt8.ofNat (lengthCode data.length))).first ::
        (frame.setPayloadLength (UInt8.ofNat (lengthCode data.length))).second ::
          (sizeBytes data.length ++ enciphered isClientNode key data) := by
  unfold writePayload lengthCode sizeBytes enciphered
  dsimp only
  split_ifs <;> rfl

theorem length_code_bound (size : Nat) : lengthCode size < 128 := by
  unfold lengthCode
  split_ifs <;> omega

/-- A header of the other role, with its length, is accepted. -/
theorem parse_header (socket : WebSocket) (frame : Frame) (size : Nat)
    (whole : frame.fin = true ∨ frame.isControlFrame = false)
    (masked : frame.masked = !socket.isClientNode)
    (length : frame.payloadLength = UInt8.ofNat (lengthCode size)) :
    socket.parseHeader frame =
      if size < 126 then
        proceeds { socket with remainingPayloadSize := size, parsingState := socket.afterSize }
      else if size ≤ 65535 then proceeds { socket with parsingState := .size16 }
      else proceeds { socket with parsingState := .size64 } := by
  have complete : ¬ (!frame.fin && frame.isControlFrame) = true := by
    rcases whole with fin | data
    · rw [fin]
      exact Bool.false_ne_true
    · rw [data, Bool.and_false]
      exact Bool.false_ne_true
  have other : ¬ ((frame.masked && socket.isClientNode) ||
      (!frame.masked && !socket.isClientNode)) = true := by
    rw [masked]
    cases socket.isClientNode <;> exact Bool.false_ne_true
  unfold parseHeader
  rw [if_neg complete, if_neg other, length]
  unfold lengthCode
  by_cases short : size < 126
  · have code : (UInt8.ofNat size).toNat = size := by
      rw [UInt8.toNat_ofNat']
      omega
    have no16 : UInt8.ofNat size ≠ 126 := by
      intro same
      rw [same] at code
      exact absurd code (by change ¬ 126 = size; omega)
    have no64 : UInt8.ofNat size ≠ 127 := by
      intro same
      rw [same] at code
      exact absurd code (by change ¬ 127 = size; omega)
    rw [if_pos short, if_pos short, if_neg no16, if_neg no64, code]
  · rw [if_neg short, if_neg short]
    by_cases medium : size ≤ 65535
    · rw [if_pos medium, if_pos medium, if_pos (by decide)]
    · rw [if_neg medium, if_neg medium, if_neg (by decide), if_pos (by decide)]

theorem parse_size_bytes {socket : WebSocket} (bytes size : Nat) (rest : Bytes)
    (fits : size < 256 ^ bytes) (held : socket.buffer = toBigEndian bytes size ++ rest) :
    socket.parseSize bytes = proceeds { socket with
      remainingPayloadSize := size
      buffer := rest
      parsingState := socket.afterSize } := by
  have length := to_big_endian_length bytes size
  have enough : ¬ socket.buffer.length < bytes := by
    rw [held, List.length_append]
    omega
  have front : socket.buffer.take bytes = toBigEndian bytes size := by
    rw [held]
    exact List.take_left' length
  have back : socket.buffer.drop bytes = rest := by
    rw [held]
    exact List.drop_left' length
  unfold parseSize
  rw [if_neg enough, front, back, big_endian_of_number bytes size fits]

/-- What an end reads of a frame of the other end is this frame and its payload. -/
theorem read_frame {socket : WebSocket} (frame : Frame) (key : MaskingKey) (data : Bytes)
    (alive : socket.socketOpen = true) (parsing : socket.parsingState = .frame)
    (held : socket.buffer = [])
    (role : frame.second = (Frame.standardFrame (!socket.isClientNode)).second)
    (whole : frame.fin = true ∨ frame.isControlFrame = false)
    (fits : data.length < 2147483648) :
    ∃ sized : Frame, sized.first = frame.first ∧
      ∃ read, Completed { socket with frame := sized } data read ∧
        socket.readData (writePayload frame (!socket.isClientNode) key data) =
          read.evaluated data := by
  let sized := frame.setPayloadLength (UInt8.ofNat (lengthCode data.length))
  let headed : WebSocket := { socket with
    frame := sized
    buffer := sizeBytes data.length ++ enciphered (!socket.isClientNode) key data
    parsingState := .frame }
  let counted : WebSocket := { headed with
    buffer := enciphered (!socket.isClientNode) key data
    remainingPayloadSize := data.length
    parsingState := headed.afterSize }
  have bits := role_and_length (!socket.isClientNode)
    ⟨lengthCode data.length, length_code_bound data.length⟩
  dsimp only at bits
  rw [← role] at bits
  have supplied : socket.supply (writePayload frame (!socket.isClientNode) key data) =
      { socket with
        buffer := sized.first :: sized.second ::
          (sizeBytes data.length ++ enciphered (!socket.isClientNode) key data)
        parsingState := .frame } := by
    rw [supply_open alive, write_payload_parts, ← parsing]
    unfold extended
    rw [held, List.nil_append]
  have first : (socket.supply (writePayload frame (!socket.isClientNode) key data)).parseBufferRound
      = headed.parseHeader sized := by
    rw [supplied]
    rfl
  rw [parse_header headed sized data.length whole bits.1 bits.2]
    at first
  have parsed : receiver.parse
      (socket.supply (writePayload frame (!socket.isClientNode) key data)) =
        receiver.parse counted := by
    split_ifs at first with short medium
    · have none : sizeBytes data.length = [] := by
        unfold sizeBytes
        rw [if_pos short]
      rw [parse_proceeds first]
      congr 1
      change ({ counted with buffer := sizeBytes data.length ++ counted.buffer } : WebSocket) = counted
      rw [none]
      rfl
    · have two : sizeBytes data.length = toBigEndian 2 data.length := by
        unfold sizeBytes
        rw [if_neg short, if_pos medium]
      rw [parse_proceeds first]
      apply parse_proceeds
      apply parse_size_bytes 2 data.length
      · omega
      · rw [← two]
    · have eight : sizeBytes data.length = toBigEndian 8 data.length := by
        unfold sizeBytes
        rw [if_neg short, if_neg medium]
      rw [parse_proceeds first]
      apply parse_proceeds
      apply parse_size_bytes 8 data.length
      · omega
      · rw [← eight]
  obtain ⟨read, completed, evaluates⟩ := parse_enciphered counted key data rfl rfl fits rfl
  rw [← parsed] at evaluates
  refine ⟨sized, rfl, read, ?_, evaluates⟩
  exact ⟨completed.alive, completed.error, completed.state, completed.role, completed.frame,
    completed.payload, completed.fragment, completed.parsing, completed.buffer⟩

end WebSocket

end Viridity.WebSocketFrames
