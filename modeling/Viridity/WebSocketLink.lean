import Viridity.LabelledRuns
import Viridity.WebSocketFrames

/-!
# Two ends of a WebSocket

A client and a server write to each other and read what has come of the other's bytes, in pieces
of any size and in any order. What each end emits is what the other was asked to send. A message
in fragments, which these ends never write, is given out wrongly; exactly how is at the end.
-/

namespace Viridity.WebSocketLink

open Viridity.TextEncoding
open Viridity.ResumedParsing
open Viridity.WebSocketFrames
open Viridity.WebSocketFrames.WebSocket
open Viridity.LabelledRuns

set_option autoImplicit false

/-! ## Between two frames -/

/-- An open end that has read all its frames to their end, with what it has put aside. -/
structure Ready (role : Bool) (payload fragment : Bytes) (socket : WebSocket) : Prop where
  alive : socket.socketOpen = true
  error : socket.protocolError = false
  state : socket.state = .open
  role : socket.isClientNode = role
  payload : socket.payload = payload
  fragment : socket.fragment = fragment
  parsing : socket.parsingState = .frame
  buffer : socket.buffer = []

theorem ready_opened (role : Bool) : Ready role [] [] (opened role) where
  alive := rfl
  error := rfl
  state := rfl
  role := rfl
  payload := rfl
  fragment := rfl
  parsing := rfl
  buffer := rfl

structure SameHead (frame other : Frame) : Prop where
  fin : frame.fin = other.fin
  isControlFrame : frame.isControlFrame = other.isControlFrame
  opcode : frame.opcode = other.opcode

theorem same_head {frame other : Frame} (first : frame.first = other.first) :
    SameHead frame other := by
  constructor
  · unfold Frame.fin
    rw [first]
  · unfold Frame.isControlFrame
    rw [first]
  · unfold Frame.opcode
    rw [first]

section Evaluation

variable {role : Bool} {payload fragment data : Bytes} {socket : WebSocket}

theorem ready_reads (ready : Ready role payload fragment socket) (frame : Frame)
    (key : MaskingKey) (other : frame.second = (Frame.standardFrame (!role)).second)
    (whole : frame.fin = true ∨ frame.isControlFrame = false) (fits : data.length < 2147483648) :
    ∃ read, Ready role (payload ++ data) fragment read ∧ SameHead read.frame frame ∧
      socket.readData (writePayload frame (!role) key data) = read.evaluated data := by
  rw [← ready.role] at other
  obtain ⟨sized, first, read, completed, evaluates⟩ :=
    read_frame frame key data ready.alive ready.parsing ready.buffer other whole fits
  rw [ready.role] at evaluates
  refine ⟨read, ?_, ?_, evaluates⟩
  · exact {
      alive := completed.alive.trans ready.alive
      error := completed.error.trans ready.error
      state := completed.state.trans ready.state
      role := completed.role.trans ready.role
      payload := completed.payload.trans (congrArg (· ++ data) ready.payload)
      fragment := completed.fragment.trans ready.fragment
      parsing := completed.parsing
      buffer := completed.buffer }
  · rw [completed.frame]
    exact same_head first

theorem evaluates_message (ready : Ready role payload fragment socket)
    (fin : socket.frame.fin = true) (plain : socket.frame.isControlFrame = false)
    (starts : socket.frame.opcode ≠ continuation) (filled : data ≠ []) :
    ∃ next, Ready role [] fragment next ∧
      socket.evaluated data = (next, [.newMessage payload]) := by
  refine ⟨{ socket with payload := [] }, ?_, ?_⟩
  · exact { ready with payload := rfl }
  · unfold evaluated evaluateFrame
    rw [if_neg filled, if_pos fin, plain, if_neg Bool.false_ne_true, if_neg starts, ready.payload]

/-- The last fragment is put aside, and what was put aside before is the message. -/
theorem evaluates_last (ready : Ready role payload fragment socket)
    (fin : socket.frame.fin = true) (plain : socket.frame.isControlFrame = false)
    (continues : socket.frame.opcode = continuation) (filled : data ≠ []) :
    ∃ next, Ready role payload [] next ∧
      socket.evaluated data = (next, [.newMessage fragment]) := by
  refine ⟨{ socket with fragment := [] }, ?_, ?_⟩
  · exact { ready with fragment := rfl }
  · unfold evaluated evaluateFrame
    rw [if_neg filled, if_pos fin, plain, if_neg Bool.false_ne_true, if_pos continues,
      ready.fragment]

theorem evaluates_fragment (ready : Ready role payload fragment socket)
    (more : socket.frame.fin = false) (filled : data ≠ []) :
    ∃ next, Ready role [] (fragment ++ payload) next ∧ socket.evaluated data = (next, []) := by
  let next : WebSocket := { socket with
    fragment := socket.fragment ++ socket.payload
    payload := []
    fragmentOpcode :=
      if socket.frame.opcode = continuation then socket.fragmentOpcode else socket.frame.opcode }
  have kept : next.fragment = fragment ++ payload := by rw [← ready.fragment, ← ready.payload]
  refine ⟨next, ?_, ?_⟩
  · exact ⟨ready.alive, ready.error, ready.state, ready.role, rfl, kept, ready.parsing,
      ready.buffer⟩
  · unfold evaluated evaluateFrame
    rw [if_neg filled, more, if_neg Bool.false_ne_true]

theorem evaluates_nothing (plain : socket.frame.isControlFrame = false) :
    socket.evaluated [] = (socket, []) := by
  unfold evaluated evaluateEmpty
  rw [if_pos rfl, plain, if_neg Bool.false_ne_true]

theorem evaluates_control (fin : socket.frame.fin = true)
    (control : socket.frame.isControlFrame = true) :
    socket.evaluated data = socket.evaluateControlFrame := by
  unfold evaluated evaluateEmpty evaluateFrame
  rw [if_pos fin, if_pos control, if_pos control, ite_self]

theorem evaluates_ping (ready : Ready role payload fragment socket)
    (asks : socket.frame.opcode = ping) :
    ∃ next, Ready role [] fragment next ∧ socket.evaluateControlFrame =
      (next, [.write ((Frame.controlFrame role).setOpcode pong) payload]) := by
  refine ⟨{ socket with payload := [] }, ?_, ?_⟩
  · exact { ready with payload := rfl }
  · unfold evaluateControlFrame writeControl
    rw [asks, if_neg (by decide), if_pos rfl, ready.payload, ready.role]

theorem evaluates_pong (ready : Ready role payload fragment socket)
    (answers : socket.frame.opcode = pong) :
    ∃ next, Ready role [] fragment next ∧ socket.evaluateControlFrame =
      (next, [.pong payload]) := by
  refine ⟨{ socket with payload := [] }, ?_, ?_⟩
  · exact { ready with payload := rfl }
  · unfold evaluateControlFrame
    rw [answers, if_neg (by decide), if_neg (by decide), if_pos rfl, ready.payload]

end Evaluation

/-! ## What the ends write -/

def messageFrame (role : Bool) (opcode : UInt8) : Frame :=
  ((Frame.standardFrame role).setFin).setOpcode opcode

def pingFrame (role : Bool) : Frame := (Frame.controlFrame role).setOpcode ping

def pongFrame (role : Bool) : Frame := (Frame.controlFrame role).setOpcode pong

def messages (events : List SocketEvent) : List Bytes :=
  events.filterMap fun event => match event with
    | .newMessage message => some message
    | _ => none

def pongs (events : List SocketEvent) : List Bytes :=
  events.filterMap fun event => match event with
    | .pong payload => some payload
    | _ => none

def writes (events : List SocketEvent) : List Bytes :=
  events.filterMap fun event => match event with
    | .write _ payload => some payload
    | _ => none

/-- What goes out on the wire, each frame of a client masked with the next key. -/
def written (role : Bool) : List MaskingKey → List SocketEvent → Bytes
  | _, [] => []
  | keys, .write frame payload :: events =>
      writePayload frame role (keys.headD ⟨0, 0, 0, 0⟩) payload ++ written role keys.tail events
  | keys, _ :: events => written role keys events

/-- What two ends that keep to messages and pings do. -/
def Mild (role : Bool) : SocketEvent → Prop
  | .write frame payload => frame = pongFrame role ∧ payload.length < 2147483648
  | .closeSocket => False
  | _ => True

section Reading

variable {role : Bool} {fragment data : Bytes} {socket : WebSocket}

/-- A message of the other end is emitted behind what was put aside, unless it is empty. -/
theorem ready_reads_message {payload : Bytes} (ready : Ready role payload fragment socket)
    (opcode : UInt8) (kind : opcode = text ∨ opcode = binary) (key : MaskingKey)
    (fits : data.length < 2147483648) :
    ∃ next, Ready role (if data = [] then payload else []) fragment next ∧
      socket.readData (writePayload (messageFrame (!role) opcode) (!role) key data) =
        (next, if data = [] then [] else [.newMessage (payload ++ data)]) := by
  have header : (messageFrame (!role) opcode).second = (Frame.standardFrame (!role)).second ∧
      (messageFrame (!role) opcode).fin = true ∧
      (messageFrame (!role) opcode).isControlFrame = false ∧
      (messageFrame (!role) opcode).opcode ≠ continuation := by
    rcases kind with rfl | rfl <;> cases role <;> decide
  obtain ⟨read, kept, head, evaluates⟩ :=
    ready_reads ready (messageFrame (!role) opcode) key header.1 (.inl header.2.1) fits
  have plain := head.isControlFrame.trans header.2.2.1
  rw [evaluates]
  split_ifs with none
  · subst none
    rw [List.append_nil] at kept
    exact ⟨read, kept, evaluates_nothing plain⟩
  · have starts : read.frame.opcode ≠ continuation := by
      rw [head.opcode]
      exact header.2.2.2
    exact evaluates_message kept (head.fin.trans header.2.1) plain starts none

theorem ready_reads_ping (ready : Ready role [] fragment socket) (key : MaskingKey)
    (fits : data.length < 2147483648) :
    ∃ next, Ready role [] fragment next ∧
      socket.readData (writePayload (pingFrame (!role)) (!role) key data) =
        (next, [.write (pongFrame role) data]) := by
  have header : (pingFrame (!role)).second = (Frame.standardFrame (!role)).second ∧
      (pingFrame (!role)).fin = true ∧ (pingFrame (!role)).isControlFrame = true ∧
      (pingFrame (!role)).opcode = ping := by
    cases role <;> decide
  obtain ⟨read, kept, head, evaluates⟩ :=
    ready_reads ready (pingFrame (!role)) key header.1 (.inl header.2.1) fits
  rw [List.nil_append] at kept
  rw [evaluates, evaluates_control (head.fin.trans header.2.1)
    (head.isControlFrame.trans header.2.2.1)]
  exact evaluates_ping kept (head.opcode.trans header.2.2.2)

theorem ready_reads_pong (ready : Ready role [] fragment socket) (key : MaskingKey)
    (fits : data.length < 2147483648) :
    ∃ next, Ready role [] fragment next ∧
      socket.readData (writePayload (pongFrame (!role)) (!role) key data) =
        (next, [.pong data]) := by
  have header : (pongFrame (!role)).second = (Frame.standardFrame (!role)).second ∧
      (pongFrame (!role)).fin = true ∧ (pongFrame (!role)).isControlFrame = true ∧
      (pongFrame (!role)).opcode = pong := by
    cases role <;> decide
  obtain ⟨read, kept, head, evaluates⟩ :=
    ready_reads ready (pongFrame (!role)) key header.1 (.inl header.2.1) fits
  rw [List.nil_append] at kept
  rw [evaluates, evaluates_control (head.fin.trans header.2.1)
    (head.isControlFrame.trans header.2.2.1)]
  exact evaluates_pong kept (head.opcode.trans header.2.2.2)

theorem ready_reads_nothing {payload : Bytes} (ready : Ready role payload fragment socket) :
    socket.readData [] = (socket, []) := by
  have same : socket.supply [] = socket := by
    rw [supply_open ready.alive]
    unfold extended
    rw [List.append_nil]
  change receiver.parse (socket.supply []) = _
  rw [same, parse_idle ready.parsing ready.buffer]

/-- Two parts that follow each other, the first of which leaves the socket open. -/
theorem read_both {front : Bytes} (back : Bytes) (alive : (socket.readData front).1.socketOpen = true) :
    socket.readData (front ++ back) =
      (((socket.readData front).1.readData back).1,
        (socket.readData front).2 ++ ((socket.readData front).1.readData back).2) :=
  Parser.feed_append front back alive

theorem read_written {between : WebSocket} {seen events : List SocketEvent} {frame : Frame}
    {payload : Bytes} (keys : List MaskingKey)
    (reads : socket.readData
      (writePayload frame (!role) (keys.headD ⟨0, 0, 0, 0⟩) payload) = (between, seen))
    (alive : between.socketOpen = true) :
    socket.readData (written (!role) keys (.write frame payload :: events)) =
      ((between.readData (written (!role) keys.tail events)).1,
        seen ++ (between.readData (written (!role) keys.tail events)).2) := by
  have frames : written (!role) keys (.write frame payload :: events) =
      writePayload frame (!role) (keys.headD ⟨0, 0, 0, 0⟩) payload ++
        written (!role) keys.tail events := rfl
  rw [frames, read_both _ (by rw [reads]; exact alive), reads]

theorem ready_reads_answers {events : List SocketEvent} (keys : List MaskingKey)
    (ready : Ready role [] fragment socket) (mild : ∀ event ∈ events, Mild (!role) event) :
    ∃ next, Ready role [] fragment next ∧
      socket.readData (written (!role) keys events) = (next, (writes events).map .pong) := by
  induction events generalizing socket keys with
  | nil => exact ⟨socket, ready, ready_reads_nothing ready⟩
  | cons event events induction =>
      have rest : ∀ other ∈ events, Mild (!role) other := fun other member =>
        mild other (List.mem_cons_of_mem event member)
      have first := mild event List.mem_cons_self
      cases event with
      | write frame payload =>
          obtain ⟨rfl, fits⟩ := first
          obtain ⟨middle, between, reads⟩ :=
            ready_reads_pong ready (keys.headD ⟨0, 0, 0, 0⟩) fits
          obtain ⟨next, after, follows⟩ := induction keys.tail between rest
          refine ⟨next, after, ?_⟩
          rw [read_written keys reads between.alive, follows]
          rfl
      | closeSocket => exact absurd first id
      | newMessage message => exact induction keys ready rest
      | pong payload => exact induction keys ready rest

end Reading

/-! ## The two ends -/

inductive Side where
  | client
  | server
deriving DecidableEq

namespace Side

def other : Side → Side
  | .client => .server
  | .server => .client

def isClientNode : Side → Bool
  | .client => true
  | .server => false

theorem other_other (side : Side) : side.other.other = side := by
  cases side <;> rfl

theorem other_ne (side : Side) : side.other ≠ side := by
  cases side <;> decide

theorem self_or_other (side one : Side) : one = side ∨ one = side.other := by
  cases side <;> cases one <;> decide

theorem other_role (side : Side) : side.other.isClientNode = !side.isClientNode := by
  cases side <;> rfl

end Side

/-- The ends, the bytes under way to each, and what has been asked of them and come of it. `sent`
leaves out empty messages. -/
structure Link where
  ends : Side → WebSocket
  wires : Side → Bytes
  sent : Side → List Bytes
  received : Side → List Bytes
  pinged : Side → List Bytes
  ponged : Side → List Bytes

inductive Act where
  | sendUtf8Message (side : Side) (msg : Bytes) (key : MaskingKey)
  | sendBinaryMessage (side : Side) (msg : Bytes) (key : MaskingKey)
  | ping (side : Side) (data : Bytes) (key : MaskingKey)
  | readData (side : Side) (count : Nat) (keys : List MaskingKey)

namespace Link

def opened : Link where
  ends side := WebSocket.opened side.isClientNode
  wires _ := []
  sent _ := []
  received _ := []
  pinged _ := []
  ponged _ := []

def puts (link : Link) (side : Side) (keys : List MaskingKey) (events : List SocketEvent) : Link :=
  { link with
    wires := Function.update link.wires side.other
      (link.wires side.other ++ written (link.ends side).isClientNode keys events) }

def sends (link : Link) (side : Side) (msg : Bytes) (key : MaskingKey)
    (events : List SocketEvent) : Link :=
  { link.puts side [key] events with
    sent := Function.update link.sent side
      (link.sent side ++ if msg = [] then [] else [msg]) }

/-- A step; a byte array is no longer than an int. -/
def step (link : Link) : Act → Option Link
  | .sendUtf8Message side msg key =>
      if msg.length < 2147483648 then
        some (link.sends side msg key ((link.ends side).sendUtf8Message msg))
      else none
  | .sendBinaryMessage side msg key =>
      if msg.length < 2147483648 then
        some (link.sends side msg key ((link.ends side).sendBinaryMessage msg))
      else none
  | .ping side data key =>
      if data.length < 2147483648 then
        some { link.puts side [key] ((link.ends side).sendPing data) with
          pinged := Function.update link.pinged side (link.pinged side ++ [data]) }
      else none
  | .readData side count keys =>
      let read := (link.ends side).readData ((link.wires side).take count)
      let taken : Link := { link with
        ends := Function.update link.ends side read.1
        wires := Function.update link.wires side ((link.wires side).drop count)
        received := Function.update link.received side (link.received side ++ messages read.2)
        ponged := Function.update link.ponged side (link.ponged side ++ pongs read.2) }
      some (taken.puts side keys read.2)

def toCome (link : Link) (side : Side) : WebSocket × List SocketEvent :=
  (link.ends side).readData (link.wires side)

/-- An end has or will have everything, and in order. -/
structure Coherent (link : Link) (side : Side) : Prop where
  ready : Ready side.isClientNode [] [] (link.toCome side).1
  mild : ∀ event ∈ (link.toCome side).2, Mild side.isClientNode event
  all : link.sent side.other = link.received side ++ messages (link.toCome side).2
  answers : link.pinged side = link.ponged side ++ pongs (link.toCome side).2 ++
    writes (link.toCome side.other).2
  quiet : ((link.ends side).readData []).2 = []

def Going (role : Bool) (socket : WebSocket) : Prop :=
  socket.socketOpen = true ∧ socket.protocolError = false ∧ socket.isClientNode = role ∧
    socket.state = .open

theorem open_before {role : Bool} {payload fragment : Bytes} {socket : WebSocket} {data : Bytes}
    (ready : Ready role payload fragment (socket.readData data).1) : Going role socket := by
  have back : ∀ before : WebSocket, Going role before.parseBufferRound.state →
      Going role before := by
    intro before after
    obtain ⟨alive, error, client, state⟩ := round_open before after.1
    refine ⟨alive, error.symm.trans after.2.1, client.symm.trans after.2.2.1, ?_⟩
    rcases state with same | closing
    · exact same.symm.trans after.2.2.2
    · have going := after.2.2.2
      rw [closing] at going
      exact absurd going (by decide)
  have supplied : Going role (socket.supply data) :=
    @Parser.parse_back _ _ _ receiver (Going role) back _
      ⟨ready.alive, ready.error, ready.role, ready.state⟩
  have alive : socket.socketOpen = true := (supply_socket_open socket data).symm.trans supplied.1
  rw [supply_open alive] at supplied
  exact supplied

theorem to_come_append {link : Link} {side : Side}
    (ready : Ready side.isClientNode [] [] (link.toCome side).1) (more : Bytes) :
    (link.ends side).readData (link.wires side ++ more) =
      (((link.toCome side).1.readData more).1,
        (link.toCome side).2 ++ ((link.toCome side).1.readData more).2) :=
  read_both more ready.alive

theorem coherent_opened (side : Side) : Coherent opened side := by
  have nothing : opened.toCome side = (WebSocket.opened side.isClientNode, []) :=
    ready_reads_nothing (ready_opened side.isClientNode)
  have other : opened.toCome side.other = (WebSocket.opened side.other.isClientNode, []) :=
    ready_reads_nothing (ready_opened side.other.isClientNode)
  constructor
  · rw [nothing]
    exact ready_opened side.isClientNode
  · rw [nothing]
    intro event member
    exact absurd member List.not_mem_nil
  · rw [nothing]
    rfl
  · rw [nothing, other]
    rfl
  · exact congrArg Prod.snd (ready_reads_nothing (ready_opened side.isClientNode))

theorem messages_append (front back : List SocketEvent) :
    messages (front ++ back) = messages front ++ messages back := List.filterMap_append

theorem pongs_append (front back : List SocketEvent) :
    pongs (front ++ back) = pongs front ++ pongs back := List.filterMap_append

theorem writes_append (front back : List SocketEvent) :
    writes (front ++ back) = writes front ++ writes back := List.filterMap_append

theorem coherent_grows {link after : Link} (side : Side) {bytes : Bytes}
    {events : List SocketEvent} {next : WebSocket} (whole : ∀ one, Coherent link one)
    (ends : after.ends = link.ends) (received : after.received = link.received)
    (ponged : after.ponged = link.ponged)
    (wires : after.wires =
      Function.update link.wires side.other (link.wires side.other ++ bytes))
    (sent : after.sent = Function.update link.sent side (link.sent side ++ messages events))
    (pinged : after.pinged = Function.update link.pinged side (link.pinged side ++ writes events))
    (ready : Ready side.other.isClientNode [] [] next)
    (reads : (link.toCome side.other).1.readData bytes = (next, events))
    (mild : ∀ event ∈ events, Mild side.other.isClientNode event) (asks : pongs events = []) :
    ∀ one, Coherent after one := by
  have here : after.toCome side = link.toCome side := by
    unfold toCome
    rw [ends, wires, Function.update_of_ne (Side.other_ne side).symm]
  have there : after.toCome side.other = (next, (link.toCome side.other).2 ++ events) := by
    unfold toCome
    rw [ends, wires, Function.update_self, to_come_append (whole side.other).ready, reads]
    rfl
  intro one
  rcases Side.self_or_other side one with rfl | rfl
  · have before := whole one
    constructor
    · rw [here]
      exact before.ready
    · rw [here]
      exact before.mild
    · rw [sent, Function.update_of_ne (Side.other_ne one), received, here]
      exact before.all
    · rw [pinged, Function.update_self, ponged, here, there, writes_append, before.answers]
      simp only [List.append_assoc]
    · rw [ends]
      exact before.quiet
  · have before := whole side.other
    constructor
    · rw [there]
      exact ready
    · rw [there]
      intro event member
      rcases List.mem_append.mp member with old | new
      · exact before.mild event old
      · exact mild event new
    · have all := before.all
      rw [Side.other_other] at all ⊢
      rw [sent, Function.update_self, received, there, messages_append, all, List.append_assoc]
    · have answers := before.answers
      rw [Side.other_other] at answers ⊢
      rw [pinged, Function.update_of_ne (Side.other_ne side), ponged, there, here, pongs_append,
        asks, List.append_nil]
      exact answers
    · rw [ends]
      exact before.quiet

theorem coherent_sends {link : Link} (whole : ∀ one, Coherent link one) (side : Side)
    (msg : Bytes) (key : MaskingKey) (opcode : UInt8) (kind : opcode = text ∨ opcode = binary)
    (fits : msg.length < 2147483648) :
    ∀ one, Coherent (link.sends side msg key ((link.ends side).sendData opcode msg)) one := by
  have before := open_before (whole side).ready
  have frame : (link.ends side).sendData opcode msg =
      [.write (messageFrame side.isClientNode opcode) msg] := by
    unfold sendData
    rw [if_neg (not_not.mpr before.2.2.2), before.2.2.1]
    rfl
  have role : side.isClientNode = !side.other.isClientNode := by
    rw [Side.other_role, Bool.not_not]
  obtain ⟨next, ready, reads⟩ :=
    ready_reads_message (whole side.other).ready opcode kind key fits
  rw [← role] at reads
  rw [ite_self] at ready
  rw [frame]
  have mild : ∀ event ∈ (if msg = [] then [] else [SocketEvent.newMessage msg]),
      Mild side.other.isClientNode event := by
    intro event member
    split_ifs at member
    · exact absurd member List.not_mem_nil
    · rw [List.mem_singleton.mp member]
      trivial
  have none : pongs (if msg = [] then [] else [.newMessage msg]) = [] ∧
      writes (if msg = [] then [] else [.newMessage msg]) = [] ∧
      messages (if msg = [] then [] else [.newMessage msg]) = if msg = [] then [] else [msg] := by
    split_ifs <;> exact ⟨rfl, rfl, rfl⟩
  have bytes : written (link.ends side).isClientNode [key]
      [.write (messageFrame side.isClientNode opcode) msg] =
        writePayload (messageFrame side.isClientNode opcode) side.isClientNode key msg := by
    rw [before.2.2.1]
    exact List.append_nil _
  have wires : (link.sends side msg key
      [.write (messageFrame side.isClientNode opcode) msg]).wires =
        Function.update link.wires side.other (link.wires side.other ++
          writePayload (messageFrame side.isClientNode opcode) side.isClientNode key msg) := by
    rw [← bytes]
    rfl
  have pinged : link.pinged = Function.update link.pinged side (link.pinged side ++
      writes (if msg = [] then [] else [.newMessage msg])) := by
    rw [none.2.1, List.append_nil, Function.update_eq_self]
  have sent : (link.sends side msg key
      [.write (messageFrame side.isClientNode opcode) msg]).sent =
        Function.update link.sent side (link.sent side ++
          messages (if msg = [] then [] else [.newMessage msg])) := by
    rw [none.2.2]
    rfl
  exact coherent_grows side whole rfl rfl rfl wires sent pinged ready reads mild none.1

theorem coherent_pings {link : Link} (whole : ∀ one, Coherent link one) (side : Side)
    (data : Bytes) (key : MaskingKey) (fits : data.length < 2147483648) :
    ∀ one, Coherent { link.puts side [key] ((link.ends side).sendPing data) with
      pinged := Function.update link.pinged side (link.pinged side ++ [data]) } one := by
  have before := open_before (whole side).ready
  have frame : (link.ends side).sendPing data = [.write (pingFrame side.isClientNode) data] := by
    unfold sendPing writeControl
    rw [if_neg (not_not.mpr before.2.2.2), before.2.2.1]
    rfl
  have role : side.isClientNode = !side.other.isClientNode := by
    rw [Side.other_role, Bool.not_not]
  obtain ⟨next, ready, reads⟩ := ready_reads_ping (whole side.other).ready key fits
  rw [← role] at reads
  rw [frame]
  have mild : ∀ event ∈ [SocketEvent.write (pongFrame side.other.isClientNode) data],
      Mild side.other.isClientNode event := by
    intro event member
    rw [List.mem_singleton.mp member]
    exact ⟨rfl, fits⟩
  have bytes : written (link.ends side).isClientNode [key]
      [.write (pingFrame side.isClientNode) data] =
        writePayload (pingFrame side.isClientNode) side.isClientNode key data := by
    rw [before.2.2.1]
    exact List.append_nil _
  have wires : (link.puts side [key] [.write (pingFrame side.isClientNode) data]).wires =
      Function.update link.wires side.other (link.wires side.other ++
        writePayload (pingFrame side.isClientNode) side.isClientNode key data) := by
    rw [← bytes]
    rfl
  have sent : link.sent = Function.update link.sent side (link.sent side ++
      messages [.write (pongFrame side.other.isClientNode) data]) := by
    rw [show messages [.write (pongFrame side.other.isClientNode) data] = [] from rfl,
      List.append_nil, Function.update_eq_self]
  exact coherent_grows side whole rfl rfl rfl wires sent rfl ready reads mild rfl

theorem coherent_reads {link : Link} (whole : ∀ one, Coherent link one) (side : Side)
    (count : Nat) (keys : List MaskingKey) {after : Link}
    (taken : link.step (.readData side count keys) = some after) :
    ∀ one, Coherent after one := by
  have before := whole side
  have beyond := whole side.other
  let piece := (link.wires side).take count
  let rest := (link.wires side).drop count
  let first := (link.ends side).readData piece
  let second := first.1.readData rest
  have cut : piece ++ rest = link.wires side := List.take_append_drop count (link.wires side)
  have alive : first.1.socketOpen = true := by
    apply @Parser.parse_gone _ _ _ receiver _ rest
    change (receiver.parse ((((link.ends side).supply piece).supply rest))).1.socketOpen = true
    rw [← supply_append, cut]
    exact before.ready.alive
  have both : link.toCome side = (second.1, first.2 ++ second.2) := by
    unfold toCome
    rw [← cut]
    exact read_both rest alive
  have ready : Ready side.isClientNode [] [] second.1 := by
    have ready := before.ready
    rw [both] at ready
    exact ready
  have role : first.1.isClientNode = side.isClientNode := (open_before ready).2.2.1
  have mild : ∀ event ∈ first.2 ++ second.2, Mild side.isClientNode event := by
    have mild := before.mild
    rw [both] at mild
    exact mild
  have answered : ∀ event ∈ first.2, Mild (!side.other.isClientNode) event := by
    intro event member
    rw [Side.other_role, Bool.not_not]
    exact mild event (List.mem_append_left _ member)
  obtain ⟨next, read, answers⟩ := ready_reads_answers keys beyond.ready answered
  rw [Side.other_role, Bool.not_not] at answers
  have quiet : (first.1.readData []).2 = [] := by
    have again := read_both [] alive
    rw [List.append_nil] at again
    exact List.self_eq_append_right.mp (congrArg Prod.snd again)
  have ends : after.ends = Function.update link.ends side first.1 := by
    rw [← Option.some.inj taken]
    rfl
  have wires : after.wires = Function.update (Function.update link.wires side rest) side.other
      (link.wires side.other ++ written side.isClientNode keys first.2) := by
    rw [← Option.some.inj taken, ← role]
    change Function.update (Function.update link.wires side rest) side.other
      (Function.update link.wires side rest side.other ++
        written (Function.update link.ends side first.1 side).isClientNode keys first.2) = _
    rw [Function.update_self, Function.update_of_ne (Side.other_ne side)]
  have received : after.received =
      Function.update link.received side (link.received side ++ messages first.2) := by
    rw [← Option.some.inj taken]
    rfl
  have ponged : after.ponged =
      Function.update link.ponged side (link.ponged side ++ pongs first.2) := by
    rw [← Option.some.inj taken]
    rfl
  have same : after.sent = link.sent ∧ after.pinged = link.pinged := by
    rw [← Option.some.inj taken]
    exact ⟨rfl, rfl⟩
  have here : after.toCome side = second := by
    unfold toCome
    rw [ends, wires, Function.update_self, Function.update_of_ne (Side.other_ne side).symm,
      Function.update_self]
  have there : after.toCome side.other =
      (next, (link.toCome side.other).2 ++ (writes first.2).map .pong) := by
    unfold toCome
    rw [ends, wires, Function.update_self, Function.update_of_ne (Side.other_ne side),
      to_come_append beyond.ready, answers]
    rfl
  have only : ∀ payloads : List Bytes, messages (payloads.map .pong) = [] ∧
      writes (payloads.map .pong) = [] ∧ pongs (payloads.map .pong) = payloads := by
    intro payloads
    unfold messages writes pongs
    simp only [List.filterMap_map]
    refine ⟨List.filterMap_eq_nil_iff.mpr fun _ _ => rfl,
      List.filterMap_eq_nil_iff.mpr fun _ _ => rfl, ?_⟩
    exact List.filterMap_some
  intro one
  rcases Side.self_or_other side one with rfl | rfl
  · constructor
    · rw [here]
      exact ready
    · rw [here]
      exact fun event member => mild event (List.mem_append_right _ member)
    · have all := before.all
      rw [both, messages_append] at all
      rw [same.1, received, Function.update_self, here, all, List.append_assoc]
    · have asked := before.answers
      rw [both, pongs_append] at asked
      rw [same.2, ponged, Function.update_self, here, there, writes_append, (only _).2.1,
        List.append_nil, asked]
      simp only [List.append_assoc]
    · rw [ends, Function.update_self]
      exact quiet
  · constructor
    · rw [there]
      exact read
    · rw [there]
      intro event member
      rcases List.mem_append.mp member with old | new
      · exact beyond.mild event old
      · obtain ⟨payload, _, rfl⟩ := List.mem_map.mp new
        trivial
    · rw [same.1, received, Function.update_of_ne (Side.other_ne side), there, messages_append,
        (only _).1, List.append_nil]
      exact beyond.all
    · have asked := beyond.answers
      rw [Side.other_other, both, writes_append] at asked
      rw [same.2, ponged, Function.update_of_ne (Side.other_ne side), there, Side.other_other, here,
        pongs_append, (only _).2.2, asked]
      simp only [List.append_assoc]
    · rw [ends, Function.update_of_ne (Side.other_ne side)]
      exact beyond.quiet

theorem coherent_step {link after : Link} {act : Act} (whole : ∀ one, Coherent link one)
    (taken : link.step act = some after) : ∀ one, Coherent after one := by
  cases act with
  | sendUtf8Message side msg key =>
      unfold step at taken
      dsimp only at taken
      split_ifs at taken with fits
      rw [← Option.some.inj taken]
      exact coherent_sends whole side msg key text (.inl rfl) fits
  | sendBinaryMessage side msg key =>
      unfold step at taken
      dsimp only at taken
      split_ifs at taken with fits
      rw [← Option.some.inj taken]
      exact coherent_sends whole side msg key binary (.inr rfl) fits
  | ping side data key =>
      unfold step at taken
      dsimp only at taken
      split_ifs at taken with fits
      rw [← Option.some.inj taken]
      exact coherent_pings whole side data key fits
  | readData side count keys => exact coherent_reads whole side count keys taken

def Reachable (link : Link) : Prop :=
  Reach (fun before act after => before.step act = some after) always (· = opened) link

theorem coherent_of_reachable {link : Link} (reached : Reachable link) (side : Side) :
    Coherent link side := by
  have base : ∀ link, link = opened → ∀ one, Coherent link one := by
    intro link begins
    rw [begins]
    exact coherent_opened
  have kept : ∀ (before : Link) (act : Act) (after : Link), (∀ one, Coherent before one) →
      always before act → before.step act = some after → ∀ one, Coherent after one :=
    fun _ _ _ whole _ taken => coherent_step whole taken
  exact reached.invariant base kept side

/-- In every run, an end has emitted the messages that the other was asked to send as far as they
have come, none twice, none changed and none in another's place; its pings have been answered in
the same way; both sockets stay open. Once no bytes are under way, nothing is missing. -/
theorem messages_arrive {link : Link} (reached : Reachable link) (side : Side) :
    link.received side <+: link.sent side.other ∧ link.ponged side <+: link.pinged side ∧
      (link.ends side).socketOpen = true ∧ (link.ends side).protocolError = false ∧
      (link.wires side = [] → link.received side = link.sent side.other ∧
        (link.wires side.other = [] → link.ponged side = link.pinged side)) := by
  have here := coherent_of_reachable reached side
  have there := coherent_of_reachable reached side.other
  have before := open_before here.ready
  refine ⟨⟨_, here.all.symm⟩, ⟨pongs (link.toCome side).2 ++ writes (link.toCome side.other).2, ?_⟩,
    before.1, before.2.1, ?_⟩
  · rw [here.answers, List.append_assoc]
  intro empty
  have none : (link.toCome side).2 = [] := by
    unfold toCome
    rw [empty]
    exact here.quiet
  have all := here.all
  have answers := here.answers
  rw [none] at all answers
  refine ⟨(all.trans (List.append_nil _)).symm, ?_⟩
  intro back
  have nothing : (link.toCome side.other).2 = [] := by
    unfold toCome
    rw [back]
    exact there.quiet
  rw [nothing] at answers
  change _ = _ ++ [] ++ [] at answers
  rw [List.append_nil, List.append_nil] at answers
  exact answers.symm

/-- A message from the server, and a ping of the client, read in two pieces each. -/
theorem message_arrives : ∃ link, Reachable link ∧ link.received .client = [[104, 105]] ∧
    link.ponged .client = [[1]] ∧ link.received .client <+: link.sent .server := by
  let key : MaskingKey := ⟨1, 2, 3, 4⟩
  let acts : List Act := [.sendUtf8Message .server [104, 105] key, .ping .client [1] key,
    .readData .server 3 [], .readData .client 1 [], .readData .server 9 [], .readData .client 9 []]
  obtain ⟨link, ran⟩ : ∃ link, execute step opened acts = some link := ⟨_, rfl⟩
  have reached : Reachable link := execute_reaches acts (.start rfl) ran
  refine ⟨link, reached, ?_, ?_, (messages_arrive reached .client).1⟩
  · have received : (execute step opened acts).map (fun link => link.received .client) =
        some [[104, 105]] := by decide +kernel
    rw [ran] at received
    exact Option.some.inj received
  · have ponged : (execute step opened acts).map (fun link => link.ponged .client) =
        some [[1]] := by decide +kernel
    rw [ran] at ponged
    exact Option.some.inj ponged

end Link

/-! ## Messages in fragments -/

/-- A message, text or binary, as another end may write it: in one frame, or in fragments. -/
inductive Sending where
  | whole (opcode : UInt8) (message : Bytes)
  | fragments (opcode : UInt8) (first : Bytes) (middles : List Bytes) (last : Bytes)

namespace Sending

def unfinished (role : Bool) (opcode : UInt8) : Frame :=
  (Frame.standardFrame role).setOpcode opcode

def frames (role : Bool) : Sending → List SocketEvent
  | .whole opcode message => [.write (messageFrame role opcode) message]
  | .fragments opcode first middles last =>
      .write (unfinished role opcode) first ::
        (middles.map (SocketEvent.write (unfinished role continuation)) ++
          [.write (messageFrame role continuation) last])

/-- A fragment is not empty, though a whole message may be, and none has 2^31 bytes. -/
def Sound : Sending → Prop
  | .whole opcode message => (opcode = text ∨ opcode = binary) ∧ message.length < 2147483648
  | .fragments opcode first middles last => (opcode = text ∨ opcode = binary) ∧
      ∀ part ∈ first :: (middles ++ [last]), part ≠ [] ∧ part.length < 2147483648

/-- What is given out for a message, behind what was put aside; nothing for an empty one. -/
def givenOut (aside : Bytes) : Sending → List Bytes
  | .whole _ message => if message = [] then [] else [aside ++ message]
  | .fragments _ first middles _ => [aside ++ first ++ middles.flatten]

def putAside (aside : Bytes) : Sending → Bytes
  | .whole _ message => if message = [] then aside else []
  | .fragments _ _ _ last => last

end Sending

def allGivenOut : Bytes → List Sending → List Bytes
  | _, [] => []
  | aside, sending :: rest =>
      sending.givenOut aside ++ allGivenOut (sending.putAside aside) rest

section Fragments

variable {role : Bool} {opcode : UInt8} {payload fragment data : Bytes} {socket : WebSocket}

theorem ready_reads_unfinished (ready : Ready role payload fragment socket)
    (kind : opcode = continuation ∨ opcode = text ∨ opcode = binary) (key : MaskingKey)
    (filled : data ≠ []) (fits : data.length < 2147483648) :
    ∃ next, Ready role [] (fragment ++ (payload ++ data)) next ∧
      socket.readData (writePayload (Sending.unfinished (!role) opcode) (!role) key data) =
        (next, []) := by
  have header : (Sending.unfinished (!role) opcode).second =
        (Frame.standardFrame (!role)).second ∧
      (Sending.unfinished (!role) opcode).fin = false ∧
      (Sending.unfinished (!role) opcode).isControlFrame = false := by
    rcases kind with rfl | rfl | rfl <;> cases role <;> decide
  obtain ⟨read, kept, head, evaluates⟩ :=
    ready_reads ready (Sending.unfinished (!role) opcode) key header.1 (.inr header.2.2) fits
  rw [evaluates]
  exact evaluates_fragment kept (head.fin.trans header.2.1) filled

theorem ready_reads_last (ready : Ready role payload fragment socket) (key : MaskingKey)
    (filled : data ≠ []) (fits : data.length < 2147483648) :
    ∃ next, Ready role (payload ++ data) [] next ∧
      socket.readData (writePayload (messageFrame (!role) continuation) (!role) key data) =
        (next, [.newMessage fragment]) := by
  have header : (messageFrame (!role) continuation).second =
        (Frame.standardFrame (!role)).second ∧
      (messageFrame (!role) continuation).fin = true ∧
      (messageFrame (!role) continuation).isControlFrame = false ∧
      (messageFrame (!role) continuation).opcode = continuation := by
    cases role <;> decide
  obtain ⟨read, kept, head, evaluates⟩ :=
    ready_reads ready (messageFrame (!role) continuation) key header.1 (.inl header.2.1) fits
  rw [evaluates]
  exact evaluates_last kept (head.fin.trans header.2.1)
    (head.isControlFrame.trans header.2.2.1) (head.opcode.trans header.2.2.2) filled

theorem ready_reads_middles {middles : List Bytes} (after : List SocketEvent)
    (keys : List MaskingKey) (ready : Ready role [] fragment socket)
    (sound : ∀ middle ∈ middles, middle ≠ [] ∧ middle.length < 2147483648) :
    ∃ next others, Ready role [] (fragment ++ middles.flatten) next ∧
      socket.readData (written (!role) keys
        (middles.map (SocketEvent.write (Sending.unfinished (!role) continuation)) ++ after)) =
        next.readData (written (!role) others after) := by
  induction middles generalizing fragment socket keys with
  | nil =>
      rw [List.flatten_nil, List.append_nil]
      exact ⟨socket, keys, ready, rfl⟩
  | cons middle middles induction =>
      have here := sound middle List.mem_cons_self
      obtain ⟨between, gathered, reads⟩ := ready_reads_unfinished ready (.inl rfl)
        (keys.headD ⟨0, 0, 0, 0⟩) here.1 here.2
      obtain ⟨next, others, whole, follows⟩ := induction keys.tail gathered
        fun other member => sound other (List.mem_cons_of_mem middle member)
      refine ⟨next, others, ?_, ?_⟩
      · rw [List.flatten_cons, ← List.append_assoc]
        exact whole
      · rw [List.map_cons, List.cons_append]
        rw [read_written keys reads gathered.alive, follows, List.nil_append]

/-- One message, whole or not, and what follows it. -/
theorem ready_reads_sending {aside : Bytes} (sending : Sending) (after : List SocketEvent)
    (keys : List MaskingKey) (ready : Ready role aside [] socket) (sound : sending.Sound) :
    ∃ next others, Ready role (sending.putAside aside) [] next ∧
      socket.readData (written (!role) keys (sending.frames (!role) ++ after)) =
        ((next.readData (written (!role) others after)).1,
          (sending.givenOut aside).map .newMessage ++
            (next.readData (written (!role) others after)).2) := by
  cases sending with
  | whole opcode message =>
      obtain ⟨next, read, reads⟩ :=
        ready_reads_message ready opcode sound.1 (keys.headD ⟨0, 0, 0, 0⟩) sound.2
      refine ⟨next, keys.tail, read, ?_⟩
      change socket.readData (written (!role) keys (.write _ message :: after)) = _
      rw [read_written keys reads read.alive]
      have given : (Sending.whole opcode message).givenOut aside =
          if message = [] then [] else [aside ++ message] := rfl
      rw [given]
      split_ifs
      · rfl
      · rfl
  | fragments opcode first middles last =>
      have head := sound.2 first List.mem_cons_self
      have middle : ∀ part ∈ middles, part ≠ [] ∧ part.length < 2147483648 := by
        intro part member
        exact sound.2 part (List.mem_cons_of_mem first (List.mem_append_left [last] member))
      have tail := sound.2 last
        (List.mem_cons_of_mem first (List.mem_append_right middles List.mem_cons_self))
      obtain ⟨begun, read, reads⟩ := ready_reads_unfinished ready (.inr sound.1)
        (keys.headD ⟨0, 0, 0, 0⟩) head.1 head.2
      obtain ⟨gathered, others, all, follows⟩ := ready_reads_middles
        (.write (messageFrame (!role) continuation) last :: after)
        keys.tail read middle
      obtain ⟨next, ended, ends⟩ := ready_reads_last all (others.headD ⟨0, 0, 0, 0⟩) tail.1 tail.2
      refine ⟨next, others.tail, ended, ?_⟩
      have frames : (Sending.fragments opcode first middles last).frames (!role) ++ after =
          .write (Sending.unfinished (!role) opcode) first ::
            (middles.map (SocketEvent.write (Sending.unfinished (!role) continuation)) ++
              .write (messageFrame (!role) continuation) last :: after) := by
        unfold Sending.frames
        rw [List.cons_append, List.append_assoc]
        rfl
      rw [frames, read_written keys reads read.alive, follows,
        read_written others ends ended.alive]
      rfl

theorem ready_reads_sendings {aside : Bytes} (sendings : List Sending) (keys : List MaskingKey)
    (ready : Ready role aside [] socket) (sound : ∀ sending ∈ sendings, sending.Sound) :
    ∃ next left, Ready role left [] next ∧
      socket.readData (written (!role) keys (sendings.flatMap (Sending.frames (!role)))) =
        (next, (allGivenOut aside sendings).map .newMessage) := by
  induction sendings generalizing aside socket keys with
  | nil => exact ⟨socket, aside, ready, ready_reads_nothing ready⟩
  | cons sending sendings induction =>
      obtain ⟨between, others, read, reads⟩ := ready_reads_sending sending
        (sendings.flatMap (Sending.frames (!role))) keys ready (sound sending List.mem_cons_self)
      obtain ⟨next, left, finished, follows⟩ := induction others read
        fun other member => sound other (List.mem_cons_of_mem sending member)
      refine ⟨next, left, finished, ?_⟩
      have given : allGivenOut aside (sending :: sendings) =
          sending.givenOut aside ++ allGivenOut (sending.putAside aside) sendings := rfl
      rw [List.flatMap_cons, reads, follows, given, List.map_append]

/-- What an end gives out for messages that may come in fragments, whatever they are and however
the bytes are cut: the last fragment of each is missing from it and stands at the head of the
message after it. -/
theorem fragments_given_out (sendings : List Sending) (keys : List MaskingKey)
    (sound : ∀ sending ∈ sendings, sending.Sound) {pieces : List Bytes} (filled : pieces ≠ [])
    (cut : pieces.flatten = written (!role) keys (sendings.flatMap (Sending.frames (!role)))) :
    ((WebSocket.opened role).readAll pieces).2 = (allGivenOut [] sendings).map .newMessage := by
  obtain ⟨next, left, finished, reads⟩ :=
    ready_reads_sendings sendings keys (ready_opened role) sound
  rw [← cut] at reads
  rw [read_all_of_any_pieces _ pieces filled (by rw [reads]; exact finished.alive), reads]

/-- "ab", "c" and "d" as one text, then "e" in binary: the "d" comes with the "e". -/
theorem fragment_given_out_late :
    let sendings : List Sending := [.fragments text [97, 98] [[99]] [100], .whole binary [101]]
    ((WebSocket.opened false).readAll
      [(written true [] (sendings.flatMap (Sending.frames true))).take 5,
        (written true [] (sendings.flatMap (Sending.frames true))).drop 5]).2 =
      [.newMessage [97, 98, 99], .newMessage [100, 101]] :=
  fragments_given_out [.fragments text [97, 98] [[99]] [100], .whole binary [101]] [] (by
    intro sending member
    rcases List.mem_cons.mp member with rfl | rest
    · refine ⟨.inl rfl, ?_⟩
      intro part inside
      revert part
      decide
    · rw [List.mem_singleton.mp rest]
      exact ⟨.inr rfl, by decide⟩) (List.cons_ne_nil _ _)
    (by simp [List.take_append_drop])

end Fragments

end Viridity.WebSocketLink
