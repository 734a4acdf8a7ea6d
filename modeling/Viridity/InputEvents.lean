import Mathlib.Data.List.Basic
import Viridity.LabelledRuns

/-!
# Input events of a client

`Viridity.js` collects messages for the server and posts them from a loop of requests and
timers. The loop is started by messages from the server, and started again after a
disconnect. Long polling and server-sent events differ in how messages arrive.
-/

namespace Viridity.InputEvents

open Viridity.LabelledRuns

set_option autoImplicit false

inductive ConnectionMethod where
  | longPolling
  | serverSentEvents
deriving DecidableEq

/-- `sendTimers` and `requests` are the pending timers and the posts in flight of the sending
loop, `receiveTimers` and `receives` those of long polling. What was passed to `sendMessage`
and what was posted with success are on record. -/
structure ClientState where
  connectionMethod : ConnectionMethod
  connected : Bool
  inputEvents : List String
  inputEventsStarted : Bool
  reconnectTries : Nat
  reconnectFirstTry : Bool
  reconnecting : Bool
  reconnectTimer : Bool
  sendTimers : Nat
  requests : List (List String)
  receiveTimers : Nat
  receives : Nat
  eventSource : Bool
  sent : List String
  posted : List (List String)
deriving DecidableEq

/-- A message of the server, as far as `processMessage` tells them apart. -/
inductive ServerCommand where
  | info
  | reattached
  | inuse
  | ping
  | other
deriving DecidableEq

inductive PostOutcome where
  | success
  | timeout
  | failure
deriving DecidableEq

inductive ReceiveOutcome where
  | success (messages : List ServerCommand)
  | timeout
  | failure
deriving DecidableEq

/-- Calls of `sendMessage` from user code, and the callbacks of timers, requests and the
event source. -/
inductive ClientAction where
  | sendMessage (msg : String)
  | sendTimer
  | postEnds (index : Nat) (outcome : PostOutcome)
  | receiveTimer
  | receiveEnds (outcome : ReceiveOutcome)
  | streamMessages (messages : List ServerCommand)
  | streamError
  | reconnectTimer
deriving DecidableEq

namespace ClientState

def sendMessage (state : ClientState) (msg : String) : ClientState :=
  { state with inputEvents := state.inputEvents ++ [msg], sent := state.sent ++ [msg] }

def sendInputEvents (state : ClientState) : ClientState :=
  if state.connected = false then state
  else if state.inputEvents ≠ [] then
    { state with inputEvents := [], requests := state.requests ++ [state.inputEvents] }
  else { state with sendTimers := state.sendTimers + 1 }

def checkInputEventsStarted (state : ClientState) : ClientState :=
  if state.inputEventsStarted = false then { state.sendInputEvents with inputEventsStarted := true }
  else state

def processMessage (state : ClientState) (message : ServerCommand) : ClientState :=
  let processed :=
    match message with
    | .info => { state with connected := true }
    | .reattached => { state with connected := true }
    | .inuse => { state with connected := false }
    | .ping => state.sendMessage "pong()"
    | .other => state
  if processed.reconnecting then
    { processed with reconnectTimer := false, reconnecting := false, reconnectTries := 0 }
  else processed

def processMessages (state : ClientState) (messages : List ServerCommand) : ClientState :=
  messages.foldl processMessage state

def reconnectTriesBeforeDowngrade : Nat := 10

def downgraded (autoDowngrade : Bool) (state : ClientState) : ConnectionMethod :=
  if autoDowngrade ∧ (state.reconnectFirstTry = true ∨ (0 < state.reconnectTries ∧
      state.connectionMethod ≠ .longPolling ∧
      state.reconnectTries % reconnectTriesBeforeDowngrade = 0)) then .longPolling
  else state.connectionMethod

def handleDisconnect (autoDowngrade : Bool) (state : ClientState) : ClientState :=
  let method := state.downgraded autoDowngrade
  let left :=
    if state.reconnecting then { state with connectionMethod := method }
    else
      { state with
        connectionMethod := method
        reconnectTries := 0
        inputEventsStarted := false
        connected := false
        reconnecting := true }
  { left with
    reconnectTries := left.reconnectTries + 1
    reconnectFirstTry := false
    reconnectTimer := true }

def connect (state : ClientState) : ClientState :=
  match state.connectionMethod with
  | .longPolling => { state with receives := state.receives + 1 }
  | .serverSentEvents => { state with eventSource := true }

/-- A client that has just called `connect` for the first time. -/
def start (method : ConnectionMethod) : ClientState :=
  connect
    { connectionMethod := method
      connected := false
      inputEvents := []
      inputEventsStarted := false
      reconnectTries := 0
      reconnectFirstTry := true
      reconnecting := false
      reconnectTimer := false
      sendTimers := 0
      requests := []
      receiveTimers := 0
      receives := 0
      eventSource := false
      sent := []
      posted := [] }

/-- The end of a post: what it carried is gone unless it succeeded. -/
def postEnds (autoDowngrade : Bool) (state : ClientState) (index : Nat) (body : List String) :
    PostOutcome → ClientState
  | .success =>
      { state with
        requests := state.requests.eraseIdx index
        posted := state.posted ++ [body]
        sendTimers := state.sendTimers + 1 }
  | .timeout =>
      { state with
        requests := state.requests.eraseIdx index
        sendTimers := state.sendTimers + 1 }
  | .failure =>
      { state with requests := state.requests.eraseIdx index }.handleDisconnect autoDowngrade

/-- The messages of a response end with an empty line, which is processed as well. -/
def receiveEnds (autoDowngrade : Bool) (state : ClientState) : ReceiveOutcome → ClientState
  | .success messages =>
      let processed := state.processMessages (messages ++ [.other])
      if processed.connected then
        { processed with receiveTimers := processed.receiveTimers + 1 }.checkInputEventsStarted
      else processed
  | .timeout => { state with receiveTimers := state.receiveTimers + 1 }
  | .failure => state.handleDisconnect autoDowngrade

end ClientState

open ClientState

def clientStep (autoDowngrade : Bool) (state : ClientState) : ClientAction → Option ClientState
  | .sendMessage msg => some (state.sendMessage msg)
  | .sendTimer =>
      if 0 < state.sendTimers then
        some { state with sendTimers := state.sendTimers - 1 }.sendInputEvents
      else none
  | .postEnds index outcome =>
      (state.requests[index]?).map fun body => state.postEnds autoDowngrade index body outcome
  | .receiveTimer =>
      if 0 < state.receiveTimers then
        some { state with
          receiveTimers := state.receiveTimers - 1
          receives := state.receives + 1 }
      else none
  | .receiveEnds outcome =>
      if 0 < state.receives then
        some ({ state with receives := state.receives - 1 }.receiveEnds autoDowngrade outcome)
      else none
  | .streamMessages messages =>
      if state.eventSource then some (state.processMessages messages).checkInputEventsStarted
      else none
  | .streamError =>
      if state.eventSource then
        some ({ state with eventSource := false }.handleDisconnect autoDowngrade)
      else none
  | .reconnectTimer =>
      if state.reconnectTimer then some { state with reconnectTimer := false }.connect else none

/-- What was sent is what was posted, what is being posted and what waits, in this order, and
one post is in flight at most. -/
def Kept (state : ClientState) : Prop :=
  state.posted.flatten ++ state.requests.flatten ++ state.inputEvents = state.sent ∧
    state.requests.length ≤ 1

def BodiesFull (state : ClientState) : Prop := ∀ body ∈ state.requests, body ≠ []

/-- Messages wait, and a post is still in flight. -/
def Overlaps (state : ClientState) : Prop :=
  state.connected = true ∧ state.inputEvents ≠ [] ∧ state.requests ≠ []

/-- The state in which the sending loop is started, where a message from the server starts it. -/
def loopStarts (state : ClientState) : ClientAction → Option ClientState
  | .receiveEnds (.success messages) =>
      let processed :=
        { state with receives := state.receives - 1 }.processMessages
          (messages ++ [ServerCommand.other])
      if processed.connected && !processed.inputEventsStarted then some processed else none
  | .streamMessages messages =>
      let processed := state.processMessages messages
      if processed.inputEventsStarted = false then some processed else none
  | _ => none

def PostSucceeds (action : ClientAction) : Prop :=
  ∀ index outcome, action = .postEnds index outcome → outcome = .success

/-- All posts succeed, and the sending loop never gets to send while a post is in flight. -/
def PostsSeparate (state : ClientState) (action : ClientAction) (_after : ClientState) : Prop :=
  PostSucceeds action ∧ (action = .sendTimer → ¬ Overlaps state) ∧
    ∀ starting, loopStarts state action = some starting → ¬ Overlaps starting

/-- All posts succeed, and the sending loop is started only where none is left. -/
def LoopSingle (state : ClientState) (action : ClientAction) (_after : ClientState) : Prop :=
  PostSucceeds action ∧
    ((loopStarts state action).isSome → state.sendTimers = 0 ∧ state.requests = [])

def KeptAfter (_state : ClientState) (_action : ClientAction) (after : ClientState) : Prop :=
  Kept after

section Sending

variable {state : ClientState}

theorem kept_send (kept : Kept state) (msg : String) : Kept (state.sendMessage msg) := by
  refine ⟨?_, kept.2⟩
  have whole := kept.1
  simp only [ClientState.sendMessage]
  rw [← whole]
  simp

theorem kept_process (kept : Kept state) (message : ServerCommand) :
    Kept (state.processMessage message) := by
  have pong := kept_send kept "pong()"
  unfold ClientState.processMessage
  cases message with
  | info => simp only; split_ifs <;> exact kept
  | reattached => simp only; split_ifs <;> exact kept
  | inuse => simp only; split_ifs <;> exact kept
  | ping => simp only; split_ifs <;> exact pong
  | other => simp only; split_ifs <;> exact kept

/-- Processing a message touches neither the requests nor the timers of the sending loop. -/
theorem process_loop (message : ServerCommand) :
    (state.processMessage message).requests = state.requests ∧
      (state.processMessage message).sendTimers = state.sendTimers := by
  unfold ClientState.processMessage
  cases message <;> simp only <;> split_ifs <;> exact ⟨rfl, rfl⟩

theorem kept_processes (kept : Kept state) (messages : List ServerCommand) :
    Kept (state.processMessages messages) := by
  unfold processMessages
  induction messages generalizing state with
  | nil => exact kept
  | cons message messages induction => exact induction (kept_process kept message)

theorem processes_loop (messages : List ServerCommand) :
    (state.processMessages messages).requests = state.requests ∧
      (state.processMessages messages).sendTimers = state.sendTimers := by
  unfold processMessages
  induction messages generalizing state with
  | nil => exact ⟨rfl, rfl⟩
  | cons message messages induction =>
      have later := @induction (state.processMessage message)
      have first := @process_loop state message
      rw [first.1, first.2] at later
      exact later

/-- Sending keeps everything exactly when no post is out while messages wait. -/
theorem kept_send_events (kept : Kept state) :
    Kept state.sendInputEvents ↔ ¬ Overlaps state := by
  unfold sendInputEvents
  split_ifs with apart waiting
  · exact iff_of_true kept fun overlaps => by simp [overlaps.1] at apart
  · have connected : state.connected = true := by simpa using apart
    unfold Kept Overlaps
    simp only [connected, waiting, true_and, not_not, ne_eq, not_false_eq_true]
    constructor
    · intro both
      have count := both.2
      simp only [List.length_append, List.length_singleton] at count
      exact List.length_eq_zero_iff.mp (by omega)
    · intro none_
      have whole := kept.1
      rw [none_] at whole ⊢
      exact ⟨by simpa using whole, by simp⟩
  · refine iff_of_true kept fun overlaps => waiting overlaps.2.1

theorem full_send_events (full : BodiesFull state) : BodiesFull state.sendInputEvents := by
  unfold sendInputEvents
  split_ifs with apart waiting
  · exact full
  · intro body member
    cases List.mem_append.mp member with
    | inl earlier => exact full body earlier
    | inr new => exact List.mem_singleton.mp new ▸ waiting
  · exact full

theorem kept_disconnect (autoDowngrade : Bool) :
    Kept (state.handleDisconnect autoDowngrade) ↔ Kept state := by
  unfold handleDisconnect
  simp only
  split_ifs <;> exact Iff.rfl

theorem lost_unkept {index : Nat} {body : List String} (kept : Kept state) (full : BodiesFull state)
    (found : state.requests[index]? = some body) :
    ¬ Kept { state with requests := state.requests.eraseIdx index } := by
  intro still
  have single := kept.2
  cases given : state.requests with
  | nil => simp [given] at found
  | cons first rest =>
      rw [given, List.length_cons] at single
      have alone : rest = [] := List.length_eq_zero_iff.mp (by omega)
      have position : index = 0 := by
        rw [given, alone] at found
        have within := (List.getElem?_eq_some_iff.mp found).1
        simpa using within
      have nonempty := full first (by simp [given])
      have lengths := congrArg List.length (still.1.trans kept.1.symm)
      rw [given, alone, position] at lengths
      simp at lengths
      exact nonempty lengths

theorem disconnect_loop (autoDowngrade : Bool) :
    (state.handleDisconnect autoDowngrade).requests = state.requests ∧
      (state.handleDisconnect autoDowngrade).sendTimers = state.sendTimers := by
  unfold handleDisconnect
  simp only
  split_ifs <;> exact ⟨rfl, rfl⟩

theorem connect_loop : state.connect.requests = state.requests ∧
    state.connect.sendTimers = state.sendTimers := by
  unfold ClientState.connect
  cases state.connectionMethod <;> exact ⟨rfl, rfl⟩

theorem kept_connect (kept : Kept state) : Kept state.connect := by
  unfold ClientState.connect
  cases state.connectionMethod <;> exact kept

theorem kept_success {index : Nat} {body : List String} (kept : Kept state)
    (found : state.requests[index]? = some body) (autoDowngrade : Bool) :
    Kept (state.postEnds autoDowngrade index body .success) := by
  have within := (List.getElem?_eq_some_iff.mp found).1
  have single := kept.2
  have position : index = 0 := by omega
  have alone : state.requests = [body] := by
    apply List.ext_getElem?
    intro place
    cases place with
    | zero => rw [← position, found, position, List.getElem?_cons_zero]
    | succ place =>
        rw [List.getElem?_eq_none (by omega), List.getElem?_cons_succ, List.getElem?_nil]
  have whole := kept.1
  rw [alone] at whole
  unfold ClientState.postEnds
  simp only [alone, position, Kept]
  constructor
  · rw [← whole]
    simp
  · simp

end Sending

section Runs

variable {state after : ClientState}

theorem kept_started (kept : Kept state) :
    Kept state.checkInputEventsStarted ↔ (state.inputEventsStarted = false → ¬ Overlaps state) := by
  unfold checkInputEventsStarted
  by_cases stopped : state.inputEventsStarted = false
  · rw [if_pos stopped]
    have sends := kept_send_events kept
    constructor
    · intro still _
      exact sends.mp still
    · intro apart
      exact sends.mpr (apart stopped)
  · rw [if_neg stopped]
    exact iff_of_true kept fun started => absurd started stopped

theorem full_started (full : BodiesFull state) : BodiesFull state.checkInputEventsStarted := by
  unfold checkInputEventsStarted
  split_ifs
  · exact full_send_events full
  · exact full

theorem full_processes (full : BodiesFull state) (messages : List ServerCommand) :
    BodiesFull (state.processMessages messages) := by
  unfold BodiesFull
  rw [(processes_loop messages).1]
  exact full

theorem full_disconnect (full : BodiesFull state) (autoDowngrade : Bool) :
    BodiesFull (state.handleDisconnect autoDowngrade) := by
  unfold BodiesFull
  rw [(disconnect_loop autoDowngrade).1]
  exact full

theorem full_connect (full : BodiesFull state) : BodiesFull state.connect := by
  unfold BodiesFull
  rw [connect_loop.1]
  exact full

theorem full_erased (full : BodiesFull state) (index : Nat) :
    BodiesFull { state with requests := state.requests.eraseIdx index } := by
  intro body member
  exact full body (List.mem_of_mem_eraseIdx member)

/-- The messages of a response are kept unless they start the loop too early. -/
theorem kept_received (kept : Kept state) (autoDowngrade : Bool) (outcome : ReceiveOutcome) :
    Kept ({ state with receives := state.receives - 1 }.receiveEnds autoDowngrade outcome) ↔
      ∀ starting, loopStarts state (.receiveEnds outcome) = some starting →
        ¬ Overlaps starting := by
  have taken : Kept { state with receives := state.receives - 1 } := kept
  cases outcome with
  | success messages =>
      have processed := kept_processes taken (messages ++ [.other])
      simp only [ClientState.receiveEnds, loopStarts]
      generalize ClientState.processMessages _ _ = read at processed ⊢
      by_cases connected : read.connected = true
      · rw [if_pos connected]
        have waits : Kept { read with receiveTimers := read.receiveTimers + 1 } := processed
        rw [kept_started waits]
        constructor
        · intro apart starting starts
          split_ifs at starts with stopped
          rw [Bool.and_eq_true, Bool.not_eq_true'] at stopped
          rw [← Option.some.inj starts]
          exact apart stopped.2
        · intro apart stopped
          exact apart read (if_pos (by rw [connected, stopped]; rfl))
      · rw [if_neg connected]
        exact iff_of_true processed fun starting starts => by simp [connected] at starts
  | timeout => exact iff_of_true taken fun starting starts => by simp [loopStarts] at starts
  | failure =>
      exact iff_of_true ((kept_disconnect autoDowngrade).mpr taken)
        fun starting starts => by simp [loopStarts] at starts

theorem full_received (full : BodiesFull state) (autoDowngrade : Bool)
    (outcome : ReceiveOutcome) : BodiesFull (state.receiveEnds autoDowngrade outcome) := by
  cases outcome with
  | success messages =>
      have processed := full_processes full (messages ++ [.other])
      simp only [ClientState.receiveEnds]
      split_ifs with connected
      · exact full_started processed
      · exact processed
  | timeout => exact full
  | failure => exact full_disconnect full autoDowngrade

theorem kept_streamed (kept : Kept state) (messages : List ServerCommand) :
    Kept (state.processMessages messages).checkInputEventsStarted ↔
      ∀ starting, loopStarts state (.streamMessages messages) = some starting →
        ¬ Overlaps starting := by
  rw [kept_started (kept_processes kept messages)]
  simp only [loopStarts]
  constructor
  · intro apart starting starts
    split_ifs at starts with stopped
    rw [← Option.some.inj starts]
    exact apart stopped
  · intro apart stopped
    exact apart _ (if_pos stopped)

theorem kept_posted (kept : Kept state) (full : BodiesFull state) {index : Nat}
    {body : List String} (found : state.requests[index]? = some body) (autoDowngrade : Bool)
    (outcome : PostOutcome) :
    Kept (state.postEnds autoDowngrade index body outcome) ↔ outcome = .success := by
  have lost := lost_unkept kept full found
  cases outcome with
  | success => exact iff_of_true (kept_success kept found autoDowngrade) rfl
  | timeout => exact iff_of_false lost PostOutcome.noConfusion
  | failure =>
      apply iff_of_false _ PostOutcome.noConfusion
      intro still
      exact lost ((kept_disconnect autoDowngrade).mp still)

theorem full_posted (full : BodiesFull state) (index : Nat) (body : List String)
    (autoDowngrade : Bool) (outcome : PostOutcome) :
    BodiesFull (state.postEnds autoDowngrade index body outcome) := by
  have erased := full_erased full index
  cases outcome with
  | success => exact erased
  | timeout => exact erased
  | failure => exact full_disconnect erased autoDowngrade

/-- An action that neither ends a post nor lets the loop send meets the condition. -/
theorem separate_quiet {action : ClientAction}
    (posts : ∀ index outcome, action ≠ .postEnds index outcome) (wakes : action ≠ .sendTimer)
    (starts : loopStarts state action = none) : PostsSeparate state action after := by
  refine ⟨?_, ?_, ?_⟩
  · intro index outcome ends
    exact absurd ends (posts index outcome)
  · intro timer
    exact absurd timer wakes
  · intro starting started
    rw [starts] at started
    cases started

theorem step_kept {autoDowngrade : Bool} {action : ClientAction} (kept : Kept state)
    (full : BodiesFull state) (taken : clientStep autoDowngrade state action = some after) :
    (Kept after ↔ PostsSeparate state action after) ∧ BodiesFull after := by
  cases action with
  | sendMessage msg =>
      simp only [clientStep, Option.some.injEq] at taken
      have quiet := @separate_quiet state after (.sendMessage msg) nofun nofun rfl
      rw [← taken] at quiet ⊢
      exact ⟨iff_of_true (kept_send kept msg) quiet, full⟩
  | sendTimer =>
      simp only [clientStep, Option.ite_none_right_eq_some, Option.some.injEq] at taken
      rw [← taken.2]
      have sends := @kept_send_events { state with sendTimers := state.sendTimers - 1 } kept
      constructor
      · rw [sends]
        constructor
        · intro apart
          exact ⟨nofun, fun _ => apart, nofun⟩
        · intro separate
          exact separate.2.1 rfl
      · exact @full_send_events { state with sendTimers := state.sendTimers - 1 } full
  | postEnds index outcome =>
      simp only [clientStep, Option.map_eq_some_iff] at taken
      obtain ⟨body, found, ends⟩ := taken
      rw [← ends]
      constructor
      · rw [kept_posted kept full found autoDowngrade outcome]
        constructor
        · intro success
          refine ⟨?_, nofun, nofun⟩
          intro _ _ same
          cases same
          exact success
        · intro separate
          exact separate.1 index outcome rfl
      · exact full_posted full index body autoDowngrade outcome
  | receiveTimer =>
      simp only [clientStep, Option.ite_none_right_eq_some, Option.some.injEq] at taken
      have quiet := @separate_quiet state after .receiveTimer nofun nofun rfl
      rw [← taken.2] at quiet ⊢
      exact ⟨iff_of_true kept quiet, full⟩
  | receiveEnds outcome =>
      simp only [clientStep, Option.ite_none_right_eq_some, Option.some.injEq] at taken
      rw [← taken.2]
      constructor
      · rw [kept_received kept autoDowngrade outcome]
        constructor
        · intro apart
          exact ⟨nofun, nofun, apart⟩
        · intro separate
          exact separate.2.2
      · exact @full_received { state with receives := state.receives - 1 } full autoDowngrade outcome
  | streamMessages messages =>
      simp only [clientStep, Option.ite_none_right_eq_some, Option.some.injEq] at taken
      rw [← taken.2]
      constructor
      · rw [kept_streamed kept messages]
        constructor
        · intro apart
          exact ⟨nofun, nofun, apart⟩
        · intro separate
          exact separate.2.2
      · exact full_started (full_processes full messages)
  | streamError =>
      simp only [clientStep, Option.ite_none_right_eq_some, Option.some.injEq] at taken
      have quiet := @separate_quiet state after .streamError nofun nofun rfl
      have disconnected := @kept_disconnect { state with eventSource := false } autoDowngrade
      rw [← taken.2] at quiet ⊢
      exact ⟨iff_of_true (disconnected.mpr kept) quiet,
        @full_disconnect { state with eventSource := false } full autoDowngrade⟩
  | reconnectTimer =>
      simp only [clientStep, Option.ite_none_right_eq_some, Option.some.injEq] at taken
      have quiet := @separate_quiet state after .reconnectTimer nofun nofun rfl
      rw [← taken.2] at quiet ⊢
      exact ⟨iff_of_true (@kept_connect { state with reconnectTimer := false } kept) quiet,
        @full_connect { state with reconnectTimer := false } full⟩

/-- Timers and posts of the sending loop: as many as there are loops. -/
def loops (state : ClientState) : Nat := state.sendTimers + state.requests.length

theorem loops_send_events : loops state.sendInputEvents ≤ loops state + 1 := by
  unfold sendInputEvents
  split_ifs <;> simp only [loops, List.length_append, List.length_singleton] <;> omega

theorem loops_processes (messages : List ServerCommand) :
    loops (state.processMessages messages) = loops state := by
  have same := @processes_loop state messages
  rw [loops, same.1, same.2, loops]

theorem loops_disconnect (autoDowngrade : Bool) :
    loops (state.handleDisconnect autoDowngrade) = loops state := by
  have same := @disconnect_loop state autoDowngrade
  rw [loops, same.1, same.2, loops]

theorem loops_connect : loops state.connect = loops state := by
  have same := @connect_loop state
  rw [loops, same.1, same.2, loops]

theorem loops_started :
    loops state.checkInputEventsStarted ≤
      loops state + if state.inputEventsStarted = false then 1 else 0 := by
  unfold checkInputEventsStarted
  by_cases stopped : state.inputEventsStarted = false
  · rw [if_pos stopped, if_pos stopped]
    exact loops_send_events
  · rw [if_neg stopped, if_neg stopped]
    exact Nat.le_refl _

/-- The next state has no more loops than before, but for one that a message started. -/
def loopsAllowed (state : ClientState) (action : ClientAction) : Nat :=
  loops state + if (loopStarts state action).isSome then 1 else 0

theorem loops_read (read : ClientState) :
    loops (if read.connected then
        { read with receiveTimers := read.receiveTimers + 1 }.checkInputEventsStarted
      else read) ≤
      loops read + if (if read.connected && !read.inputEventsStarted then some read
        else none).isSome then 1 else 0 := by
  by_cases connected : read.connected = true
  · have started := @loops_started { read with receiveTimers := read.receiveTimers + 1 }
    rw [if_pos connected]
    by_cases stopped : read.inputEventsStarted = false
    · have starts : (read.connected && !read.inputEventsStarted) = true := by
        rw [connected, stopped]
        rfl
      rw [if_pos stopped] at started
      rw [if_pos starts]
      exact started
    · rw [if_neg stopped] at started
      exact Nat.le_trans started (Nat.le_add_right _ _)
  · rw [if_neg connected]
    exact Nat.le_add_right _ _

theorem loops_received (autoDowngrade : Bool) (outcome : ReceiveOutcome) :
    loops ({ state with receives := state.receives - 1 }.receiveEnds autoDowngrade outcome) ≤
      loopsAllowed state (.receiveEnds outcome) := by
  cases outcome with
  | success messages =>
      have read := loops_read ({ state with receives := state.receives - 1 }.processMessages
        (messages ++ [ServerCommand.other]))
      rw [loops_processes] at read
      exact read
  | timeout => exact Nat.le_add_right _ _
  | failure =>
      rw [ClientState.receiveEnds, loops_disconnect]
      exact Nat.le_add_right _ _

theorem loops_posted {index : Nat} {body : List String}
    (found : state.requests[index]? = some body) (autoDowngrade : Bool) (outcome : PostOutcome) :
    loops (state.postEnds autoDowngrade index body outcome) ≤ loops state := by
  have within := (List.getElem?_eq_some_iff.mp found).1
  have erased := List.length_eraseIdx_of_lt within
  cases outcome with
  | success => simp only [ClientState.postEnds, loops, erased]; omega
  | timeout => simp only [ClientState.postEnds, loops, erased]; omega
  | failure =>
      rw [ClientState.postEnds, loops_disconnect]
      simp only [loops, erased]
      omega

theorem loops_step {autoDowngrade : Bool} {action : ClientAction}
    (taken : clientStep autoDowngrade state action = some after) :
    loops after ≤ loopsAllowed state action := by
  cases action with
  | sendMessage msg =>
      simp only [clientStep, Option.some.injEq] at taken
      rw [← taken]
      exact Nat.le_add_right _ _
  | sendTimer =>
      simp only [clientStep, Option.ite_none_right_eq_some, Option.some.injEq] at taken
      rw [← taken.2]
      have sent := @loops_send_events { state with sendTimers := state.sendTimers - 1 }
      have pending := taken.1
      simp only [loopsAllowed, loops] at sent ⊢
      omega
  | postEnds index outcome =>
      simp only [clientStep, Option.map_eq_some_iff] at taken
      obtain ⟨body, found, ends⟩ := taken
      rw [← ends]
      have posted := loops_posted found autoDowngrade outcome
      exact Nat.le_trans posted (Nat.le_add_right _ _)
  | receiveTimer =>
      simp only [clientStep, Option.ite_none_right_eq_some, Option.some.injEq] at taken
      rw [← taken.2]
      exact Nat.le_add_right _ _
  | receiveEnds outcome =>
      simp only [clientStep, Option.ite_none_right_eq_some, Option.some.injEq] at taken
      rw [← taken.2]
      exact loops_received autoDowngrade outcome
  | streamMessages messages =>
      simp only [clientStep, Option.ite_none_right_eq_some, Option.some.injEq] at taken
      rw [← taken.2]
      have started := @loops_started (state.processMessages messages)
      rw [loops_processes] at started
      simp only [loopsAllowed, loopStarts]
      by_cases stopped : (state.processMessages messages).inputEventsStarted = false
      · simpa [stopped] using started
      · simpa [stopped] using started
  | streamError =>
      simp only [clientStep, Option.ite_none_right_eq_some, Option.some.injEq] at taken
      rw [← taken.2, loops_disconnect]
      exact Nat.le_add_right _ _
  | reconnectTimer =>
      simp only [clientStep, Option.ite_none_right_eq_some, Option.some.injEq] at taken
      rw [← taken.2, loops_connect]
      exact Nat.le_add_right _ _

theorem starting_requests {action : ClientAction} {starting : ClientState}
    (starts : loopStarts state action = some starting) : starting.requests = state.requests := by
  unfold loopStarts at starts
  split at starts
  · simp only [Option.ite_none_right_eq_some, Option.some.injEq] at starts
    rw [← starts.2, (processes_loop _).1]
  · simp only [Option.ite_none_right_eq_some, Option.some.injEq] at starts
    rw [← starts.2, (processes_loop _).1]
  · simp at starts

theorem single_loops {autoDowngrade : Bool} {action : ClientAction} (few : loops state ≤ 1)
    (taken : clientStep autoDowngrade state action = some after)
    (single : LoopSingle state action after) : loops after ≤ 1 := by
  have bound := loops_step taken
  unfold loopsAllowed at bound
  by_cases starts : (loopStarts state action).isSome
  · have alone := single.2 starts
    have ended : loops state = 0 := by simp [loops, alone.1, alone.2]
    rw [if_pos starts] at bound
    omega
  · rw [if_neg starts] at bound
    omega

theorem single_separate {autoDowngrade : Bool} {action : ClientAction} (few : loops state ≤ 1)
    (taken : clientStep autoDowngrade state action = some after)
    (single : LoopSingle state action after) : PostsSeparate state action after := by
  refine ⟨single.1, ?_, ?_⟩
  · intro timer overlaps
    rw [timer] at taken
    simp only [clientStep, Option.ite_none_right_eq_some] at taken
    have pending := taken.1
    have flying := List.length_pos_iff.mpr overlaps.2.2
    simp only [loops] at few
    omega
  · intro starting starts overlaps
    have alone := single.2 (by rw [starts]; rfl)
    exact overlaps.2.2 ((starting_requests starts).trans alone.2)

end Runs

theorem start_kept (method : ConnectionMethod) : Kept (start method) ∧ BodiesFull (start method) := by
  cases method with
  | longPolling => exact ⟨⟨rfl, Nat.zero_le 1⟩, fun body member => absurd member List.not_mem_nil⟩
  | serverSentEvents => exact ⟨⟨rfl, Nat.zero_le 1⟩, fun body member => absurd member List.not_mem_nil⟩

/-- In every run nothing is lost, doubled or put out of order, and one post is in flight at
most, exactly as long as all posts succeed and the sending loop never sends while a post is in
flight. It is enough that no loop is started while another one is left. -/
theorem input_events_kept (autoDowngrade : Bool) (method : ConnectionMethod)
    (actions : List ClientAction) :
    (Along (clientStep autoDowngrade) KeptAfter (start method) actions ↔
      Along (clientStep autoDowngrade) PostsSeparate (start method) actions) ∧
    (Along (clientStep autoDowngrade) LoopSingle (start method) actions →
      Along (clientStep autoDowngrade) PostsSeparate (start method) actions) := by
  constructor
  · have preserved : ∀ state action after, Kept state ∧ BodiesFull state →
        clientStep autoDowngrade state action = some after →
        KeptAfter state action after → Kept after ∧ BodiesFull after := by
      intro state action after sound taken kept
      exact ⟨kept, (step_kept sound.1 sound.2 taken).2⟩
    have same : ∀ state action after, Kept state ∧ BodiesFull state →
        clientStep autoDowngrade state action = some after →
        (KeptAfter state action after ↔ PostsSeparate state action after) := by
      intro state action after sound taken
      exact (step_kept sound.1 sound.2 taken).1
    exact along_congr_while preserved same (start_kept method) actions
  · have preserved : ∀ state action after, loops state ≤ 1 →
        clientStep autoDowngrade state action = some after →
        LoopSingle state action after → loops after ≤ 1 :=
      fun state action after few taken single => single_loops few taken single
    have implied : ∀ state action after, loops state ≤ 1 →
        clientStep autoDowngrade state action = some after →
        LoopSingle state action after → PostsSeparate state action after :=
      fun state action after few taken single => single_separate few taken single
    have base : loops (start method) ≤ 1 := by cases method <;> decide
    exact along_imp_while preserved implied base actions

/-- A disconnect makes room for a second loop while a post of the first is in flight. -/
example :
    (execute (clientStep false) (start .longPolling)
      [.receiveEnds (.success [.info]), .sendMessage "a", .sendTimer, .receiveTimer,
        .receiveEnds .failure, .sendMessage "b", .reconnectTimer,
        .receiveEnds (.success [.reattached])]).map ClientState.requests = some [["a"], ["b"]] := by
  decide

/-- The queue is emptied before a post, and a post that times out is not repeated. -/
theorem timed_out_post_lost :
    ¬ ∀ (autoDowngrade : Bool) (method : ConnectionMethod) (actions : List ClientAction),
      Along (clientStep autoDowngrade) KeptAfter (start method) actions := by
  intro all
  have along := all false .longPolling
    ([.receiveEnds (.success [.info]), .sendMessage "a", .sendTimer] ++ [.postEnds 0 .timeout])
  have kept := along.last rfl rfl
  have whole := kept.1
  revert whole
  decide

end Viridity.InputEvents
