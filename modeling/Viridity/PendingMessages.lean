import Viridity.ChannelHandlers

/-!
# Pending messages of a session

One session with its outgoing messages and the ends of the channels that attach to it. The
update check timer stops itself when it fires, and what it emits reaches the ends that are
connected at that moment. A call of a handler is cut where the session's thread can come
between.
-/

namespace Viridity.PendingMessages

open Viridity.LabelledRuns
open Viridity.ChannelHandlers

set_option autoImplicit false

/-- Where a handler stands that attaches to the session. In the stages `creating` and
`created` it is the one that asked for the session. -/
inductive AttachStage where
  | idle
  | creating
  | created
  | acquired
  | connected
deriving DecidableEq

/-- `session` tells whether `session_` is the session, `response` whether the response or
the socket is kept, `connected` whether `newPendingMessagesAvailable` is connected, and
`deliveries` how often its delivery is queued. -/
structure ChannelEnd where
  kind : ChannelKind
  stage : AttachStage
  session : Bool
  response : Bool
  connected : Bool
  deliveries : Nat
deriving DecidableEq

structure MessageSession (Message : Type*) where
  created : Bool
  messages : List Message
  messageHandlersRequestingMessageDispatch : List Nat
  updateCheckTimer : Bool
  ends : List ChannelEnd

inductive MessageAction (Message : Type*) where
  | openConnection (kind : ChannelKind)
  | createSession (index : Nat)
  | getNewSession (index : Nat)
  | acquireSession (index : Nat)
  | setUpResponse (index : Nat)
  | checkPending (index : Nat) (returned : Nat → List Message)
  | sendMessageToClient (message : Message)
  | handlerIsReadyForDispatch (handler : Nat)
  | updateCheckTimerTimeout
  | handleMessagesAvailable (index : Nat) (returned : Nat → List Message)
  | releaseSession (index : Nat)
  | closeResponse (index : Nat)
  | destroy (index : Nat)

variable {Message : Type*}

def openEnd (kind : ChannelKind) : ChannelEnd where
  kind := kind
  stage := .idle
  session := false
  response := false
  connected := false
  deliveries := 0

namespace MessageSession

def start : MessageSession Message where
  created := false
  messages := []
  messageHandlersRequestingMessageDispatch := []
  updateCheckTimer := false
  ends := []

def pendingMessagesAvailable (session : MessageSession Message) : Bool :=
  !session.messages.isEmpty || !session.messageHandlersRequestingMessageDispatch.isEmpty

def triggerUpdateCheckTimer (session : MessageSession Message) : MessageSession Message :=
  { session with updateCheckTimer := true }

def sendMessageToClient (session : MessageSession Message) (message : Message) :
    MessageSession Message :=
  triggerUpdateCheckTimer { session with messages := session.messages ++ [message] }

def handlerIsReadyForDispatch (session : MessageSession Message) (handler : Nat) :
    MessageSession Message :=
  triggerUpdateCheckTimer
    (if handler ∈ session.messageHandlersRequestingMessageDispatch then session
    else { session with
      messageHandlersRequestingMessageDispatch :=
        session.messageHandlersRequestingMessageDispatch ++ [handler] })

/-- `returned` is what the message handlers answer when they are asked. -/
def takePendingMessages (session : MessageSession Message) (returned : Nat → List Message) :
    List Message × MessageSession Message :=
  (session.messages ++ session.messageHandlersRequestingMessageDispatch.flatMap returned,
    { session with messages := [], messageHandlersRequestingMessageDispatch := [] })

/-- `newPendingMessagesAvailable` is posted to the handlers connected to it. -/
def notified (channel : ChannelEnd) : ChannelEnd :=
  if channel.connected then { channel with deliveries := channel.deliveries + 1 } else channel

def updateCheckTimerTimeout (session : MessageSession Message) : MessageSession Message :=
  let stopped := { session with updateCheckTimer := false }
  if stopped.pendingMessagesAvailable then
    { stopped with
      ends := stopped.ends.map notified }
  else stopped

def setEnd (session : MessageSession Message) (index : Nat) (channel : ChannelEnd) :
    MessageSession Message :=
  { session with ends := session.ends.set index channel }

/-- The condition that `handleMessagesAvailable` tests before the pending messages: a
WebSocket handler does not look at its socket. -/
def mayTake (channel : ChannelEnd) : Bool :=
  channel.session && (channel.kind = .webSocket || channel.response)

/-- A long poll is over once it was given something. -/
def afterMessages (channel : ChannelEnd) (messages : List Message) : ChannelEnd :=
  match channel.kind with
  | .longPolling =>
      if messages.isEmpty then channel
      else { channel with session := false, response := false }
  | .sse | .webSocket => channel

def handleMessagesAvailable (session : MessageSession Message) (index : Nat)
    (channel : ChannelEnd) (returned : Nat → List Message) : MessageSession Message :=
  if mayTake channel && session.pendingMessagesAvailable then
    let taken := session.takePendingMessages returned
    taken.2.setEnd index (afterMessages channel taken.1)
  else session.setEnd index channel

/-- The signals are connected if `session_` is set. The handler of server-sent events
returns at once after it set up the response for a new session. -/
def setUpResponse (channel : ChannelEnd) : ChannelEnd :=
  { channel with
    stage := if channel.kind = .sse ∧ channel.stage = .created then .idle else .connected
    response := channel.response || channel.kind ≠ .webSocket
    connected := channel.connected || channel.session }

/-- The last statements of the call; the WebSocket handler remembers its socket here. -/
def finishAttach (channel : ChannelEnd) : ChannelEnd :=
  { channel with
    stage := .idle
    response := channel.response || channel.kind = .webSocket }

end MessageSession

open MessageSession

def messageStep (session : MessageSession Message) :
    MessageAction Message → Option (MessageSession Message)
  | .openConnection kind => some { session with ends := session.ends ++ [openEnd kind] }
  | .createSession index =>
      session.ends[index]?.bind fun channel =>
        if channel.stage = .idle ∧ session.created = false then
          some (setEnd { session with created := true } index { channel with stage := .creating })
        else none
  | .getNewSession index =>
      session.ends[index]?.bind fun channel =>
        if channel.stage = .creating then
          some (session.setEnd index
            (if channel.kind = .longPolling then { channel with stage := .idle }
            else { channel with stage := .created, session := true }))
        else none
  | .acquireSession index =>
      session.ends[index]?.bind fun channel =>
        if channel.stage = .idle ∧ session.created then
          some (session.setEnd index { channel with stage := .acquired, session := true })
        else none
  | .setUpResponse index =>
      session.ends[index]?.bind fun channel =>
        if channel.stage = .created ∨ channel.stage = .acquired then
          some (session.setEnd index (MessageSession.setUpResponse channel))
        else none
  | .checkPending index returned =>
      session.ends[index]?.bind fun channel =>
        if channel.stage = .connected then
          some (session.handleMessagesAvailable index (finishAttach channel) returned)
        else none
  | .sendMessageToClient message =>
      if session.created then some (session.sendMessageToClient message) else none
  | .handlerIsReadyForDispatch handler =>
      if session.created then some (session.handlerIsReadyForDispatch handler) else none
  | .updateCheckTimerTimeout =>
      if session.updateCheckTimer then some session.updateCheckTimerTimeout else none
  | .handleMessagesAvailable index returned =>
      session.ends[index]?.bind fun channel =>
        if channel.stage = .idle ∧ 0 < channel.deliveries then
          some (session.handleMessagesAvailable index
            { channel with deliveries := channel.deliveries - 1 } returned)
        else none
  | .releaseSession index =>
      session.ends[index]?.map fun channel => session.setEnd index { channel with session := false }
  | .closeResponse index =>
      session.ends[index]?.map fun channel =>
        session.setEnd index { channel with response := false }
  | .destroy index =>
      session.ends[index]?.bind fun channel =>
        if channel.stage = .idle then
          some (session.setEnd index (openEnd channel.kind))
        else none

/-- What each action finds and does: one handler changes, or takes messages, or the session
does on its own. -/
inductive MessageMove (session : MessageSession Message) :
    MessageAction Message → MessageSession Message → Prop where
  | opened (kind : ChannelKind) :
      MessageMove session (.openConnection kind)
        { session with ends := session.ends ++ [openEnd kind] }
  | creating {index : Nat} {channel : ChannelEnd} (found : session.ends[index]? = some channel)
      (idle : channel.stage = .idle) (unborn : session.created = false) :
      MessageMove session (.createSession index)
        (setEnd { session with created := true } index { channel with stage := .creating })
  | created {index : Nat} {channel changed : ChannelEnd}
      (found : session.ends[index]? = some channel) (creating : channel.stage = .creating)
      (changes : changed = if channel.kind = .longPolling then { channel with stage := .idle }
        else { channel with stage := .created, session := true }) :
      MessageMove session (.getNewSession index) (session.setEnd index changed)
  | acquired {index : Nat} {channel : ChannelEnd} (found : session.ends[index]? = some channel)
      (idle : channel.stage = .idle) (born : session.created = true) :
      MessageMove session (.acquireSession index)
        (session.setEnd index { channel with stage := .acquired, session := true })
  | setUp {index : Nat} {channel : ChannelEnd} (found : session.ends[index]? = some channel)
      (begun : channel.stage = .created ∨ channel.stage = .acquired) :
      MessageMove session (.setUpResponse index)
        (session.setEnd index (MessageSession.setUpResponse channel))
  | checked {index : Nat} {channel : ChannelEnd} (returned : Nat → List Message)
      (found : session.ends[index]? = some channel) (connected : channel.stage = .connected) :
      MessageMove session (.checkPending index returned)
        (session.handleMessagesAvailable index (finishAttach channel) returned)
  | sent (message : Message) (born : session.created = true) :
      MessageMove session (.sendMessageToClient message) (session.sendMessageToClient message)
  | ready (handler : Nat) (born : session.created = true) :
      MessageMove session (.handlerIsReadyForDispatch handler)
        (session.handlerIsReadyForDispatch handler)
  | ticked (active : session.updateCheckTimer = true) :
      MessageMove session .updateCheckTimerTimeout session.updateCheckTimerTimeout
  | delivered {index : Nat} {channel : ChannelEnd} (returned : Nat → List Message)
      (found : session.ends[index]? = some channel) (idle : channel.stage = .idle)
      (queued : 0 < channel.deliveries) :
      MessageMove session (.handleMessagesAvailable index returned)
        (session.handleMessagesAvailable index
          { channel with deliveries := channel.deliveries - 1 } returned)
  | released {index : Nat} {channel : ChannelEnd} (found : session.ends[index]? = some channel) :
      MessageMove session (.releaseSession index)
        (session.setEnd index { channel with session := false })
  | closed {index : Nat} {channel : ChannelEnd} (found : session.ends[index]? = some channel) :
      MessageMove session (.closeResponse index)
        (session.setEnd index { channel with response := false })
  | destroyed {index : Nat} {channel : ChannelEnd} (found : session.ends[index]? = some channel)
      (idle : channel.stage = .idle) :
      MessageMove session (.destroy index) (session.setEnd index (openEnd channel.kind))

theorem message_move {session after : MessageSession Message} {action : MessageAction Message}
    (taken : messageStep session action = some after) : MessageMove session action after := by
  cases action with
  | openConnection kind =>
      cases taken
      exact .opened kind
  | createSession index =>
      simp only [messageStep, Option.bind_eq_some_iff, Option.ite_none_right_eq_some] at taken
      obtain ⟨channel, found, enabled, same⟩ := taken
      cases same
      exact .creating found enabled.1 enabled.2
  | getNewSession index =>
      simp only [messageStep, Option.bind_eq_some_iff, Option.ite_none_right_eq_some] at taken
      obtain ⟨channel, found, creating, same⟩ := taken
      cases same
      exact .created found creating rfl
  | acquireSession index =>
      simp only [messageStep, Option.bind_eq_some_iff, Option.ite_none_right_eq_some] at taken
      obtain ⟨channel, found, enabled, same⟩ := taken
      cases same
      exact .acquired found enabled.1 enabled.2
  | setUpResponse index =>
      simp only [messageStep, Option.bind_eq_some_iff, Option.ite_none_right_eq_some] at taken
      obtain ⟨channel, found, begun, same⟩ := taken
      cases same
      exact .setUp found begun
  | checkPending index returned =>
      simp only [messageStep, Option.bind_eq_some_iff, Option.ite_none_right_eq_some] at taken
      obtain ⟨channel, found, connected, same⟩ := taken
      cases same
      exact .checked returned found connected
  | sendMessageToClient message =>
      simp only [messageStep, Option.ite_none_right_eq_some] at taken
      obtain ⟨born, same⟩ := taken
      cases same
      exact .sent message born
  | handlerIsReadyForDispatch handler =>
      simp only [messageStep, Option.ite_none_right_eq_some] at taken
      obtain ⟨born, same⟩ := taken
      cases same
      exact .ready handler born
  | updateCheckTimerTimeout =>
      simp only [messageStep, Option.ite_none_right_eq_some] at taken
      obtain ⟨active, same⟩ := taken
      cases same
      exact .ticked active
  | handleMessagesAvailable index returned =>
      simp only [messageStep, Option.bind_eq_some_iff, Option.ite_none_right_eq_some] at taken
      obtain ⟨channel, found, enabled, same⟩ := taken
      cases same
      exact .delivered returned found enabled.1 enabled.2
  | releaseSession index =>
      simp only [messageStep, Option.map_eq_some_iff] at taken
      obtain ⟨channel, found, same⟩ := taken
      exact same ▸ .released found
  | closeResponse index =>
      simp only [messageStep, Option.map_eq_some_iff] at taken
      obtain ⟨channel, found, same⟩ := taken
      exact same ▸ .closed found
  | destroy index =>
      simp only [messageStep, Option.bind_eq_some_iff, Option.ite_none_right_eq_some] at taken
      obtain ⟨channel, found, idle, same⟩ := taken
      cases same
      exact .destroyed found idle

/-- The handler has finished attaching, holds the session and has an open response. -/
def Attached (channel : ChannelEnd) : Prop :=
  channel.stage = .idle ∧ channel.session = true ∧ channel.response = true

/-- Something will still tell an attached handler of the pending messages. -/
def Awaited (session : MessageSession Message) (channel : ChannelEnd) : Prop :=
  Attached channel → session.pendingMessagesAvailable = true →
    session.updateCheckTimer = true ∨ 0 < channel.deliveries

def NoneStranded (session : MessageSession Message) : Prop :=
  ∀ channel ∈ session.ends, Awaited session channel

/-- What the stages of a handler say about its connection to the session. -/
structure EndKept (channel : ChannelEnd) : Prop where
  fresh : channel.stage = .creating ∨ channel.stage = .created →
    channel.connected = false ∧ channel.deliveries = 0
  creating : channel.stage = .creating → channel.session = false
  joined : channel.stage = .idle ∨ channel.stage = .connected →
    channel.session = true → channel.connected = true

structure EndsKept (session : MessageSession Message) : Prop where
  ends : ∀ channel ∈ session.ends, EndKept channel
  unborn : session.created = false → ∀ channel ∈ session.ends, channel = openEnd channel.kind

theorem open_end_kept (kind : ChannelKind) : EndKept (openEnd kind) := by
  constructor <;> simp [openEnd]

theorem ends_kept_set {session : MessageSession Message} (kept : EndsKept session)
    {index : Nat} {channel : ChannelEnd} (good : EndKept channel)
    (unborn : session.created = false → channel = openEnd channel.kind) :
    EndsKept (session.setEnd index channel) where
  ends := by
    intro other member
    rcases List.mem_or_eq_of_mem_set member with member | rfl
    · exact kept.ends other member
    · exact good
  unborn := by
    intro before other member
    rcases List.mem_or_eq_of_mem_set member with member | rfl
    · exact kept.unborn before other member
    · exact unborn before

theorem born {session : MessageSession Message} (kept : EndsKept session) {index : Nat}
    {channel : ChannelEnd} (found : session.ends[index]? = some channel)
    (begun : channel.stage ≠ .idle ∨ 0 < channel.deliveries) : session.created = true := by
  by_contra before
  have same := kept.unborn (Bool.eq_false_iff.mpr before) channel (List.mem_of_getElem? found)
  rw [same] at begun
  simp [openEnd] at begun

theorem after_messages_kept {channel : ChannelEnd} (good : EndKept channel)
    (messages : List Message) : EndKept (afterMessages channel messages) := by
  unfold afterMessages
  split
  · split_ifs
    · exact good
    · constructor
      · exact good.fresh
      · intro _
        rfl
      · intro _ held
        cases held
  · exact good
  · exact good

theorem notified_kept {channel : ChannelEnd} (good : EndKept channel) :
    EndKept (notified channel) := by
  unfold notified
  split_ifs with connected
  · constructor
    · intro stage
      have unconnected := (good.fresh stage).1
      rw [connected] at unconnected
      cases unconnected
    · exact good.creating
    · exact good.joined
  · exact good

theorem ends_kept_handle {session : MessageSession Message} (kept : EndsKept session)
    (created : session.created = true) {index : Nat} {channel : ChannelEnd}
    (good : EndKept channel) (returned : Nat → List Message) :
    EndsKept (session.handleMessagesAvailable index channel returned) := by
  unfold MessageSession.handleMessagesAvailable
  split_ifs
  · constructor
    · intro other member
      rcases List.mem_or_eq_of_mem_set member with member | rfl
      · exact kept.ends other member
      · exact after_messages_kept good _
    · intro before
      exact absurd (created.symm.trans before) (by decide)
  · apply ends_kept_set kept good
    intro before
    exact absurd (created.symm.trans before) (by decide)

theorem ready_ends {session : MessageSession Message} (handler : Nat) :
    (session.handlerIsReadyForDispatch handler).ends = session.ends ∧
      (session.handlerIsReadyForDispatch handler).created = session.created := by
  unfold MessageSession.handlerIsReadyForDispatch
  split_ifs <;> exact ⟨rfl, rfl⟩

theorem ends_kept_tick {session : MessageSession Message} (kept : EndsKept session) :
    EndsKept session.updateCheckTimerTimeout := by
  unfold MessageSession.updateCheckTimerTimeout
  dsimp only
  split_ifs
  · constructor
    · intro channel member
      obtain ⟨before, was, rfl⟩ := List.mem_map.mp member
      exact notified_kept (kept.ends before was)
    · intro unborn channel member
      obtain ⟨before, was, rfl⟩ := List.mem_map.mp member
      rw [kept.unborn unborn before was]
      rfl
  · exact ⟨kept.ends, kept.unborn⟩

theorem ends_kept_open {session : MessageSession Message} (kept : EndsKept session)
    (kind : ChannelKind) :
    EndsKept { session with ends := session.ends ++ [openEnd kind] } where
  ends := by
    intro channel member
    rcases List.mem_append.mp member with member | member
    · exact kept.ends channel member
    · rw [List.mem_singleton.mp member]
      exact open_end_kept kind
  unborn := by
    intro before channel member
    rcases List.mem_append.mp member with member | member
    · exact kept.unborn before channel member
    · rw [List.mem_singleton.mp member]
      rfl

theorem ends_kept_create {session : MessageSession Message} (kept : EndsKept session)
    {index : Nat} {channel : ChannelEnd} (found : session.ends[index]? = some channel)
    (unborn : session.created = false) :
    EndsKept (setEnd { session with created := true } index { channel with stage := .creating }) where
  ends := by
    intro other member
    rcases List.mem_or_eq_of_mem_set member with member | rfl
    · exact kept.ends other member
    · rw [kept.unborn unborn channel (List.mem_of_getElem? found)]
      constructor <;> simp [openEnd]
  unborn := by
    intro before
    cases before

theorem set_up_kept (channel : ChannelEnd) : EndKept (MessageSession.setUpResponse channel) := by
  unfold MessageSession.setUpResponse
  constructor
  · intro stage
    split_ifs at stage <;> simp at stage
  · intro stage
    split_ifs at stage
  · intro _ held
    simp only at held
    simp [held]

theorem ends_kept_step {session after : MessageSession Message} {action : MessageAction Message}
    (kept : EndsKept session) (taken : messageStep session action = some after) :
    EndsKept after := by
  have later : session.created = true → ∀ channel : ChannelEnd, session.created = false →
      channel = openEnd channel.kind := by
    intro created channel before
    rw [created] at before
    cases before
  cases message_move taken with
  | opened kind => exact ends_kept_open kept kind
  | creating found idle unborn => exact ends_kept_create kept found unborn
  | @created _ channel changed found creating changes =>
      have good := kept.ends channel (List.mem_of_getElem? found)
      have session_born := born kept found (Or.inl (by simp [creating]))
      apply ends_kept_set kept _ (later session_born changed)
      rw [changes]
      split_ifs <;> constructor <;>
        simp [good.creating creating, good.fresh (Or.inl creating)]
  | acquired found idle session_born =>
      apply ends_kept_set kept _ (later session_born _)
      constructor <;> simp
  | setUp found begun =>
      have session_born := born kept found
        (Or.inl (by rcases begun with stage | stage <;> simp [stage]))
      exact ends_kept_set kept (set_up_kept _) (later session_born _)
  | @checked _ channel returned found connected =>
      have good := kept.ends channel (List.mem_of_getElem? found)
      apply ends_kept_handle kept (born kept found (Or.inl (by simp [connected])))
      unfold finishAttach
      constructor
      · simp
      · simp
      · intro _ held
        exact good.joined (Or.inr connected) held
  | sent message session_born => exact ⟨kept.ends, kept.unborn⟩
  | ready handler session_born =>
      have same := @ready_ends _ session handler
      constructor
      · rw [same.1]
        exact kept.ends
      · rw [same.1, same.2]
        exact kept.unborn
  | ticked active => exact ends_kept_tick kept
  | @delivered _ channel returned found idle queued =>
      have good := kept.ends channel (List.mem_of_getElem? found)
      apply ends_kept_handle kept (born kept found (Or.inr queued))
      constructor
      · simp [idle]
      · simp [idle]
      · exact good.joined
  | @released _ channel found =>
      have good := kept.ends channel (List.mem_of_getElem? found)
      apply ends_kept_set kept
      · constructor
        · exact good.fresh
        · intro _
          rfl
        · intro _ held
          cases held
      · intro before
        rw [kept.unborn before channel (List.mem_of_getElem? found)]
        rfl
  | @closed _ channel found =>
      have good := kept.ends channel (List.mem_of_getElem? found)
      apply ends_kept_set kept
      · exact ⟨good.fresh, good.creating, good.joined⟩
      · intro before
        rw [kept.unborn before channel (List.mem_of_getElem? found)]
        rfl
  | destroyed found idle => exact ends_kept_set kept (open_end_kept _) fun _ => rfl

/-- Where the signals are connected for a new event stream, no message is pending or the
timer is still to fire. -/
def NothingMissed (session : MessageSession Message) (action : MessageAction Message)
    (_after : MessageSession Message) : Prop :=
  ∀ index, action = .setUpResponse index → ∀ channel, session.ends[index]? = some channel →
    channel.kind = .sse → channel.stage = .created → channel.session = true →
      session.pendingMessagesAvailable = true → session.updateCheckTimer = true

theorem none_stranded_set {session : MessageSession Message} (none : NoneStranded session)
    {index : Nat} {channel : ChannelEnd} (awaited : Awaited session channel) :
    NoneStranded (session.setEnd index channel) := by
  intro other member
  rcases List.mem_or_eq_of_mem_set member with member | rfl
  · exact none other member
  · exact awaited

theorem none_stranded_active {session : MessageSession Message}
    (active : session.updateCheckTimer = true) : NoneStranded session := by
  intro channel _ _ _
  exact Or.inl active

/-- Once a handler has taken the messages none is pending; where it takes none, it is not
attached or none was pending. -/
theorem none_stranded_handle {session : MessageSession Message} (none : NoneStranded session)
    {index : Nat} {channel : ChannelEnd} (returned : Nat → List Message) :
    NoneStranded (session.handleMessagesAvailable index channel returned) := by
  unfold MessageSession.handleMessagesAvailable
  split_ifs with takes
  · intro other _ _ pending
    cases pending
  · apply none_stranded_set none
    rintro ⟨_, held, open_⟩ pending
    simp [mayTake, held, open_, pending] at takes

theorem none_stranded_tick {session : MessageSession Message} (kept : EndsKept session) :
    NoneStranded session.updateCheckTimerTimeout := by
  unfold MessageSession.updateCheckTimerTimeout
  dsimp only
  split_ifs with pending
  · rintro channel member ⟨idle, held, _⟩ _
    obtain ⟨before, was, rfl⟩ := List.mem_map.mp member
    have good := kept.ends before was
    unfold notified at idle held ⊢
    split_ifs at idle held ⊢ with connected
    · exact Or.inr (Nat.succ_pos _)
    · exact absurd (good.joined (Or.inl idle) held) connected
  · intro channel _ _ available
    exact absurd available pending

/-- Setting up a response strands a message only for a new event stream, too late. -/
theorem none_stranded_set_up {session : MessageSession Message} (kept : EndsKept session)
    (none : NoneStranded session) {index : Nat} {channel : ChannelEnd}
    (found : session.ends[index]? = some channel) {after : MessageSession Message} :
    NoneStranded (session.setEnd index (MessageSession.setUpResponse channel)) ↔
      NothingMissed session (.setUpResponse index) after := by
  have inside := (List.getElem?_eq_some_iff.mp found).1
  have good := kept.ends channel (List.mem_of_getElem? found)
  constructor
  · intro stranded _ same other here sse created held pending
    cases same
    rw [found, Option.some.injEq] at here
    subst here
    have member : MessageSession.setUpResponse channel ∈
        (session.setEnd index (MessageSession.setUpResponse channel)).ends :=
      List.mem_set inside _
    have attached : Attached (MessageSession.setUpResponse channel) := by
      simp [Attached, MessageSession.setUpResponse, sse, created, held]
    rcases stranded _ member attached pending with active | queued
    · exact active
    · have fresh := (good.fresh (Or.inr created)).2
      simp [MessageSession.setUpResponse, fresh] at queued
  · intro missed
    apply none_stranded_set none
    rintro ⟨idle, held, _⟩ pending
    have streamed : channel.kind = .sse ∧ channel.stage = .created := by
      by_contra other
      simp [MessageSession.setUpResponse, other] at idle
    exact Or.inl (missed index rfl channel found streamed.1 streamed.2 held pending)

theorem none_stranded_open {session : MessageSession Message} (none : NoneStranded session)
    (kind : ChannelKind) : NoneStranded { session with ends := session.ends ++ [openEnd kind] } := by
  intro channel member
  rcases List.mem_append.mp member with member | member
  · exact none channel member
  · rw [List.mem_singleton.mp member]
    rintro ⟨_, held, _⟩
    cases held

/-- A step strands a message only where it completes a new event stream too late. -/
theorem none_stranded_step {session after : MessageSession Message}
    {action : MessageAction Message} (kept : EndsKept session) (none : NoneStranded session)
    (taken : messageStep session action = some after) :
    NoneStranded after ↔ NothingMissed session action after := by
  cases message_move taken with
  | setUp found begun => exact none_stranded_set_up kept none found
  | opened kind => exact iff_of_true (none_stranded_open none kind) (by simp [NothingMissed])
  | creating found idle unborn =>
      apply iff_of_true _ (by simp [NothingMissed])
      intro other member
      rcases List.mem_or_eq_of_mem_set member with member | rfl
      · exact none other member
      · rintro ⟨idle, _⟩
        cases idle
  | @created _ channel changed found creating changes =>
      have good := kept.ends channel (List.mem_of_getElem? found)
      apply iff_of_true (none_stranded_set none _) (by simp [NothingMissed])
      rw [changes]
      split_ifs
      · rintro ⟨_, held, _⟩
        exact absurd (held.symm.trans (good.creating creating)) (by decide)
      · rintro ⟨idle, _⟩
        cases idle
  | acquired found idle session_born =>
      apply iff_of_true (none_stranded_set none _) (by simp [NothingMissed])
      rintro ⟨idle, _⟩
      cases idle
  | checked returned found connected =>
      exact iff_of_true (none_stranded_handle none returned) (by simp [NothingMissed])
  | sent message session_born =>
      exact iff_of_true (none_stranded_active rfl) (by simp [NothingMissed])
  | ready handler session_born =>
      exact iff_of_true (none_stranded_active rfl) (by simp [NothingMissed])
  | ticked active => exact iff_of_true (none_stranded_tick kept) (by simp [NothingMissed])
  | delivered returned found idle queued =>
      exact iff_of_true (none_stranded_handle none returned) (by simp [NothingMissed])
  | released found =>
      apply iff_of_true (none_stranded_set none _) (by simp [NothingMissed])
      rintro ⟨_, held, _⟩
      cases held
  | closed found =>
      apply iff_of_true (none_stranded_set none _) (by simp [NothingMissed])
      rintro ⟨_, _, closed⟩
      cases closed
  | destroyed found idle =>
      apply iff_of_true (none_stranded_set none _) (by simp [NothingMissed])
      rintro ⟨_, held, _⟩
      cases held

def Delivering (_session : MessageSession Message) (_action : MessageAction Message)
    (after : MessageSession Message) : Prop :=
  NoneStranded after

/-- A state between two steps in which no message is stranded. -/
structure Flowing (session : MessageSession Message) : Prop where
  kept : EndsKept session
  none : NoneStranded session

/-- In every run, no pending message is ever stranded exactly if no event stream for a new
session is connected after the timer has fired on a pending message. -/
theorem messages_not_stranded (actions : List (MessageAction Message)) :
    Along messageStep Delivering start actions ↔ Along messageStep NothingMissed start actions := by
  have preserved : ∀ (session : MessageSession Message) action after, Flowing session →
      messageStep session action = some after → Delivering session action after →
      Flowing after := by
    intro session action after flowing taken delivering
    exact ⟨ends_kept_step flowing.kept taken, delivering⟩
  apply along_congr_while preserved
  · intro session action after flowing taken
    exact none_stranded_step flowing.kept flowing.none taken
  · constructor
    · constructor
      · intro channel member
        cases member
      · intro _ channel member
        cases member
    · intro channel member
      cases member

/-- The session sends a message while it is being created, and its timer fires before the
event stream is set up. -/
def sentWhileCreated : List (MessageAction String) :=
  [.openConnection .sse, .createSession 0, .sendMessageToClient "m", .updateCheckTimerTimeout,
    .getNewSession 0]

/-- Nothing tells the stream of the message. -/
theorem sent_while_created_stranded :
    ¬ ∀ actions : List (MessageAction String), Along messageStep Delivering start actions := by
  intro delivering
  have along := delivering (sentWhileCreated ++ [.setUpResponse 0])
  obtain ⟨middle, executed⟩ : ∃ middle,
      execute messageStep start sentWhileCreated = some middle :=
    Option.isSome_iff_exists.mp (by decide +kernel)
  have stranded : ((execute messageStep start sentWhileCreated).bind fun session =>
      messageStep session (.setUpResponse 0)).map (fun session =>
        (session.ends, session.updateCheckTimer, session.pendingMessagesAvailable)) =
      some ([⟨.sse, .idle, true, true, true, 0⟩], false, true) := by
    decide +kernel
  simp only [executed, Option.bind_some, Option.map_eq_some_iff, Prod.mk.injEq] at stranded
  obtain ⟨last, taken, ends, inactive, pending⟩ := stranded
  have none := along.last executed taken ⟨.sse, .idle, true, true, true, 0⟩ (by simp [ends])
    ⟨rfl, rfl, rfl⟩ pending
  rcases none with active | queued
  · rw [inactive] at active
    cases active
  · cases queued

end Viridity.PendingMessages
