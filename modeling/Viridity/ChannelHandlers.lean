import Viridity.SessionHoldings

/-!
# The handlers of the message channels

Long polling, server-sent events and WebSocket connections of any number of clients over
one session manager. A call of a handler is cut where another thread can come between:
after it looked the session up, after it read the use count, after it acquired. The
handlers run in threads other than those of the sessions, so that every change of a use
count is posted.
-/

namespace Viridity.ChannelHandlers

open Viridity.LabelledRuns
open Viridity.SessionUse
open Viridity.SessionExpiry
open Viridity.SessionExpiry.SessionManager hiding start
open Viridity.SessionHoldings

set_option autoImplicit false

inductive ChannelKind where
  | longPolling
  | sse
  | webSocket
deriving DecidableEq

/-- Where a call of `doHandleRequest` or `handleUpgrade` stands. `testing` and `releasing`
are the event loops of `testForInteractivity` and `requestReleaseAndWait`. -/
inductive Call where
  | looked (id : String) (object : Nat)
  | testing (id : String) (object : Nat)
  | releasing (id : String) (object : Nat)
  | tested (id : String) (object : Nat)
  | free (id : String) (object : Nat)
  | taken (object : Nat)
  | polling (id : String)
  | missing
  | creating (object : Nat)
  | temporary (use : Use)
deriving DecidableEq

def Call.holds : Call → List Use
  | .temporary use => [use]
  | _ => []

inductive Answer where
  | info (object : Nat)
  | reattached (object : Nat)
  | inuse (object : Nat)
deriving DecidableEq

/-- `session` is `session_`; `connected` are the sessions whose `destroyed` signal reaches
the handler. A call may start within the event loop of another, so that the calls form
a stack. -/
structure ChannelHandler where
  kind : ChannelKind
  alive : Bool
  upgraded : Bool
  session : Option Use
  response : Bool
  connected : List Nat
  calls : List Call
  answers : List Answer
deriving DecidableEq

namespace ChannelHandler

def create (kind : ChannelKind) : ChannelHandler where
  kind := kind
  alive := true
  upgraded := false
  session := none
  response := false
  connected := []
  calls := []
  answers := []

def inEventLoop (handler : ChannelHandler) : Bool :=
  match handler.calls with
  | [] => true
  | .testing _ _ :: _ | .releasing _ _ :: _ => true
  | _ => false

/-- After the upgrade the socket carries no further requests. -/
def acceptsRequest (handler : ChannelHandler) : Bool :=
  handler.inEventLoop && !(handler.kind = .webSocket && handler.upgraded)

def enter (handler : ChannelHandler) (call : Call) : ChannelHandler :=
  { handler with upgraded := true, calls := call :: handler.calls }

def proceed (handler : ChannelHandler) (rest : List Call) : ChannelHandler :=
  { handler with calls := rest }

def answer (handler : ChannelHandler) (answer : Answer) : ChannelHandler :=
  { handler with answers := handler.answers ++ [answer] }

/-- `session_` is set, the response or the socket is kept and the signals are connected. -/
def attach (handler : ChannelHandler) (use : Use) : ChannelHandler :=
  { handler with
    session := some use
    response := true
    connected := use.object :: handler.connected }

/-- The handler writes `inuse`; that of server-sent events first sets `session_` to null
and ends its response. -/
def refuse (handler : ChannelHandler) (object : Nat) : ChannelHandler :=
  match handler.kind with
  | .sse => answer { handler with session := none, response := false } (.inuse object)
  | .longPolling | .webSocket => handler.answer (.inuse object)

/-- `handleSessionDestroyed`, which does not look at which session it was. -/
def sessionDestroyed (object : Nat) (handler : ChannelHandler) : ChannelHandler :=
  if object ∈ handler.connected then
    { handler with
      session := none
      connected := handler.connected.filter fun other => other ≠ object }
  else handler

/-- The acquisitions the handler has to give back: its `session_` and what its running
calls hold. -/
def uses (handler : ChannelHandler) : List Use :=
  handler.session.toList ++ handler.calls.flatMap Call.holds

end ChannelHandler

open ChannelHandler

inductive HandlerAction where
  | request (id : String) (poll : Bool)
  | testForInteractivity
  | requestReleaseAndWait
  | leaveTest
  | checkUseCount
  | acquire
  | answerInUse
  | createSession (id : String) (lockFree : Bool)
  | insertSession
  | releaseTemporary
  | messagesAvailable
  | interactionDormant
  | releaseRequired
  | responseFinished
  | socketDisconnected
  | destroy
deriving DecidableEq

/-- A pointer that is null or dangles is not followed any further. -/
def acquire (manager : SessionManager) (id : String) : Option (SessionManager × Use) :=
  match manager.acquireSession id with
  | (after, some object) =>
      if (after.objects object).isSome then some (after, useOf after object) else none
  | (_, none) => none

def getNewSession (manager : SessionManager) (object : Nat) : Option (SessionManager × Use) :=
  (managerStep manager (.insertSession object)).map fun after => (after, useOf after object)

/-- `releaseSession` of the handler: gives back `session_` if it is set. -/
def releaseSession (manager : SessionManager) (handler : ChannelHandler) :
    Option (SessionManager × ChannelHandler) :=
  match handler.session with
  | none => some (manager, handler)
  | some use =>
      (managerStep manager (.releaseSession use.object)).map fun after =>
        (after, { handler with session := none })

/-- `lastUsed() > 1.5 * interactionCheckInterval()`. -/
def stale (manager : SessionManager) (object : Nat) : Bool :=
  match manager.objects object with
  | none => false
  | some found =>
      decide (3 * manager.sessionTimeout < 2 * (found.session.elapsed manager.now : Int))

/-- What a handler does with the session it was given: a long poll without `?a=init`, a
WebSocket and an event stream keep it, the other long polls give it back at once. -/
def keep (handler : ChannelHandler) (use : Use) (rest : List Call) : ChannelHandler :=
  match handler.kind with
  | .longPolling => handler.proceed (.temporary use :: rest)
  | .sse | .webSocket => (handler.proceed rest).attach use

/-- One step of a handler. The signals may come from any session the handler has served,
and from calls it posted to itself. -/
def handlerStep (manager : SessionManager) (handler : ChannelHandler) :
    HandlerAction → Option (SessionManager × ChannelHandler)
  | .request id poll =>
      if handler.acceptsRequest then
        match manager.getSession id with
        | (looked, some object) =>
            match handler.kind, poll with
            | .longPolling, true => some (looked, handler.enter (.polling id))
            | .webSocket, _ => some (looked, handler.enter (.tested id object))
            | _, _ => some (looked, handler.enter (.looked id object))
        | (looked, none) => some (looked, handler.enter .missing)
      else none
  | .testForInteractivity =>
      match handler.calls with
      | .looked id object :: rest =>
          (manager.objects object).bind fun found =>
            (managerStep manager (.testForInteractivity object)).map fun after =>
              if 0 < found.session.useCount then
                (after, handler.proceed (.testing id object :: rest))
              else (after, handler.proceed (.tested id object :: rest))
      | _ => none
  | .requestReleaseAndWait =>
      match handler.calls with
      | .testing id object :: rest =>
          (manager.objects object).bind fun found =>
            (managerStep manager (.requestReleaseAndWait object)).map fun after =>
              if 0 < found.session.useCount then
                (after, handler.proceed (.releasing id object :: rest))
              else (after, handler)
      | _ => none
  | .leaveTest =>
      match handler.calls with
      | .releasing id object :: rest =>
          (managerStep manager (.leaveTest object)).map fun after =>
            (after, handler.proceed (.testing id object :: rest))
      | .testing id object :: rest =>
          (managerStep manager (.leaveTest object)).map fun after =>
            (after, handler.proceed (.tested id object :: rest))
      | _ => none
  | .checkUseCount =>
      match handler.calls with
      | .tested id object :: rest =>
          (manager.objects object).map fun found =>
            if found.session.useCount = 0 then
              (manager, handler.proceed (.free id object :: rest))
            else (manager, handler.proceed (.taken object :: rest))
      | _ => none
  | .acquire =>
      match handler.calls with
      | .free id _ :: rest =>
          (acquire manager id).map fun (after, use) =>
            (after, (keep handler use rest).answer (.reattached use.object))
      | .polling id :: rest =>
          (acquire manager id).map fun (after, use) =>
            (after, (handler.proceed rest).attach use)
      | _ => none
  | .answerInUse =>
      match handler.calls with
      | .taken object :: rest => some (manager, (handler.proceed rest).refuse object)
      | _ => none
  | .createSession id lockFree =>
      match handler.calls with
      | .missing :: rest =>
          some (manager.createSession id lockFree,
            handler.proceed (.creating (manager.killExpiredSessions lockFree).nextObject :: rest))
      | _ => none
  | .insertSession =>
      match handler.calls with
      | .creating object :: rest =>
          (getNewSession manager object).map fun (after, use) =>
            (after, (keep handler use rest).answer (.info use.object))
      | _ => none
  | .releaseTemporary =>
      match handler.calls with
      | .temporary use :: rest =>
          (managerStep manager (.releaseSession use.object)).map fun after =>
            (after, handler.proceed rest)
      | _ => none
  | .messagesAvailable =>
      if handler.inEventLoop ∧ handler.kind = .longPolling ∧ handler.response then
        (releaseSession manager handler).map fun (after, released) =>
          if handler.session.isSome then (after, { released with response := false })
          else (after, released)
      else none
  | .interactionDormant =>
      if handler.inEventLoop ∧ handler.response then
        match handler.kind, handler.session with
        | .longPolling, _ =>
            (releaseSession manager handler).map fun (after, released) =>
              (after, { released with response := false })
        | .sse, some use =>
            if stale manager use.object then releaseSession manager handler
            else some (manager, handler)
        | _, _ => some (manager, handler)
      else none
  | .releaseRequired =>
      if handler.inEventLoop ∧ handler.kind ≠ .webSocket then releaseSession manager handler
      else none
  | .responseFinished =>
      if handler.kind = .sse then some (manager, { handler with response := false }) else none
  | .socketDisconnected =>
      if handler.kind ≠ .longPolling then some (manager, { handler with response := false })
      else none
  | .destroy =>
      if handler.calls = [] then
        (releaseSession manager handler).map fun (after, released) =>
          (after, { released with alive := false })
      else none

/-- What each step of a handler finds and does: a call enters, goes on or returns, or a
signal releases the session. -/
inductive HandlerMove (manager : SessionManager) (handler : ChannelHandler) :
    HandlerAction → SessionManager → ChannelHandler → Prop where
  | missing {id : String} {poll : Bool} {after : SessionManager}
      (looked : manager.getSession id = (after, none)) :
      HandlerMove manager handler (.request id poll) after (handler.enter .missing)
  | found {id : String} {poll : Bool} {after : SessionManager} {object : Nat} {call : Call}
      (looked : manager.getSession id = (after, some object))
      (enters : (call = .polling id ∧ handler.kind = .longPolling) ∨ call = .tested id object ∨
        call = .looked id object) :
      HandlerMove manager handler (.request id poll) after (handler.enter call)
  | tests {id : String} {object : Nat} {rest : List Call} {found : SessionObject}
      {after : SessionManager} {call : Call} (calls : handler.calls = .looked id object :: rest)
      (held : manager.objects object = some found)
      (stepped : managerStep manager (.testForInteractivity object) = some after)
      (goesOn : call = if 0 < found.session.useCount then .testing id object
        else .tested id object) :
      HandlerMove manager handler .testForInteractivity after (handler.proceed (call :: rest))
  | releases {id : String} {object : Nat} {rest : List Call} {found : SessionObject}
      {after : SessionManager} (calls : handler.calls = .testing id object :: rest)
      (held : manager.objects object = some found)
      (stepped : managerStep manager (.requestReleaseAndWait object) = some after)
      (used : 0 < found.session.useCount) :
      HandlerMove manager handler .requestReleaseAndWait after
        (handler.proceed (.releasing id object :: rest))
  | releasesNothing {object : Nat} {after : SessionManager}
      (stepped : managerStep manager (.requestReleaseAndWait object) = some after) :
      HandlerMove manager handler .requestReleaseAndWait after handler
  | leavesRelease {id : String} {object : Nat} {rest : List Call} {after : SessionManager}
      (calls : handler.calls = .releasing id object :: rest)
      (stepped : managerStep manager (.leaveTest object) = some after) :
      HandlerMove manager handler .leaveTest after (handler.proceed (.testing id object :: rest))
  | leavesTest {id : String} {object : Nat} {rest : List Call} {after : SessionManager}
      (calls : handler.calls = .testing id object :: rest)
      (stepped : managerStep manager (.leaveTest object) = some after) :
      HandlerMove manager handler .leaveTest after (handler.proceed (.tested id object :: rest))
  | findsFree {id : String} {object : Nat} {rest : List Call} {found : SessionObject}
      (calls : handler.calls = .tested id object :: rest)
      (held : manager.objects object = some found) (unused : found.session.useCount = 0) :
      HandlerMove manager handler .checkUseCount manager
        (handler.proceed (.free id object :: rest))
  | findsTaken {id : String} {object : Nat} {rest : List Call} {found : SessionObject}
      (calls : handler.calls = .tested id object :: rest)
      (held : manager.objects object = some found) (used : found.session.useCount ≠ 0) :
      HandlerMove manager handler .checkUseCount manager (handler.proceed (.taken object :: rest))
  | reattaches {id : String} {object : Nat} {rest : List Call} {after : SessionManager}
      {use : Use} (calls : handler.calls = .free id object :: rest)
      (acquired : acquire manager id = some (after, use)) :
      HandlerMove manager handler .acquire after
        ((keep handler use rest).answer (.reattached use.object))
  | polls {id : String} {rest : List Call} {after : SessionManager} {use : Use}
      (calls : handler.calls = .polling id :: rest)
      (acquired : acquire manager id = some (after, use)) :
      HandlerMove manager handler .acquire after ((handler.proceed rest).attach use)
  | refuses {object : Nat} {rest : List Call} (calls : handler.calls = .taken object :: rest) :
      HandlerMove manager handler .answerInUse manager ((handler.proceed rest).refuse object)
  | creates {id : String} {lockFree : Bool} {rest : List Call}
      (calls : handler.calls = .missing :: rest) :
      HandlerMove manager handler (.createSession id lockFree) (manager.createSession id lockFree)
        (handler.proceed (.creating (manager.killExpiredSessions lockFree).nextObject :: rest))
  | inserts {object : Nat} {rest : List Call} {after : SessionManager} {use : Use}
      (calls : handler.calls = .creating object :: rest)
      (acquired : getNewSession manager object = some (after, use)) :
      HandlerMove manager handler .insertSession after
        ((keep handler use rest).answer (.info use.object))
  | givesBack {use : Use} {rest : List Call} {after : SessionManager}
      (calls : handler.calls = .temporary use :: rest)
      (given : managerStep manager (.releaseSession use.object) = some after) :
      HandlerMove manager handler .releaseTemporary after (handler.proceed rest)
  | answers {after : SessionManager} {released : ChannelHandler}
      (given : releaseSession manager handler = some (after, released)) :
      HandlerMove manager handler .messagesAvailable after
        { released with response := released.response && !handler.session.isSome }
  | expires {after : SessionManager} {released : ChannelHandler}
      (given : releaseSession manager handler = some (after, released)) :
      HandlerMove manager handler .interactionDormant after { released with response := false }
  | expiresStale {after : SessionManager} {released : ChannelHandler}
      (given : releaseSession manager handler = some (after, released)) :
      HandlerMove manager handler .interactionDormant after released
  | stays : HandlerMove manager handler .interactionDormant manager handler
  | obeys {after : SessionManager} {released : ChannelHandler}
      (given : releaseSession manager handler = some (after, released)) :
      HandlerMove manager handler .releaseRequired after released
  | finishes : HandlerMove manager handler .responseFinished manager
      { handler with response := false }
  | disconnects : HandlerMove manager handler .socketDisconnected manager
      { handler with response := false }
  | ends {after : SessionManager} {released : ChannelHandler} (done : handler.calls = [])
      (given : releaseSession manager handler = some (after, released)) :
      HandlerMove manager handler .destroy after { released with alive := false }

theorem handler_move {manager after : SessionManager} {handler changed : ChannelHandler}
    {action : HandlerAction} (taken : handlerStep manager handler action = some (after, changed)) :
    HandlerMove manager handler action after changed := by
  cases action with
  | request id poll =>
      simp only [handlerStep, Option.ite_none_right_eq_some] at taken
      have entered := taken.2
      split at entered
      · rename_i looked
        split at entered <;> cases entered
        · rename_i kind
          exact .found looked (Or.inl ⟨rfl, kind⟩)
        · exact .found looked (Or.inr (Or.inl rfl))
        · exact .found looked (Or.inr (Or.inr rfl))
      · rename_i looked
        cases entered
        exact .missing looked
  | testForInteractivity =>
      simp only [handlerStep] at taken
      split at taken
      · rename_i calls
        simp only [Option.bind_eq_some_iff, Option.map_eq_some_iff] at taken
        obtain ⟨found, held, following, stepped, result⟩ := taken
        have goesOn := HandlerMove.tests calls held stepped rfl
        split_ifs at result goesOn <;> cases result <;> exact goesOn
      · cases taken
  | requestReleaseAndWait =>
      simp only [handlerStep] at taken
      split at taken
      · rename_i calls
        simp only [Option.bind_eq_some_iff, Option.map_eq_some_iff] at taken
        obtain ⟨found, held, following, stepped, result⟩ := taken
        split_ifs at result with used <;> cases result
        · exact .releases calls held stepped used
        · exact .releasesNothing stepped
      · cases taken
  | leaveTest =>
      simp only [handlerStep] at taken
      split at taken
      · rename_i calls
        simp only [Option.map_eq_some_iff] at taken
        obtain ⟨following, stepped, result⟩ := taken
        cases result
        exact .leavesRelease calls stepped
      · rename_i calls
        simp only [Option.map_eq_some_iff] at taken
        obtain ⟨following, stepped, result⟩ := taken
        cases result
        exact .leavesTest calls stepped
      · cases taken
  | checkUseCount =>
      simp only [handlerStep] at taken
      split at taken
      · rename_i calls
        simp only [Option.map_eq_some_iff] at taken
        obtain ⟨found, held, result⟩ := taken
        split_ifs at result with unused <;> cases result
        · exact .findsFree calls held unused
        · exact .findsTaken calls held unused
      · cases taken
  | acquire =>
      simp only [handlerStep] at taken
      split at taken
      · rename_i calls
        simp only [Option.map_eq_some_iff] at taken
        obtain ⟨⟨following, use⟩, acquired, result⟩ := taken
        cases result
        exact .reattaches calls acquired
      · rename_i calls
        simp only [Option.map_eq_some_iff] at taken
        obtain ⟨⟨following, use⟩, acquired, result⟩ := taken
        cases result
        exact .polls calls acquired
      · cases taken
  | answerInUse =>
      simp only [handlerStep] at taken
      split at taken
      · rename_i calls
        cases taken
        exact .refuses calls
      · cases taken
  | createSession id lockFree =>
      simp only [handlerStep] at taken
      split at taken
      · rename_i calls
        cases taken
        exact .creates calls
      · cases taken
  | insertSession =>
      simp only [handlerStep] at taken
      split at taken
      · rename_i calls
        simp only [Option.map_eq_some_iff] at taken
        obtain ⟨⟨following, use⟩, acquired, result⟩ := taken
        cases result
        exact .inserts calls acquired
      · cases taken
  | releaseTemporary =>
      simp only [handlerStep] at taken
      split at taken
      · rename_i calls
        simp only [Option.map_eq_some_iff] at taken
        obtain ⟨following, given, result⟩ := taken
        cases result
        exact .givesBack calls given
      · cases taken
  | messagesAvailable =>
      simp only [handlerStep, Option.ite_none_right_eq_some, Option.map_eq_some_iff] at taken
      obtain ⟨ready, ⟨following, released⟩, given, result⟩ := taken
      have answered := HandlerMove.answers given
      split_ifs at result with attached <;> cases result
      · simpa [attached] using answered
      · simpa [attached] using answered
  | interactionDormant =>
      simp only [handlerStep, Option.ite_none_right_eq_some] at taken
      have dormant := taken.2
      split at dormant
      · simp only [Option.map_eq_some_iff] at dormant
        obtain ⟨⟨following, released⟩, given, result⟩ := dormant
        cases result
        exact .expires given
      · split_ifs at dormant
        · exact .expiresStale dormant
        · cases dormant
          exact .stays
      · cases dormant
        exact .stays
  | releaseRequired =>
      simp only [handlerStep, Option.ite_none_right_eq_some] at taken
      exact .obeys taken.2
  | responseFinished =>
      simp only [handlerStep, Option.ite_none_right_eq_some] at taken
      cases taken.2
      exact .finishes
  | socketDisconnected =>
      simp only [handlerStep, Option.ite_none_right_eq_some] at taken
      cases taken.2
      exact .disconnects
  | destroy =>
      simp only [handlerStep, Option.ite_none_right_eq_some, Option.map_eq_some_iff] at taken
      obtain ⟨done, ⟨following, released⟩, given, result⟩ := taken
      cases result
      exact .ends done given

/-- `patchRequests` are the acquisitions of patch requests that are being handled;
`identifiers` lists the sessions ever created. -/
structure ChannelSystem where
  manager : SessionManager
  handlers : List ChannelHandler
  patchRequests : List Use
  identifiers : List (String × Nat)

/-- What the threads of the sessions, the timers and the sweep do on their own, and the
lookups of other request handlers. -/
inductive Background where
  | deliverEvent (object : Nat)
  | detachDeferTimerTimeout (object : Nat)
  | interactionCheckTimerTimeout (object : Nat)
  | getSession (id : String)
  | dispatchMessageToHandlers (id : String)
  | elapse (milliseconds : Nat)
  | killExpiredSessions (lockFree : Bool)
deriving DecidableEq

def Background.action : Background → ManagerAction
  | .deliverEvent object => .deliverEvent object
  | .detachDeferTimerTimeout object => .detachDeferTimerTimeout object
  | .interactionCheckTimerTimeout object => .interactionCheckTimerTimeout object
  | .getSession id => .getSession id
  | .dispatchMessageToHandlers id => .dispatchMessageToHandlers id
  | .elapse milliseconds => .elapse milliseconds
  | .killExpiredSessions lockFree => .killExpiredSessions lockFree

inductive ChannelAction where
  | connect (kind : ChannelKind)
  | handle (index : Nat) (action : HandlerAction)
  | acquirePatch (id : String)
  | releasePatch (index : Nat)
  | background (step : Background)
deriving DecidableEq

def start (sessionTimeout : Int) : ChannelSystem where
  manager := SessionManager.start sessionTimeout
  handlers := []
  patchRequests := []
  identifiers := []

/-- `createUniqueID` gives no identifier twice. -/
def identifierFresh (identifiers : List (String × Nat)) : HandlerAction → Bool
  | .createSession id _ => !(identifiers.map Prod.fst).contains id
  | _ => true

def identifiersAfter (system : ChannelSystem) : HandlerAction → List (String × Nat)
  | .createSession id lockFree =>
      (id, (system.manager.killExpiredSessions lockFree).nextObject) :: system.identifiers
  | _ => system.identifiers

/-- Whether the next event of the session is the one that destroys it. -/
def destroysNext (manager : SessionManager) (object : Nat) : Bool :=
  match manager.objects object with
  | none => false
  | some found => found.session.posted.head? = some .deferredDelete

/-- The destructor of a session calls the slots connected to `destroyed` directly. -/
def notifyDestroyed (manager : SessionManager) (handlers : List ChannelHandler) :
    Background → List ChannelHandler
  | .deliverEvent object =>
      if destroysNext manager object then handlers.map (sessionDestroyed object) else handlers
  | _ => handlers

def channelStep (system : ChannelSystem) : ChannelAction → Option ChannelSystem
  | .connect kind => some { system with handlers := system.handlers ++ [create kind] }
  | .handle index action =>
      system.handlers[index]?.bind fun handler =>
        if handler.alive ∧ identifierFresh system.identifiers action then
          (handlerStep system.manager handler action).map fun (manager, changed) =>
            { system with
              manager := manager
              handlers := system.handlers.set index changed
              identifiers := identifiersAfter system action }
        else none
  | .acquirePatch id =>
      match system.manager.acquireSession id with
      | (manager, some object) =>
          if (manager.objects object).isSome then
            some { system with
              manager := manager
              patchRequests := useOf manager object :: system.patchRequests }
          else none
      | (manager, none) => some { system with manager := manager }
  | .releasePatch index =>
      system.patchRequests[index]?.bind fun use =>
        (managerStep system.manager (.releaseSession use.object)).map fun manager =>
          { system with
            manager := manager
            patchRequests := system.patchRequests.eraseIdx index }
  | .background step =>
      (managerStep system.manager step.action).map fun manager =>
        { system with
          manager := manager
          handlers := notifyDestroyed system.manager system.handlers step }

/-- Everything acquired and not given back: what `session_` of the handlers points to, and
what running calls hold. -/
def holdings (system : ChannelSystem) : List Use :=
  system.handlers.flatMap uses ++ system.patchRequests

end Viridity.ChannelHandlers
