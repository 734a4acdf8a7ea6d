import Mathlib.Data.List.Count

/-!
# Use counting of a session

A session counts its users in its own thread: acquiring and releasing it only post
calls, which that thread delivers first in, first out. Times are milliseconds.
-/

namespace Viridity.SessionUse

set_option autoImplicit false

inductive SessionSignal where
  | initialized
  | attached
  | interactionDormant
  | releaseRequired
  | detached
  | deinitializing
deriving DecidableEq

/-- What waits in the queue of the session's thread. `deferredDelete` is the event that
`deleteLater` posts when it is run. -/
inductive PostedEvent where
  | incrementUseCount
  | decrementUseCount
  | sendMessageToHandlers
  | deleteLater
  | deferredDelete
deriving DecidableEq

/-- `lastUsed` is the time of the last restart; the two timers are given by whether they
are active. -/
structure ViriditySession where
  id : String
  useCount : Int
  testingState : Int
  attached : Bool
  lastUsed : Nat
  detachDeferTimer : Bool
  interactionCheckTimer : Bool
  signals : List SessionSignal
  posted : List PostedEvent
deriving DecidableEq

namespace ViriditySession

/-- A session as the constructor leaves it; moving it to its thread stops the timers. -/
def create (id : String) (now : Nat) : ViriditySession where
  id := id
  useCount := 0
  testingState := 0
  attached := false
  lastUsed := now
  detachDeferTimer := false
  interactionCheckTimer := false
  signals := []
  posted := []

def emitSignal (session : ViriditySession) (signal : SessionSignal) : ViriditySession :=
  { session with signals := session.signals ++ [signal] }

def post (session : ViriditySession) (event : PostedEvent) : ViriditySession :=
  { session with posted := session.posted ++ [event] }

def resetLastUsed (session : ViriditySession) (now : Nat) : ViriditySession :=
  { session with lastUsed := now, interactionCheckTimer := true }

def incrementUseCount (session : ViriditySession) (now : Nat) : ViriditySession :=
  let counted := resetLastUsed { session with useCount := session.useCount + 1 } now
  if session.useCount = 0 ∧ session.attached = false then
    emitSignal { counted with attached := true } SessionSignal.attached
  else counted

def decrementUseCount (session : ViriditySession) : ViriditySession :=
  { session with useCount := session.useCount - 1, detachDeferTimer := true }

/-- The timer is a single shot. -/
def detachDeferTimerTimeout (session : ViriditySession) : ViriditySession :=
  let stopped := { session with detachDeferTimer := false }
  if stopped.useCount = 0 then
    emitSignal { stopped with attached := false } SessionSignal.detached
  else stopped

def interactionCheckTimerTimeout (session : ViriditySession) : ViriditySession :=
  emitSignal session SessionSignal.interactionDormant

def canBeDisposed (session : ViriditySession) : Bool :=
  session.useCount = 0 && session.testingState = 0

/-- The milliseconds of a day, after which `QTime::elapsed` starts again from zero. -/
def millisecondsPerDay : Nat := 86400000

def elapsed (session : ViriditySession) (now : Nat) : Nat :=
  (now - session.lastUsed) % millisecondsPerDay

/-- `testForInteractivity` up to its event loop. -/
def testForInteractivity (session : ViriditySession) : ViriditySession :=
  if 0 < session.useCount then
    emitSignal { session with testingState := session.testingState + 1 }
      SessionSignal.interactionDormant
  else session

def requestReleaseAndWait (session : ViriditySession) : ViriditySession :=
  if 0 < session.useCount then
    emitSignal { session with testingState := session.testingState + 1 }
      SessionSignal.releaseRequired
  else session

def leaveTest (session : ViriditySession) : ViriditySession :=
  { session with testingState := session.testingState - 1 }

/-- Runs one event in the session's thread; `none` when it destroys the session. -/
def runEvent (session : ViriditySession) (now : Nat) : PostedEvent → Option ViriditySession
  | .incrementUseCount => some (session.incrementUseCount now)
  | .decrementUseCount => some session.decrementUseCount
  | .sendMessageToHandlers => some (session.resetLastUsed now)
  | .deleteLater => some (session.post .deferredDelete)
  | .deferredDelete => none

def queuedUses (session : ViriditySession) : Int :=
  (session.posted.count PostedEvent.incrementUseCount : Int) -
    (session.posted.count PostedEvent.decrementUseCount : Int)

/-- What the use count becomes once everything queued was delivered. -/
def outstanding (session : ViriditySession) : Int := session.useCount + session.queuedUses

@[simp] theorem outstanding_create (id : String) (now : Nat) : (create id now).outstanding = 0 := by
  simp [outstanding, create, queuedUses]

@[simp] theorem outstanding_emit (session : ViriditySession) (signal : SessionSignal) :
    (session.emitSignal signal).outstanding = session.outstanding := rfl

@[simp] theorem outstanding_reset (session : ViriditySession) (now : Nat) :
    (session.resetLastUsed now).outstanding = session.outstanding := rfl

@[simp] theorem outstanding_detach_timeout (session : ViriditySession) :
    session.detachDeferTimerTimeout.outstanding = session.outstanding := by
  unfold detachDeferTimerTimeout
  dsimp only
  split_ifs <;> rfl

@[simp] theorem outstanding_interaction_timeout (session : ViriditySession) :
    session.interactionCheckTimerTimeout.outstanding = session.outstanding := rfl

@[simp] theorem outstanding_test (session : ViriditySession) :
    session.testForInteractivity.outstanding = session.outstanding := by
  unfold testForInteractivity
  split_ifs <;> rfl

@[simp] theorem outstanding_release_request (session : ViriditySession) :
    session.requestReleaseAndWait.outstanding = session.outstanding := by
  unfold requestReleaseAndWait
  split_ifs <;> rfl

@[simp] theorem outstanding_leave_test (session : ViriditySession) :
    session.leaveTest.outstanding = session.outstanding := rfl

def useChange : PostedEvent → Int
  | .incrementUseCount => 1
  | .decrementUseCount => -1
  | .sendMessageToHandlers | .deleteLater | .deferredDelete => 0

@[simp] theorem outstanding_post (session : ViriditySession) (event : PostedEvent) :
    (session.post event).outstanding = session.outstanding + useChange event := by
  cases event <;> simp [outstanding, queuedUses, post, useChange] <;> omega

theorem outstanding_increment (session : ViriditySession) (now : Nat) :
    (session.incrementUseCount now).outstanding = session.outstanding + 1 := by
  have counted : ({ session with useCount := session.useCount + 1 } : ViriditySession).outstanding =
      session.outstanding + 1 := by
    show session.useCount + 1 + session.queuedUses = session.useCount + session.queuedUses + 1
    omega
  unfold incrementUseCount
  dsimp only
  split_ifs
  · rw [outstanding_emit]
    exact counted
  · rw [outstanding_reset]
    exact counted

theorem outstanding_decrement (session : ViriditySession) :
    session.decrementUseCount.outstanding = session.outstanding - 1 := by
  show session.useCount - 1 + session.queuedUses = session.useCount + session.queuedUses - 1
  omega

theorem outstanding_event {session after : ViriditySession} {now : Nat} {event : PostedEvent}
    (ran : session.runEvent now event = some after) :
    after.outstanding = session.outstanding + useChange event := by
  cases event <;> simp only [runEvent, Option.some.injEq, reduceCtorEq] at ran <;> subst ran
  case incrementUseCount => exact outstanding_increment session now
  case decrementUseCount => exact outstanding_decrement session
  case sendMessageToHandlers => simp [useChange]
  case deleteLater => simp [useChange]

theorem id_increment (session : ViriditySession) (now : Nat) :
    (session.incrementUseCount now).id = session.id := by
  unfold incrementUseCount
  dsimp only
  split_ifs <;> rfl

theorem id_event {session after : ViriditySession} {now : Nat} {event : PostedEvent}
    (ran : session.runEvent now event = some after) : after.id = session.id := by
  cases event <;> simp only [runEvent, Option.some.injEq, reduceCtorEq] at ran <;> subst ran
  case incrementUseCount => exact id_increment session now
  all_goals rfl

theorem id_detach_timeout (session : ViriditySession) :
    session.detachDeferTimerTimeout.id = session.id := by
  unfold detachDeferTimerTimeout
  dsimp only
  split_ifs <;> rfl

theorem id_test (session : ViriditySession) : session.testForInteractivity.id = session.id := by
  unfold testForInteractivity
  split_ifs <;> rfl

theorem id_release_request (session : ViriditySession) :
    session.requestReleaseAndWait.id = session.id := by
  unfold requestReleaseAndWait
  split_ifs <;> rfl

theorem outstanding_take {session : ViriditySession} {event : PostedEvent}
    {rest : List PostedEvent} (queue : session.posted = event :: rest) :
    session.outstanding =
      outstanding { session with posted := rest } + useChange event := by
  cases event <;> simp [outstanding, queuedUses, queue, useChange] <;> omega

theorem outstanding_run {session after : ViriditySession} {now : Nat} {event : PostedEvent}
    {rest : List PostedEvent} (queue : session.posted = event :: rest)
    (ran : runEvent { session with posted := rest } now event = some after) :
    after.outstanding = session.outstanding := by
  rw [outstanding_event ran, outstanding_take queue]

end ViriditySession

end Viridity.SessionUse
