import Mathlib.Data.List.Nodup
import Mathlib.Logic.Function.Basic
import Viridity.LabelledRuns
import Viridity.SessionUse

/-!
# The session manager

Sessions are named by their address; `sessions` is the hash from identifiers to
addresses. Any thread may look up, acquire and release a session, each session's
thread delivers what was posted to it, and the manager's thread sweeps. The calls
that hold the lock of the hash are single steps; `getNewSession` is two, since it
takes the lock only after `createSession` has returned.
-/

namespace Viridity.SessionExpiry

open Viridity.LabelledRuns
open Viridity.SessionUse

set_option autoImplicit false

/-- A session, with how often it was handed out and how often it was given back. -/
structure SessionObject where
  session : ViriditySession
  acquired : Nat
  released : Nat

/-- `created` are the sessions `createSession` has returned to a `getNewSession` still
running. An address without an object was never used or its session is destroyed. -/
structure SessionManager where
  sessionTimeout : Int
  sessions : List (String × Nat)
  sessionInKillGracePeriod : List String
  created : List Nat
  objects : Nat → Option SessionObject
  nextObject : Nat
  now : Nat

namespace SessionManager

def start (sessionTimeout : Int) : SessionManager where
  sessionTimeout := sessionTimeout
  sessions := []
  sessionInKillGracePeriod := []
  created := []
  objects := fun _ => none
  nextObject := 0
  now := 0

def modify (manager : SessionManager) (object : Nat) (change : SessionObject → SessionObject) :
    SessionManager :=
  { manager with
    objects := Function.update manager.objects object ((manager.objects object).map change) }

/-- A change of the session itself, made by its thread or its timers. -/
def changeSession (change : ViriditySession → ViriditySession) (object : SessionObject) :
    SessionObject :=
  { object with session := change object.session }

/-- `incrementUseCount` posted by the call that hands the session out. -/
def handOut (object : SessionObject) : SessionObject :=
  { object with
    session := object.session.post PostedEvent.incrementUseCount
    acquired := object.acquired + 1 }

/-- `decrementUseCount` posted by the call that gives the session back. -/
def giveBack (object : SessionObject) : SessionObject :=
  { object with
    session := object.session.post PostedEvent.decrementUseCount
    released := object.released + 1 }

def getSession (manager : SessionManager) (id : String) : SessionManager × Option Nat :=
  match manager.sessions.lookup id with
  | some object =>
      (if id ∈ manager.sessionInKillGracePeriod then manager
        else { manager with
          sessionInKillGracePeriod := id :: manager.sessionInKillGracePeriod },
        some object)
  | none => (manager, none)

def acquireSession (manager : SessionManager) (id : String) : SessionManager × Option Nat :=
  match manager.getSession id with
  | (found, some object) => (found.modify object handOut, some object)
  | (found, none) => (found, none)

def releaseSession (manager : SessionManager) (object : Nat) : SessionManager :=
  manager.modify object giveBack

/-- `dispatchMessageToHandlers` for one session: the lookup and the blocking call. -/
def dispatchMessageToHandlers (manager : SessionManager) (id : String) : SessionManager :=
  match manager.getSession id with
  | (found, some object) =>
      found.modify object (changeSession fun session => session.post .sendMessageToHandlers)
  | (found, none) => found

def removeSession (manager : SessionManager) (id : String) (object : Nat) : SessionManager :=
  modify { manager with sessions := manager.sessions.filter fun entry => entry.1 ≠ id } object
    (changeSession fun session => (session.emitSignal .deinitializing).post .deleteLater)

def expired (manager : SessionManager) (session : ViriditySession) : Bool :=
  session.canBeDisposed && decide (manager.sessionTimeout < session.elapsed manager.now)

def sweepSession (manager : SessionManager) (object : Nat) : SessionManager :=
  match manager.objects object with
  | none => manager
  | some found =>
      if manager.expired found.session then
        if found.session.id ∈ manager.sessionInKillGracePeriod then
          { manager with
            sessionInKillGracePeriod :=
              manager.sessionInKillGracePeriod.filter fun id => id ≠ found.session.id }
        else manager.removeSession found.session.id object
      else manager

/-- The loop runs over a copy of the sessions. -/
def killExpiredSessions (manager : SessionManager) (lockFree : Bool) : SessionManager :=
  if lockFree then
    (manager.sessions.map Prod.snd).foldl sweepSession manager
  else manager

/-- The session lives at a new address until `getNewSession` goes on. -/
def createSession (manager : SessionManager) (id : String) (lockFree : Bool) : SessionManager :=
  let swept := manager.killExpiredSessions lockFree
  let session := (ViriditySession.create id swept.now).emitSignal .initialized
  { swept with
    objects := Function.update swept.objects swept.nextObject (some ⟨session, 0, 0⟩)
    created := swept.nextObject :: swept.created
    nextObject := swept.nextObject + 1 }

/-- `getNewSession` once `createSession` has returned. -/
def insertSession (manager : SessionManager) (object : Nat) (id : String) : SessionManager :=
  modify
    { manager with
      sessions := (manager.sessions.filter fun entry => entry.1 ≠ id) ++ [(id, object)]
      created := manager.created.erase object }
    object handOut

def deliverEvent (manager : SessionManager) (object : Nat) : Option SessionManager :=
  match manager.objects object with
  | none => none
  | some found =>
      match found.session.posted with
      | [] => none
      | event :: rest =>
          some { manager with
            objects := Function.update manager.objects object
              ((ViriditySession.runEvent { found.session with posted := rest } manager.now
                event).map fun session => { found with session := session }) }

end SessionManager

inductive ManagerAction where
  | createSession (id : String) (lockFree : Bool)
  | insertSession (object : Nat)
  | getSession (id : String)
  | acquireSession (id : String)
  | releaseSession (object : Nat)
  | dispatchMessageToHandlers (id : String)
  | deliverEvent (object : Nat)
  | detachDeferTimerTimeout (object : Nat)
  | interactionCheckTimerTimeout (object : Nat)
  | testForInteractivity (object : Nat)
  | requestReleaseAndWait (object : Nat)
  | leaveTest (object : Nat)
  | elapse (milliseconds : Nat)
  | killExpiredSessions (lockFree : Bool)
deriving DecidableEq

open SessionManager

/-- A step on the session at an address, where there is one that meets the guard. -/
def sessionStep (manager : SessionManager) (object : Nat) (guard : ViriditySession → Bool)
    (change : ViriditySession → ViriditySession) : Option SessionManager :=
  match manager.objects object with
  | none => none
  | some found =>
      if guard found.session then some (manager.modify object (changeSession change)) else none

/-- A session that is destroyed can not be given back, and no timer of it fires. -/
def managerStep (manager : SessionManager) : ManagerAction → Option SessionManager
  | .createSession id lockFree => some (manager.createSession id lockFree)
  | .insertSession object =>
      match manager.objects object with
      | none => none
      | some found =>
          if object ∈ manager.created then some (manager.insertSession object found.session.id)
          else none
  | .getSession id => some (manager.getSession id).1
  | .acquireSession id => some (manager.acquireSession id).1
  | .releaseSession object =>
      if (manager.objects object).isSome then some (manager.releaseSession object) else none
  | .dispatchMessageToHandlers id => some (manager.dispatchMessageToHandlers id)
  | .deliverEvent object => manager.deliverEvent object
  | .detachDeferTimerTimeout object =>
      sessionStep manager object (fun session => session.detachDeferTimer)
        ViriditySession.detachDeferTimerTimeout
  | .interactionCheckTimerTimeout object =>
      sessionStep manager object (fun session => session.interactionCheckTimer)
        ViriditySession.interactionCheckTimerTimeout
  | .testForInteractivity object =>
      sessionStep manager object (fun _ => true) ViriditySession.testForInteractivity
  | .requestReleaseAndWait object =>
      sessionStep manager object (fun _ => true) ViriditySession.requestReleaseAndWait
  | .leaveTest object =>
      sessionStep manager object (fun session => decide (0 < session.testingState))
        ViriditySession.leaveTest
  | .elapse milliseconds => some { manager with now := manager.now + milliseconds }
  | .killExpiredSessions lockFree => some (manager.killExpiredSessions lockFree)

/-- An event is delivered to a session that is there, and is the first posted to it. -/
theorem deliver_event_cases {manager after : SessionManager} {object : Nat}
    (taken : manager.deliverEvent object = some after) :
    ∃ found event rest, manager.objects object = some found ∧
      found.session.posted = event :: rest ∧
      after = { manager with
        objects := Function.update manager.objects object
          ((ViriditySession.runEvent { found.session with posted := rest } manager.now event).map
            fun session => { found with session := session }) } := by
  unfold deliverEvent at taken
  split at taken
  · cases taken
  rename_i found held
  split at taken
  · cases taken
  rename_i event rest queue
  exact ⟨found, event, rest, held, queue, (Option.some.inj taken).symm⟩

theorem session_step_eq {manager after : SessionManager} {object : Nat}
    {guard : ViriditySession → Bool} {change : ViriditySession → ViriditySession}
    (taken : sessionStep manager object guard change = some after) :
    after = manager.modify object (changeSession change) := by
  unfold sessionStep at taken
  split at taken
  · cases taken
  · split_ifs at taken
    exact (Option.some.inj taken).symm

/-- What holds between any two steps. -/
structure ManagerKept (manager : SessionManager) : Prop where
  accounted : ∀ object found, manager.objects object = some found →
    found.session.outstanding = (found.acquired : Int) - found.released
  distinct : (manager.sessions.map Prod.fst).Nodup
  named : ∀ entry ∈ manager.sessions, ∀ found, manager.objects entry.2 = some found →
    found.session.id = entry.1
  known : ∀ entry ∈ manager.sessions, entry.2 < manager.nextObject
  allocated : ∀ object found, manager.objects object = some found → object < manager.nextObject

/-- A change of an object that keeps the books and the identifier. -/
def BooksKept (change : SessionObject → SessionObject) : Prop :=
  ∀ found, (change found).session.id = found.session.id ∧
    (found.session.outstanding = (found.acquired : Int) - found.released →
      (change found).session.outstanding =
        ((change found).acquired : Int) - (change found).released)

theorem books_change {change : ViriditySession → ViriditySession}
    (identifier : ∀ session, (change session).id = session.id)
    (uses : ∀ session, (change session).outstanding = session.outstanding) :
    BooksKept (changeSession change) := by
  intro found
  constructor
  · exact identifier found.session
  · intro accounted
    show (change found.session).outstanding = _
    rw [uses]
    exact accounted

theorem books_hand_out : BooksKept handOut := by
  intro found
  constructor
  · rfl
  · intro accounted
    simp only [handOut, ViriditySession.outstanding_post, ViriditySession.useChange]
    push_cast
    omega

theorem books_give_back : BooksKept giveBack := by
  intro found
  constructor
  · rfl
  · intro accounted
    simp only [giveBack, ViriditySession.outstanding_post, ViriditySession.useChange]
    push_cast
    omega

theorem modify_some {manager : SessionManager} {object other : Nat}
    {change : SessionObject → SessionObject} {found : SessionObject}
    (present : (manager.modify object change).objects other = some found) :
    ∃ before, manager.objects other = some before ∧ (found = before ∨ found = change before) := by
  unfold SessionManager.modify at present
  by_cases same : other = object
  · subst same
    simp only [Function.update_self, Option.map_eq_some_iff] at present
    obtain ⟨before, held, changed⟩ := present
    exact ⟨before, held, Or.inr changed.symm⟩
  · simp only [Function.update_of_ne same] at present
    exact ⟨found, present, Or.inl rfl⟩

theorem kept_modify {manager : SessionManager} (kept : ManagerKept manager) (object : Nat)
    {change : SessionObject → SessionObject} (books : BooksKept change) :
    ManagerKept (manager.modify object change) where
  accounted := by
    intro other found present
    obtain ⟨before, held, rfl | rfl⟩ := modify_some present
    · exact kept.accounted other found held
    · exact (books before).2 (kept.accounted other before held)
  distinct := kept.distinct
  named := by
    intro entry member found present
    obtain ⟨before, held, rfl | rfl⟩ := modify_some present
    · exact kept.named entry member found held
    · rw [(books before).1]
      exact kept.named entry member before held
  known := kept.known
  allocated := by
    intro other found present
    obtain ⟨before, held, _⟩ := modify_some present
    exact kept.allocated other before held

theorem kept_grace {manager : SessionManager} (kept : ManagerKept manager) (grace : List String) :
    ManagerKept { manager with sessionInKillGracePeriod := grace } :=
  ⟨kept.accounted, kept.distinct, kept.named, kept.known, kept.allocated⟩

theorem kept_filter {manager : SessionManager} (kept : ManagerKept manager)
    (keep : String × Nat → Bool) :
    ManagerKept { manager with sessions := manager.sessions.filter keep } where
  accounted := kept.accounted
  distinct := kept.distinct.sublist ((List.filter_sublist).map Prod.fst)
  named := by
    intro entry member
    exact kept.named entry (List.mem_of_mem_filter member)
  known := by
    intro entry member
    exact kept.known entry (List.mem_of_mem_filter member)
  allocated := kept.allocated

theorem kept_get {manager : SessionManager} (kept : ManagerKept manager) (id : String) :
    ManagerKept (manager.getSession id).1 := by
  unfold getSession
  split
  · split_ifs
    · exact kept
    · exact kept_grace kept _
  · exact kept

theorem kept_acquire {manager : SessionManager} (kept : ManagerKept manager) (id : String) :
    ManagerKept (manager.acquireSession id).1 := by
  have found := kept_get kept id
  unfold acquireSession
  split
  · rename_i looked _ result
    rw [result] at found
    exact kept_modify found _ books_hand_out
  · rename_i looked result
    rw [result] at found
    exact found

theorem kept_dispatch {manager : SessionManager} (kept : ManagerKept manager) (id : String) :
    ManagerKept (manager.dispatchMessageToHandlers id) := by
  have found := kept_get kept id
  unfold dispatchMessageToHandlers
  split
  · rename_i looked _ result
    rw [result] at found
    apply kept_modify found
    apply books_change
    · intro session
      rfl
    · intro session
      simp [ViriditySession.useChange]
  · rename_i looked result
    rw [result] at found
    exact found

theorem sweep_cases (manager : SessionManager) (object : Nat) :
    (manager.sweepSession object = manager ∧
      ∀ found, manager.objects object = some found → manager.expired found.session = false) ∨
    (∃ found, manager.objects object = some found ∧ manager.expired found.session = true ∧
      found.session.id ∈ manager.sessionInKillGracePeriod ∧
      manager.sweepSession object = { manager with
        sessionInKillGracePeriod :=
          manager.sessionInKillGracePeriod.filter fun id => id ≠ found.session.id }) ∨
    (∃ found, manager.objects object = some found ∧ manager.expired found.session = true ∧
      found.session.id ∉ manager.sessionInKillGracePeriod ∧
      manager.sweepSession object = manager.removeSession found.session.id object) := by
  unfold sweepSession
  cases held : manager.objects object with
  | none => simp
  | some found =>
      by_cases idle : manager.expired found.session = true
      · by_cases graced : found.session.id ∈ manager.sessionInKillGracePeriod
        · simp [idle, graced]
        · simp [idle, graced]
      · simp [idle]

theorem kept_sweep {manager : SessionManager} (kept : ManagerKept manager) (object : Nat) :
    ManagerKept (manager.sweepSession object) := by
  rcases sweep_cases manager object with ⟨same, _⟩ | ⟨_, _, _, _, same⟩ | ⟨_, _, _, _, same⟩
  · rw [same]
    exact kept
  · rw [same]
    exact kept_grace kept _
  · rw [same]
    apply kept_modify (kept_filter kept _)
    apply books_change
    · intro session
      rfl
    · intro session
      simp [ViriditySession.useChange]

theorem kept_kill {manager : SessionManager} (kept : ManagerKept manager) (lockFree : Bool) :
    ManagerKept (manager.killExpiredSessions lockFree) := by
  unfold killExpiredSessions
  split_ifs
  · generalize manager.sessions.map Prod.snd = addresses
    induction addresses generalizing manager with
    | nil => exact kept
    | cons object rest induction => exact induction (kept_sweep kept object)
  · exact kept

theorem kept_create {manager : SessionManager} (kept : ManagerKept manager) (id : String)
    (lockFree : Bool) : ManagerKept (manager.createSession id lockFree) := by
  have swept := kept_kill kept lockFree
  unfold createSession
  generalize manager.killExpiredSessions lockFree = swept' at swept
  -- the new address is that of no session so far
  have elsewhere : ∀ entry ∈ swept'.sessions, entry.2 ≠ swept'.nextObject := by
    intro entry member
    have := swept.known entry member
    omega
  constructor
  · intro object found present
    by_cases new : object = swept'.nextObject
    · subst new
      simp only [Function.update_self, Option.some.injEq] at present
      subst present
      simp
    · simp only [Function.update_of_ne new] at present
      exact swept.accounted object found present
  · exact swept.distinct
  · intro entry member found present
    simp only [Function.update_of_ne (elsewhere entry member)] at present
    exact swept.named entry member found present
  · intro entry member
    exact Nat.lt_succ_of_lt (swept.known entry member)
  · intro object found present
    by_cases new : object = swept'.nextObject
    · subst new
      exact Nat.lt_succ_self _
    · simp only [Function.update_of_ne new] at present
      exact Nat.lt_succ_of_lt (swept.allocated object found present)

theorem kept_insert {manager : SessionManager} (kept : ManagerKept manager) {object : Nat}
    {found : SessionObject} (held : manager.objects object = some found) :
    ManagerKept (manager.insertSession object found.session.id) := by
  have fewer := kept_filter kept fun entry => entry.1 ≠ found.session.id
  unfold insertSession
  refine kept_modify ?_ object books_hand_out
  constructor
  · exact kept.accounted
  · simp only [List.map_append, List.map_cons, List.map_nil]
    apply List.nodup_append'.mpr
    refine ⟨fewer.distinct, List.nodup_singleton _, ?_⟩
    simp
  · intro entry member other present
    rcases List.mem_append.mp member with old | new
    · exact fewer.named entry old other present
    · simp only [List.mem_singleton] at new
      subst new
      rw [held, Option.some.injEq] at present
      rw [present]
  · intro entry member
    rcases List.mem_append.mp member with old | new
    · exact fewer.known entry old
    · simp only [List.mem_singleton] at new
      subst new
      exact kept.allocated object found held
  · exact kept.allocated

theorem kept_session_step {manager after : SessionManager} (kept : ManagerKept manager)
    {object : Nat} {guard : ViriditySession → Bool} {change : ViriditySession → ViriditySession}
    (books : BooksKept (changeSession change))
    (taken : sessionStep manager object guard change = some after) : ManagerKept after := by
  rw [session_step_eq taken]
  exact kept_modify kept object books

theorem kept_deliver {manager after : SessionManager} (kept : ManagerKept manager) {object : Nat}
    (taken : manager.deliverEvent object = some after) : ManagerKept after := by
  obtain ⟨found, event, rest, held, queue, rfl⟩ := deliver_event_cases taken
  have ran : ∀ session, ViriditySession.runEvent { found.session with posted := rest }
      manager.now event = some session →
      session.outstanding = found.session.outstanding ∧ session.id = found.session.id := by
    intro session ran
    have identifier := ViriditySession.id_event ran
    exact ⟨ViriditySession.outstanding_run queue ran, identifier⟩
  have delivered : ∀ other slot,
      Function.update manager.objects object
        ((ViriditySession.runEvent { found.session with posted := rest } manager.now event).map
          fun session => { found with session := session }) other = some slot →
      ∃ before, manager.objects other = some before ∧ slot.acquired = before.acquired ∧
        slot.released = before.released ∧
        slot.session.outstanding = before.session.outstanding ∧
        slot.session.id = before.session.id := by
    intro other slot present
    by_cases same : other = object
    · subst same
      simp only [Function.update_self, Option.map_eq_some_iff] at present
      obtain ⟨session, after, rfl⟩ := present
      exact ⟨found, held, rfl, rfl, (ran session after).1, (ran session after).2⟩
    · rw [Function.update_of_ne same] at present
      exact ⟨slot, present, rfl, rfl, rfl, rfl⟩
  constructor
  · intro other slot present
    obtain ⟨before, was, acquired, released, uses, _⟩ := delivered other slot present
    rw [acquired, released, uses]
    exact kept.accounted other before was
  · exact kept.distinct
  · intro entry member slot present
    obtain ⟨before, was, _, _, _, identifier⟩ := delivered entry.2 slot present
    rw [identifier]
    exact kept.named entry member before was
  · exact kept.known
  · intro other slot present
    obtain ⟨before, was, _⟩ := delivered other slot present
    exact kept.allocated other before was

theorem kept_step {manager after : SessionManager} {action : ManagerAction}
    (kept : ManagerKept manager) (taken : managerStep manager action = some after) :
    ManagerKept after := by
  cases action with
  | createSession id lockFree =>
      cases taken
      exact kept_create kept id lockFree
  | insertSession object =>
      simp only [managerStep] at taken
      split at taken
      · cases taken
      · rename_i found held
        split_ifs at taken
        cases taken
        exact kept_insert kept held
  | getSession id =>
      cases taken
      exact kept_get kept id
  | acquireSession id =>
      cases taken
      exact kept_acquire kept id
  | releaseSession object =>
      simp only [managerStep] at taken
      split_ifs at taken
      cases taken
      exact kept_modify kept object books_give_back
  | dispatchMessageToHandlers id =>
      cases taken
      exact kept_dispatch kept id
  | deliverEvent object => exact kept_deliver kept taken
  | detachDeferTimerTimeout object =>
      simp only [managerStep] at taken
      apply kept_session_step kept _ taken
      exact books_change ViriditySession.id_detach_timeout
        ViriditySession.outstanding_detach_timeout
  | interactionCheckTimerTimeout object =>
      simp only [managerStep] at taken
      apply kept_session_step kept _ taken
      exact books_change (fun _ => rfl) ViriditySession.outstanding_interaction_timeout
  | testForInteractivity object =>
      simp only [managerStep] at taken
      apply kept_session_step kept _ taken
      exact books_change ViriditySession.id_test ViriditySession.outstanding_test
  | requestReleaseAndWait object =>
      simp only [managerStep] at taken
      apply kept_session_step kept _ taken
      exact books_change ViriditySession.id_release_request
        ViriditySession.outstanding_release_request
  | leaveTest object =>
      simp only [managerStep] at taken
      apply kept_session_step kept _ taken
      exact books_change (fun _ => rfl) ViriditySession.outstanding_leave_test
  | elapse milliseconds =>
      cases taken
      exact ⟨kept.accounted, kept.distinct, kept.named, kept.known, kept.allocated⟩
  | killExpiredSessions lockFree =>
      cases taken
      exact kept_kill kept lockFree

theorem kept_start (sessionTimeout : Int) : ManagerKept (start sessionTimeout) := by
  constructor <;> simp [start]

def Doomed (manager : SessionManager) (entry : String × Nat) : Prop :=
  ∃ found, manager.objects entry.2 = some found ∧ manager.expired found.session = true ∧
    entry.1 ∉ manager.sessionInKillGracePeriod

theorem mem_sweep {manager : SessionManager} (kept : ManagerKept manager)
    {swept : String × Nat} (listed : swept ∈ manager.sessions) (entry : String × Nat) :
    entry ∈ (manager.sweepSession swept.2).sessions ↔
      entry ∈ manager.sessions ∧ ¬(entry.1 = swept.1 ∧ Doomed manager swept) := by
  rcases sweep_cases manager swept.2 with ⟨same, fresh⟩ | ⟨found, held, idle, graced, same⟩ |
      ⟨found, held, idle, graced, same⟩
  · have spared : ¬ Doomed manager swept := by
      rintro ⟨found, held, idle, _⟩
      simp [fresh found held] at idle
    simp [same, spared]
  · have spared : ¬ Doomed manager swept := by
      rintro ⟨_, _, _, outside⟩
      rw [← kept.named swept listed found held] at outside
      exact outside graced
    simp [same, spared]
  · have identifier := kept.named swept listed found held
    rw [identifier] at graced same
    have doomed : Doomed manager swept := ⟨found, held, idle, graced⟩
    simp [same, doomed, removeSession, SessionManager.modify]

theorem doomed_sweep {manager : SessionManager} (kept : ManagerKept manager)
    {swept entry : String × Nat} (listed : swept ∈ manager.sessions)
    (other : entry.1 ≠ swept.1) :
    Doomed (manager.sweepSession swept.2) entry ↔ Doomed manager entry := by
  rcases sweep_cases manager swept.2 with ⟨same, _⟩ | ⟨found, held, _, _, same⟩ |
      ⟨found, held, _, _, same⟩
  · rw [same]
  · have identifier := kept.named swept listed found held
    unfold Doomed expired
    simp [same, identifier, other]
  · rw [same]
    unfold Doomed removeSession SessionManager.modify
    by_cases shared : entry.2 = swept.2
    · simp only [shared, Function.update_self, held, Option.map_some, Option.some.injEq,
        exists_eq_left']
      exact Iff.rfl
    · simp only [Function.update_of_ne shared]
      exact Iff.rfl

theorem mem_sweep_all {manager : SessionManager} (kept : ManagerKept manager)
    {entries : List (String × Nat)} (listed : ∀ swept ∈ entries, swept ∈ manager.sessions)
    (distinct : (entries.map Prod.fst).Nodup) (entry : String × Nat) :
    entry ∈ ((entries.map Prod.snd).foldl sweepSession manager).sessions ↔
      entry ∈ manager.sessions ∧ ¬ ∃ swept ∈ entries, entry.1 = swept.1 ∧ Doomed manager swept := by
  induction entries generalizing manager with
  | nil => simp
  | cons first rest induction =>
      have here := listed first List.mem_cons_self
      simp only [List.map_cons, List.nodup_cons] at distinct
      have others : ∀ swept ∈ rest, swept.1 ≠ first.1 := by
        intro swept member same
        exact distinct.1 (same ▸ List.mem_map_of_mem member)
      have remaining : ∀ swept ∈ rest, swept ∈ (manager.sweepSession first.2).sessions := by
        intro swept member
        apply (mem_sweep kept here swept).mpr
        exact ⟨listed swept (List.mem_cons_of_mem _ member),
          fun both => others swept member both.1⟩
      have doomed : ∀ swept ∈ rest,
          (Doomed (manager.sweepSession first.2) swept ↔ Doomed manager swept) := by
        intro swept member
        exact doomed_sweep kept here (others swept member)
      simp only [List.map_cons, List.foldl_cons]
      rw [induction (kept_sweep kept first.2) remaining distinct.2, mem_sweep kept here]
      constructor
      · rintro ⟨⟨member, spared⟩, later⟩
        refine ⟨member, ?_⟩
        rintro ⟨swept, among, same, condemned⟩
        rcases List.mem_cons.mp among with rfl | among
        · exact spared ⟨same, condemned⟩
        · exact later ⟨swept, among, same, (doomed swept among).mpr condemned⟩
      · rintro ⟨member, spared⟩
        refine ⟨⟨member, ?_⟩, ?_⟩
        · rintro ⟨same, condemned⟩
          exact spared ⟨first, List.mem_cons_self, same, condemned⟩
        · rintro ⟨swept, among, same, condemned⟩
          exact spared ⟨swept, List.mem_cons_of_mem _ among, same,
            (doomed swept among).mp condemned⟩

/-- A sweep removes the doomed sessions and no others. -/
theorem mem_kill {manager : SessionManager} (kept : ManagerKept manager)
    {entry : String × Nat} (listed : entry ∈ manager.sessions) :
    entry ∈ (manager.killExpiredSessions true).sessions ↔ ¬ Doomed manager entry := by
  unfold killExpiredSessions
  rw [if_pos rfl, mem_sweep_all kept (fun _ member => member) kept.distinct]
  constructor
  · rintro ⟨_, spared⟩ condemned
    exact spared ⟨entry, listed, rfl, condemned⟩
  · intro spared
    refine ⟨listed, ?_⟩
    rintro ⟨swept, member, same, condemned⟩
    have equal : swept = entry := by
      exact List.inj_on_of_nodup_map kept.distinct member listed same.symm
    exact spared (equal ▸ condemned)

/-- The actions that sweep: `createSession` does so first. -/
def ManagerAction.sweeps : ManagerAction → Bool
  | .createSession _ lockFree | .killExpiredSessions lockFree => lockFree
  | _ => false

/-- No sweep removes a session that was handed out more often than given back. -/
def SparesAcquired (manager : SessionManager) (action : ManagerAction)
    (after : SessionManager) : Prop :=
  action.sweeps = true → ∀ entry ∈ manager.sessions, ∀ found,
    manager.objects entry.2 = some found → found.released < found.acquired →
      entry ∈ after.sessions

/-- A sweep finds a session with more increments than decrements in its queue in its grace
period, in use, under test or used within the timeout. -/
def IncrementsBridged (manager : SessionManager) (action : ManagerAction)
    (_after : SessionManager) : Prop :=
  action.sweeps = true → ∀ entry ∈ manager.sessions, ∀ found,
    manager.objects entry.2 = some found → 0 < found.session.queuedUses →
      manager.expired found.session = true → entry.1 ∈ manager.sessionInKillGracePeriod

theorem sweep_sessions {manager after : SessionManager} {action : ManagerAction}
    (sweeps : action.sweeps = true) (taken : managerStep manager action = some after) :
    after.sessions = (manager.killExpiredSessions true).sessions := by
  cases action with
  | createSession id lockFree =>
      simp only [ManagerAction.sweeps] at sweeps
      subst sweeps
      cases taken
      rfl
  | killExpiredSessions lockFree =>
      simp only [ManagerAction.sweeps] at sweeps
      subst sweeps
      cases taken
      rfl
  | _ => cases sweeps

theorem expired_use_count {manager : SessionManager} {session : ViriditySession}
    (idle : manager.expired session = true) : session.useCount = 0 := by
  simp only [expired, ViriditySession.canBeDisposed, Bool.and_eq_true, decide_eq_true_eq] at idle
  exact idle.1.1

theorem queued_of_expired {manager : SessionManager} (kept : ManagerKept manager) {object : Nat}
    {found : SessionObject} (held : manager.objects object = some found)
    (idle : manager.expired found.session = true) :
    0 < found.session.queuedUses ↔ found.released < found.acquired := by
  have accounted := kept.accounted object found held
  have unused := expired_use_count idle
  unfold ViriditySession.outstanding at accounted
  omega

theorem spares_iff_bridged {manager after : SessionManager} {action : ManagerAction}
    (kept : ManagerKept manager) (taken : managerStep manager action = some after) :
    SparesAcquired manager action after ↔ IncrementsBridged manager action after := by
  apply imp_congr_right
  intro sweeps
  apply forall₂_congr
  intro entry member
  apply forall₂_congr
  intro found held
  rw [sweep_sessions sweeps taken, mem_kill kept member]
  constructor
  · intro spared queued idle
    by_contra outside
    exact spared ((queued_of_expired kept held idle).mp queued) ⟨found, held, idle, outside⟩
  · rintro bridged acquired ⟨other, present, idle, outside⟩
    rw [held, Option.some.injEq] at present
    subst present
    exact outside (bridged ((queued_of_expired kept held idle).mpr acquired) idle)

/-- In every run, the sweeps spare the acquired sessions exactly if none of them comes
upon an idle session whose increments are still queued and whose grace is used up. -/
theorem acquired_sessions_survive (sessionTimeout : Int) (actions : List ManagerAction) :
    Along managerStep SparesAcquired (start sessionTimeout) actions ↔
      Along managerStep IncrementsBridged (start sessionTimeout) actions := by
  have preserved : ∀ manager action after, ManagerKept manager →
      managerStep manager action = some after → ManagerKept after := by
    intro manager action after kept taken
    exact kept_step kept taken
  apply along_congr preserved
  · intro manager action after kept taken
    exact spares_iff_bridged kept taken
  · exact kept_start sessionTimeout

/-- A client comes back to a session that was idle for longer than the timeout, while
the session's thread is busy and two others ask for new sessions. -/
def acquiredThenSwept : List ManagerAction :=
  [.createSession "a" true, .insertSession 0, .deliverEvent 0, .releaseSession 0,
    .deliverEvent 0, .elapse 10001, .acquireSession "a", .createSession "b" true]

/-- The second of the two finds the grace of the session used up. -/
theorem acquired_session_removed :
    ¬ ∀ (sessionTimeout : Int) (actions : List ManagerAction),
      Along managerStep SparesAcquired (start sessionTimeout) actions := by
  intro spares
  have along := spares 10000 (acquiredThenSwept ++ [.createSession "c" true])
  obtain ⟨middle, executed⟩ : ∃ middle,
      execute managerStep (start 10000) acquiredThenSwept = some middle :=
    Option.isSome_iff_exists.mp (by decide)
  have listed : (execute managerStep (start 10000) acquiredThenSwept).map
      (fun manager => (manager.sessions, (manager.objects 0).map fun found =>
        (found.acquired, found.released),
        (manager.killExpiredSessions true).sessions)) = some ([("a", 0)], some (2, 1), []) := by
    decide
  simp only [executed, Option.map_some, Option.some.injEq, Prod.mk.injEq,
    Option.map_eq_some_iff] at listed
  obtain ⟨sessions, ⟨found, held, acquired, released⟩, removed⟩ := listed
  have taken : managerStep middle (.createSession "c" true) =
      some (middle.createSession "c" true) := rfl
  have spared := along.last executed taken rfl ("a", 0) (by simp [sessions]) found held (by omega)
  rw [sweep_sessions rfl taken, removed] at spared
  cases spared

end Viridity.SessionExpiry
