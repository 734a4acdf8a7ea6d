import Mathlib.Data.List.Count
import Mathlib.Data.List.Perm.Subperm
import Viridity.SessionExpiry

/-!
# Who holds a session

The acquisitions of a session that were not given back, each with its number among the
acquisitions of that session. The queue of the session is first in, first out, so the
number tells whether the increment of an acquisition is still in the queue.
-/

namespace Viridity.SessionHoldings

open Viridity.SessionUse
open Viridity.SessionExpiry
open Viridity.SessionExpiry.SessionManager

set_option autoImplicit false

structure Use where
  object : Nat
  number : Nat
deriving DecidableEq

/-- The acquisition that a call handing out the session has just made. -/
def useOf (manager : SessionManager) (object : Nat) : Use where
  object := object
  number := ((manager.objects object).map SessionObject.acquired).getD 0

def increments (events : List PostedEvent) : Nat := events.count PostedEvent.incrementUseCount

def decrements (events : List PostedEvent) : Nat := events.count PostedEvent.decrementUseCount

@[simp] theorem increments_append (early late : List PostedEvent) :
    increments (early ++ late) = increments early + increments late :=
  List.count_append

@[simp] theorem decrements_append (early late : List PostedEvent) :
    decrements (early ++ late) = decrements early + decrements late :=
  List.count_append

/-- Whether the increment of an acquisition was delivered before the events `late`. -/
def deliveredBefore (found : SessionObject) (late : List PostedEvent) (number : Nat) : Bool :=
  decide (number + increments late ≤ found.acquired)

/-- The use count, at each point of the queue, covers the acquisitions whose increments
come before that point. -/
structure Covered (found : SessionObject) (numbers : List Nat) : Prop where
  given : ∀ number ∈ numbers, number ≤ found.acquired
  backed : ∀ early late, found.session.posted = early ++ late →
    (numbers.countP (deliveredBefore found late) : Int) + decrements early ≤
      found.session.useCount + increments early

theorem covered_drop {found : SessionObject} {numbers fewer : List Nat}
    (covered : Covered found numbers) (less : List.Subperm fewer numbers) :
    Covered found fewer where
  given := by
    intro number member
    exact covered.given number (less.subset member)
  backed := by
    intro early late split
    have counted := less.countP_le (deliveredBefore found late)
    have backed := covered.backed early late split
    omega

/-- A point of a queue that grew by one event is its end or a point it had before. -/
theorem split_snoc {posted early late : List PostedEvent} {event : PostedEvent}
    (split : posted ++ [event] = early ++ late) :
    (early = posted ++ [event] ∧ late = []) ∨
      ∃ shorter, posted = early ++ shorter ∧ late = shorter ++ [event] := by
  rcases List.eq_nil_or_concat' late with rfl | ⟨shorter, last, rfl⟩
  · rw [List.append_nil] at split
    exact Or.inl ⟨split.symm, rfl⟩
  · rw [← List.append_assoc] at split
    obtain ⟨same, ends⟩ := List.append_inj' split rfl
    cases ends
    exact Or.inr ⟨shorter, same, rfl⟩

theorem countP_delivered_end {found : SessionObject} {numbers : List Nat}
    (given : ∀ number ∈ numbers, number ≤ found.acquired) :
    numbers.countP (deliveredBefore found []) = numbers.length := by
  apply List.countP_eq_length.mpr
  intro number member
  exact decide_eq_true (given number member)

theorem Covered.total {found : SessionObject} {numbers : List Nat}
    (covered : Covered found numbers) :
    (numbers.length : Int) + decrements found.session.posted ≤
      found.session.useCount + increments found.session.posted := by
  have backed := covered.backed found.session.posted [] (List.append_nil _).symm
  rw [countP_delivered_end covered.given] at backed
  exact backed

theorem Covered.useCount_nonneg {found : SessionObject} {numbers : List Nat}
    (covered : Covered found numbers) : 0 ≤ found.session.useCount := by
  have backed := covered.backed [] found.session.posted rfl
  have none : increments [] = 0 ∧ decrements [] = 0 := ⟨rfl, rfl⟩
  omega

/-- An acquisition whose increment has been delivered keeps the use count above zero. -/
theorem Covered.useCount_pos {found : SessionObject} {numbers : List Nat} {number : Nat}
    (covered : Covered found numbers) (member : number ∈ numbers)
    (delivered : deliveredBefore found found.session.posted number = true) :
    0 < found.session.useCount := by
  have backed := covered.backed [] found.session.posted rfl
  have none : increments [] = 0 ∧ decrements [] = 0 := ⟨rfl, rfl⟩
  have some : 0 < numbers.countP (deliveredBefore found found.session.posted) :=
    List.countP_pos_iff.mpr ⟨number, member, delivered⟩
  omega

theorem covered_hand_out {found : SessionObject} {numbers : List Nat}
    (covered : Covered found numbers) :
    Covered (handOut found) ((found.acquired + 1) :: numbers) := by
  have given : ∀ number ∈ (found.acquired + 1) :: numbers,
      number ≤ (handOut found).acquired := by
    intro number member
    show number ≤ found.acquired + 1
    rcases List.mem_cons.mp member with rfl | member
    · exact Nat.le_refl _
    · exact Nat.le_succ_of_le (covered.given number member)
  have one : increments [PostedEvent.incrementUseCount] = 1 := rfl
  have none : decrements [PostedEvent.incrementUseCount] = 0 := rfl
  constructor
  · exact given
  · intro early late split
    show _ ≤ found.session.useCount + _
    rcases split_snoc split with ⟨rfl, rfl⟩ | ⟨shorter, queue, rfl⟩
    · have total := covered.total
      rw [countP_delivered_end given, List.length_cons, increments_append, decrements_append]
      push_cast
      omega
    · have backed := covered.backed early shorter queue
      have same : deliveredBefore (handOut found) (shorter ++ [PostedEvent.incrementUseCount]) =
          deliveredBefore found shorter := by
        funext number
        simp only [deliveredBefore, handOut, increments_append, one, decide_eq_decide]
        omega
      have own : deliveredBefore found shorter (found.acquired + 1) = false := by
        simp only [deliveredBefore, decide_eq_false_iff_not]
        omega
      rw [same, List.countP_cons_of_neg (by simp [own])]
      exact backed

theorem covered_give_back {found : SessionObject} {number : Nat} {numbers : List Nat}
    (covered : Covered found (number :: numbers)) : Covered (giveBack found) numbers := by
  have fewer := covered_drop covered (List.subperm_cons_self (a := number))
  constructor
  · exact fewer.given
  · intro early late split
    show _ ≤ found.session.useCount + _
    rcases split_snoc split with ⟨rfl, rfl⟩ | ⟨shorter, queue, rfl⟩
    · have total := covered.total
      have none : increments [PostedEvent.decrementUseCount] = 0 := rfl
      have one : decrements [PostedEvent.decrementUseCount] = 1 := rfl
      have ends : numbers.countP (deliveredBefore (giveBack found) []) = numbers.length :=
        countP_delivered_end fewer.given
      rw [ends, increments_append, decrements_append]
      rw [List.length_cons] at total
      push_cast at total ⊢
      omega
    · have backed := fewer.backed early shorter queue
      have same : deliveredBefore (giveBack found) (shorter ++ [PostedEvent.decrementUseCount]) =
          deliveredBefore found shorter := by
        funext number
        have none : increments [PostedEvent.decrementUseCount] = 0 := rfl
        simp only [deliveredBefore, giveBack, increments_append, none, Nat.add_zero]
      rw [same]
      exact backed

/-- A step of the session's own that neither hands it out nor takes it back. -/
structure Quiet (before after : SessionObject) : Prop where
  identifier : after.session.id = before.session.id
  acquired : after.acquired = before.acquired
  released : after.released = before.released
  covered : ∀ numbers, Covered before numbers → Covered after numbers

theorem Quiet.refl (found : SessionObject) : Quiet found found :=
  ⟨rfl, rfl, rfl, fun _ covered => covered⟩

theorem Quiet.trans {first second third : SessionObject} (early : Quiet first second)
    (late : Quiet second third) : Quiet first third where
  identifier := late.identifier.trans early.identifier
  acquired := late.acquired.trans early.acquired
  released := late.released.trans early.released
  covered := fun numbers covered => late.covered numbers (early.covered numbers covered)

theorem quiet_session {found : SessionObject} {session : ViriditySession}
    (identifier : session.id = found.session.id)
    (count : session.useCount = found.session.useCount)
    (queue : session.posted = found.session.posted) :
    Quiet found { found with session := session } where
  identifier := identifier
  acquired := rfl
  released := rfl
  covered := by
    intro numbers covered
    constructor
    · exact covered.given
    · intro early late split
      show _ ≤ session.useCount + _
      rw [count]
      exact covered.backed early late (queue.symm.trans split)

theorem quiet_post {event : PostedEvent} {found : SessionObject}
    (neutral : ViriditySession.useChange event = 0) :
    Quiet found (changeSession (fun session => session.post event) found) where
  identifier := rfl
  acquired := rfl
  released := rfl
  covered := by
    intro numbers covered
    have none : increments [event] = 0 ∧ decrements [event] = 0 := by
      cases event <;> first | exact ⟨rfl, rfl⟩ | cases neutral
    constructor
    · exact covered.given
    · intro early late split
      show _ ≤ found.session.useCount + _
      rcases split_snoc split with ⟨rfl, rfl⟩ | ⟨shorter, queue, rfl⟩
      · have total := covered.total
        have ends := countP_delivered_end covered.given
        rw [increments_append, decrements_append, none.1, none.2]
        exact ends ▸ total
      · have backed := covered.backed early shorter queue
        have same : ∀ number, deliveredBefore
            (changeSession (fun session => session.post event) found) (shorter ++ [event]) number =
            deliveredBefore found shorter number := by
          intro number
          simp only [deliveredBefore, changeSession, increments_append, none.1, Nat.add_zero]
        rw [funext same]
        exact backed

theorem quiet_take {found : SessionObject} {session : ViriditySession} {event : PostedEvent}
    {rest : List PostedEvent} (queue : found.session.posted = event :: rest)
    (identifier : session.id = found.session.id)
    (count : session.useCount = found.session.useCount + ViriditySession.useChange event)
    (posted : session.posted = rest) : Quiet found { found with session := session } where
  identifier := identifier
  acquired := rfl
  released := rfl
  covered := by
    intro numbers covered
    constructor
    · exact covered.given
    · intro early late split
      show (numbers.countP (deliveredBefore found late) : Int) + _ ≤ session.useCount + _
      have whole : found.session.posted = (event :: early) ++ late := by
        rw [queue, ← posted, List.cons_append]
        exact congrArg (event :: ·) split
      have backed := covered.backed (event :: early) late whole
      have effect : (increments (event :: early) : Int) - decrements (event :: early) =
          ViriditySession.useChange event + increments early - decrements early := by
        cases event <;> simp [increments, decrements, ViriditySession.useChange] <;> omega
      omega

theorem quiet_run {found : SessionObject} {session : ViriditySession} {event : PostedEvent}
    {rest : List PostedEvent} {now : Nat} (queue : found.session.posted = event :: rest)
    (ran : ViriditySession.runEvent { found.session with posted := rest } now event =
      some session) :
    Quiet found { found with session := session } := by
  cases event with
  | incrementUseCount =>
      cases ran
      apply quiet_take queue
      · exact ViriditySession.id_increment _ now
      · unfold ViriditySession.incrementUseCount
        dsimp only
        split_ifs <;> rfl
      · unfold ViriditySession.incrementUseCount
        dsimp only
        split_ifs <;> rfl
  | decrementUseCount =>
      cases ran
      exact quiet_take queue rfl rfl rfl
  | sendMessageToHandlers =>
      cases ran
      exact quiet_take queue rfl (Int.add_zero _).symm rfl
  | deleteLater =>
      cases ran
      have taken : Quiet found
          { found with session := { found.session with posted := rest } } :=
        quiet_take queue rfl (Int.add_zero _).symm rfl
      exact taken.trans (quiet_post rfl)
  | deferredDelete => cases ran

/-- Every session alive after the step was so before and changed quietly. -/
structure QuietStep (before after : SessionManager) : Prop where
  objects : ∀ object found, after.objects object = some found →
    ∃ was, before.objects object = some was ∧ Quiet was found
  nextObject : before.nextObject = after.nextObject

theorem QuietStep.refl (manager : SessionManager) : QuietStep manager manager where
  objects := by
    intro object found present
    exact ⟨found, present, Quiet.refl found⟩
  nextObject := rfl

theorem QuietStep.trans {first second third : SessionManager} (early : QuietStep first second)
    (late : QuietStep second third) : QuietStep first third where
  objects := by
    intro object found present
    obtain ⟨middle, between, last⟩ := late.objects object found present
    obtain ⟨was, held, start⟩ := early.objects object middle between
    exact ⟨was, held, start.trans last⟩
  nextObject := early.nextObject.trans late.nextObject

theorem quiet_modify (manager : SessionManager) (object : Nat)
    {change : ViriditySession → ViriditySession}
    (quiet : ∀ found, Quiet found (changeSession change found)) :
    QuietStep manager (manager.modify object (changeSession change)) where
  objects := by
    intro other found present
    obtain ⟨was, held, rfl | rfl⟩ := modify_some present
    · exact ⟨found, held, Quiet.refl found⟩
    · exact ⟨was, held, quiet was⟩
  nextObject := rfl

theorem quiet_get (manager : SessionManager) (id : String) :
    QuietStep manager (manager.getSession id).1 := by
  unfold getSession
  split
  · split_ifs
    · exact QuietStep.refl manager
    · exact ⟨(QuietStep.refl manager).objects, rfl⟩
  · exact QuietStep.refl manager

theorem quiet_dispatch (manager : SessionManager) (id : String) :
    QuietStep manager (manager.dispatchMessageToHandlers id) := by
  have looked := quiet_get manager id
  unfold SessionManager.dispatchMessageToHandlers
  split
  · rename_i found object result
    rw [result] at looked
    exact looked.trans (quiet_modify found object fun _ => quiet_post rfl)
  · rename_i found result
    rw [result] at looked
    exact looked

theorem quiet_sweep (manager : SessionManager) (object : Nat) :
    QuietStep manager (manager.sweepSession object) := by
  unfold sweepSession
  split
  · exact QuietStep.refl manager
  · rename_i found _
    split_ifs
    · exact ⟨(QuietStep.refl manager).objects, rfl⟩
    · unfold removeSession
      have filtered : QuietStep manager { manager with
          sessions := manager.sessions.filter fun entry => entry.1 ≠ found.session.id } :=
        ⟨(QuietStep.refl manager).objects, rfl⟩
      apply filtered.trans
      apply quiet_modify
      intro leaving
      have signalled : Quiet leaving
          (changeSession (fun session => session.emitSignal .deinitializing) leaving) :=
        quiet_session rfl rfl rfl
      exact signalled.trans (quiet_post rfl)
    · exact QuietStep.refl manager

theorem quiet_kill (manager : SessionManager) (lockFree : Bool) :
    QuietStep manager (manager.killExpiredSessions lockFree) := by
  have swept : ∀ objects : List Nat, ∀ start,
      QuietStep start (objects.foldl sweepSession start) := by
    intro objects
    induction objects with
    | nil => exact QuietStep.refl
    | cons object rest induction =>
        intro start
        exact (quiet_sweep start object).trans (induction _)
  unfold killExpiredSessions
  split_ifs
  · exact swept _ manager
  · exact QuietStep.refl manager

theorem quiet_deliver {manager after : SessionManager} {object : Nat}
    (taken : manager.deliverEvent object = some after) : QuietStep manager after := by
  obtain ⟨found, event, rest, held, queue, rfl⟩ := deliver_event_cases taken
  constructor
  · intro other slot present
    by_cases same : other = object
    · subst same
      simp only [Function.update_self, Option.map_eq_some_iff] at present
      obtain ⟨session, ran, rfl⟩ := present
      exact ⟨found, held, quiet_run queue ran⟩
    · simp only [Function.update_of_ne same] at present
      exact ⟨slot, present, Quiet.refl slot⟩
  · rfl

theorem quiet_session_step {manager after : SessionManager} {object : Nat}
    {guard : ViriditySession → Bool} {change : ViriditySession → ViriditySession}
    (quiet : ∀ found, Quiet found (changeSession change found))
    (taken : sessionStep manager object guard change = some after) : QuietStep manager after := by
  rw [session_step_eq taken]
  exact quiet_modify manager object quiet

/-- The actions that neither hand out nor take back nor create a session. -/
def isQuiet : ManagerAction → Bool
  | .createSession _ _ | .insertSession _ | .acquireSession _ | .releaseSession _ => false
  | _ => true

theorem quiet_step {manager after : SessionManager} {action : ManagerAction}
    (quiet : isQuiet action = true) (taken : managerStep manager action = some after) :
    QuietStep manager after := by
  cases action with
  | getSession id =>
      cases taken
      exact quiet_get manager id
  | dispatchMessageToHandlers id =>
      cases taken
      exact quiet_dispatch manager id
  | deliverEvent object => exact quiet_deliver taken
  | detachDeferTimerTimeout object =>
      simp only [managerStep] at taken
      apply quiet_session_step _ taken
      intro found
      apply quiet_session <;>
        (unfold ViriditySession.detachDeferTimerTimeout; dsimp only; split_ifs <;> rfl)
  | interactionCheckTimerTimeout object =>
      simp only [managerStep] at taken
      exact quiet_session_step (fun _ => quiet_session rfl rfl rfl) taken
  | testForInteractivity object =>
      simp only [managerStep] at taken
      apply quiet_session_step _ taken
      intro found
      apply quiet_session <;>
        (unfold ViriditySession.testForInteractivity; split_ifs <;> rfl)
  | requestReleaseAndWait object =>
      simp only [managerStep] at taken
      apply quiet_session_step _ taken
      intro found
      apply quiet_session <;>
        (unfold ViriditySession.requestReleaseAndWait; split_ifs <;> rfl)
  | leaveTest object =>
      simp only [managerStep] at taken
      exact quiet_session_step (fun _ => quiet_session rfl rfl rfl) taken
  | elapse milliseconds =>
      cases taken
      exact ⟨(QuietStep.refl manager).objects, rfl⟩
  | killExpiredSessions lockFree =>
      cases taken
      exact quiet_kill manager lockFree
  | createSession _ _ | insertSession _ | acquireSession _ | releaseSession _ => cases quiet

def numbersAt (holdings : List Use) (object : Nat) : List Nat :=
  (holdings.filter fun use => use.object = object).map Use.number

@[simp] theorem numbersAt_cons_same (use : Use) (holdings : List Use) :
    numbersAt (use :: holdings) use.object = use.number :: numbersAt holdings use.object := by
  simp [numbersAt]

theorem numbersAt_cons_other {use : Use} {object : Nat} (other : use.object ≠ object)
    (holdings : List Use) : numbersAt (use :: holdings) object = numbersAt holdings object := by
  simp [numbersAt, other]

theorem numbersAt_append (early late : List Use) (object : Nat) :
    numbersAt (early ++ late) object = numbersAt early object ++ numbersAt late object := by
  simp [numbersAt]

theorem numbersAt_subperm {fewer holdings : List Use} (less : List.Subperm fewer holdings)
    (object : Nat) : List.Subperm (numbersAt fewer object) (numbersAt holdings object) := by
  obtain ⟨among, same, sublist⟩ := less.filter fun use => use.object = object
  exact ⟨among.map Use.number, same.map _, sublist.map _⟩

theorem mem_numbersAt {use : Use} {holdings : List Use} (member : use ∈ holdings) :
    use.number ∈ numbersAt holdings use.object := by
  apply List.mem_map_of_mem
  exact List.mem_filter.mpr ⟨member, decide_eq_true rfl⟩

theorem numbersAt_unallocated {holdings : List Use} {bound : Nat}
    (allocated : ∀ use ∈ holdings, use.object < bound) : numbersAt holdings bound = [] := by
  unfold numbersAt
  rw [List.map_eq_nil_iff, List.filter_eq_nil_iff]
  intro use member
  have below := allocated use member
  simp only [decide_eq_true_eq]
  omega

/-- The books of the manager, with every acquisition somebody still holds covered. -/
structure HoldingsKept (manager : SessionManager) (holdings : List Use) : Prop where
  books : ManagerKept manager
  covered : ∀ object found, manager.objects object = some found →
    Covered found (numbersAt holdings object)
  allocated : ∀ use ∈ holdings, use.object < manager.nextObject

theorem holdings_drop {manager : SessionManager} {holdings fewer : List Use}
    (kept : HoldingsKept manager holdings) (less : List.Subperm fewer holdings) :
    HoldingsKept manager fewer where
  books := kept.books
  covered := by
    intro object found held
    exact covered_drop (kept.covered object found held) (numbersAt_subperm less object)
  allocated := by
    intro use member
    exact kept.allocated use (less.subset member)

theorem holdings_quiet {before after : SessionManager} {holdings : List Use}
    (kept : HoldingsKept before holdings) (books : ManagerKept after)
    (quiet : QuietStep before after) : HoldingsKept after holdings where
  books := books
  covered := by
    intro object found present
    obtain ⟨was, held, quietly⟩ := quiet.objects object found present
    exact quietly.covered _ (kept.covered object was held)
  allocated := by
    intro use member
    rw [← quiet.nextObject]
    exact kept.allocated use member

/-- A step that hands out one session and leaves the others alone. -/
def HandsOut (before after : SessionManager) (use : Use) : Prop :=
  ∃ found, before.objects use.object = some found ∧ use.number = found.acquired + 1 ∧
    after.objects = Function.update before.objects use.object (some (handOut found)) ∧
    after.nextObject = before.nextObject

theorem hands_out_modify {before middle : SessionManager} {object : Nat} {found : SessionObject}
    (held : before.objects object = some found) (same : middle.objects = before.objects)
    (next : middle.nextObject = before.nextObject) :
    HandsOut before (middle.modify object handOut)
      (useOf (middle.modify object handOut) object) := by
  have here : middle.objects object = some found := by
    rw [same]
    exact held
  refine ⟨found, held, ?_, ?_, next⟩
  · simp [useOf, SessionManager.modify, here, handOut]
  · show Function.update middle.objects object _ = Function.update before.objects object _
    rw [here, same, Option.map_some]

theorem hands_out_acquire {manager after : SessionManager} {id : String} {object : Nat}
    (acquired : manager.acquireSession id = (after, some object))
    (alive : (after.objects object).isSome = true) :
    HandsOut manager after (useOf after object) := by
  unfold SessionManager.acquireSession at acquired
  split at acquired
  · rename_i looked _ result
    cases acquired
    have same : looked.objects = manager.objects ∧ looked.nextObject = manager.nextObject := by
      have first := congrArg Prod.fst result
      unfold getSession at first
      split at first
      · split_ifs at first <;> subst first <;> exact ⟨rfl, rfl⟩
      · subst first
        exact ⟨rfl, rfl⟩
    obtain ⟨found, present⟩ := Option.isSome_iff_exists.mp alive
    obtain ⟨was, held, _⟩ := modify_some present
    exact hands_out_modify (same.1 ▸ held) same.1 same.2
  · cases acquired

theorem hands_out_insert {manager after : SessionManager} {object : Nat}
    (taken : managerStep manager (.insertSession object) = some after) :
    HandsOut manager after (useOf after object) := by
  simp only [managerStep] at taken
  split at taken
  · cases taken
  · rename_i found held
    split_ifs at taken
    cases taken
    exact hands_out_modify held rfl rfl

theorem holdings_hands_out {before after : SessionManager} {holdings : List Use} {use : Use}
    (kept : HoldingsKept before holdings) (books : ManagerKept after)
    (handed : HandsOut before after use) : HoldingsKept after (use :: holdings) where
  books := books
  covered := by
    obtain ⟨found, held, number, objects, _⟩ := handed
    intro object slot present
    rw [objects] at present
    by_cases same : object = use.object
    · subst same
      rw [Function.update_self, Option.some.injEq] at present
      subst present
      rw [numbersAt_cons_same, number]
      exact covered_hand_out (kept.covered use.object found held)
    · rw [Function.update_of_ne same] at present
      rw [numbersAt_cons_other (Ne.symm same)]
      exact kept.covered object slot present
  allocated := by
    obtain ⟨found, held, _, _, next⟩ := handed
    intro other member
    rw [next]
    rcases List.mem_cons.mp member with rfl | member
    · exact kept.books.allocated other.object found held
    · exact kept.allocated other member

theorem holdings_give_back {manager : SessionManager} {holdings : List Use} {use : Use}
    (kept : HoldingsKept manager (use :: holdings)) :
    HoldingsKept (manager.releaseSession use.object) holdings where
  books := kept_modify kept.books use.object books_give_back
  covered := by
    intro object slot present
    obtain ⟨found, held, changed⟩ := modify_some present
    have covered := kept.covered object found held
    unfold SessionManager.releaseSession SessionManager.modify at present
    by_cases same : object = use.object
    · subst same
      simp only [Function.update_self, held, Option.map_some, Option.some.injEq] at present
      subst present
      rw [numbersAt_cons_same] at covered
      exact covered_give_back covered
    · simp only [Function.update_of_ne same, held, Option.some.injEq] at present
      subst present
      rw [numbersAt_cons_other (Ne.symm same)] at covered
      exact covered
  allocated := by
    intro other member
    exact kept.allocated other (List.mem_cons_of_mem _ member)

theorem holdings_create {manager : SessionManager} {holdings : List Use}
    (kept : HoldingsKept manager holdings) (id : String) (lockFree : Bool) :
    HoldingsKept (manager.createSession id lockFree) holdings := by
  have swept : HoldingsKept (manager.killExpiredSessions lockFree) holdings :=
    holdings_quiet kept (kept_kill kept.books lockFree) (quiet_kill manager lockFree)
  constructor
  · exact kept_create kept.books id lockFree
  · intro object found present
    unfold SessionManager.createSession at present
    by_cases same : object = (manager.killExpiredSessions lockFree).nextObject
    · have nobody : numbersAt holdings object = [] := by
        rw [same]
        exact numbersAt_unallocated swept.allocated
      simp only [same, Function.update_self, Option.some.injEq] at present
      subst present
      rw [nobody]
      constructor
      · intro number member
        cases member
      · intro early late split
        have empty := List.append_eq_nil_iff.mp split.symm
        rw [empty.1]
        exact Int.le_refl _
    · simp only [Function.update_of_ne same] at present
      exact swept.covered object found present
  · intro use member
    exact Nat.lt_succ_of_lt (swept.allocated use member)

/-- Every acquisition not yet given back is held by somebody. -/
def Exact (manager : SessionManager) (holdings : List Use) : Prop :=
  ∀ object found, manager.objects object = some found →
    found.acquired = found.released + (numbersAt holdings object).length

theorem exact_perm {manager : SessionManager} {first second : List Use}
    (same : first.Perm second) : Exact manager first ↔ Exact manager second := by
  have counts : ∀ object, (numbersAt first object).length = (numbersAt second object).length := by
    intro object
    exact ((same.filter _).map _).length_eq
  simp only [Exact, counts]

theorem exact_quiet {before after : SessionManager} {holdings : List Use}
    (balanced : Exact before holdings) (quiet : QuietStep before after) :
    Exact after holdings := by
  intro object found present
  obtain ⟨was, held, quietly⟩ := quiet.objects object found present
  rw [quietly.acquired, quietly.released]
  exact balanced object was held

theorem exact_hands_out {before after : SessionManager} {holdings : List Use} {use : Use}
    (handed : HandsOut before after use) :
    Exact after (use :: holdings) ↔ Exact before holdings := by
  obtain ⟨found, held, _, objects, _⟩ := handed
  apply forall_congr'
  intro object
  rw [objects]
  by_cases same : object = use.object
  · subst same
    simp only [Function.update_self, held, Option.some.injEq, forall_eq', numbersAt_cons_same,
      List.length_cons, handOut]
    omega
  · rw [Function.update_of_ne same, numbersAt_cons_other (Ne.symm same)]

theorem exact_give_back {manager : SessionManager} {holdings : List Use} {use : Use}
    (balanced : Exact manager (use :: holdings)) :
    Exact (manager.releaseSession use.object) holdings := by
  intro object slot present
  obtain ⟨found, held, changed⟩ := modify_some present
  have before := balanced object found held
  unfold SessionManager.releaseSession SessionManager.modify at present
  by_cases same : object = use.object
  · subst same
    simp only [Function.update_self, held, Option.map_some, Option.some.injEq] at present
    subst present
    rw [numbersAt_cons_same, List.length_cons] at before
    simp only [giveBack]
    omega
  · simp only [Function.update_of_ne same, held, Option.some.injEq] at present
    subst present
    rw [numbersAt_cons_other (Ne.symm same)] at before
    exact before

theorem exact_forget {manager : SessionManager} {forgotten rest : List Use}
    (balanced : Exact manager (forgotten ++ rest)) :
    Exact manager rest ↔ ∀ use ∈ forgotten, manager.objects use.object = none := by
  have counted : ∀ object, (numbersAt (forgotten ++ rest) object).length =
      (numbersAt forgotten object).length + (numbersAt rest object).length := by
    intro object
    rw [numbersAt_append, List.length_append]
  constructor
  · intro without use member
    cases held : manager.objects use.object with
    | none => rfl
    | some found =>
        have before := balanced use.object found held
        have later := without use.object found held
        have some := List.length_pos_of_mem (mem_numbersAt member)
        rw [counted] at before
        omega
  · intro dead object found held
    have nobody : numbersAt forgotten object = [] := by
      unfold numbersAt
      rw [List.map_eq_nil_iff, List.filter_eq_nil_iff]
      intro use member same
      have gone := dead use member
      rw [of_decide_eq_true same, held] at gone
      cases gone
    have before := balanced object found held
    rw [counted, nobody] at before
    simpa using before

theorem exact_create {manager : SessionManager} {holdings : List Use}
    (kept : HoldingsKept manager holdings) (balanced : Exact manager holdings) (id : String)
    (lockFree : Bool) : Exact (manager.createSession id lockFree) holdings := by
  have quiet := quiet_kill manager lockFree
  have swept := exact_quiet balanced quiet
  intro object found present
  unfold SessionManager.createSession at present
  by_cases same : object = (manager.killExpiredSessions lockFree).nextObject
  · have nobody : numbersAt holdings object = [] := by
      rw [same, ← quiet.nextObject]
      exact numbersAt_unallocated kept.allocated
    simp only [same, Function.update_self, Option.some.injEq] at present
    subst present
    rw [nobody]
    rfl
  · simp only [Function.update_of_ne same] at present
    exact swept object found present

/-- The use count of every session and what is queued add up to its holders. -/
structure Accounted (manager : SessionManager) (holdings : List Use) : Prop where
  counted : ∀ object found, manager.objects object = some found →
    found.session.useCount + found.session.queuedUses = (numbersAt holdings object).length
  nonnegative : ∀ object found, manager.objects object = some found →
    0 ≤ found.session.useCount
  unused : ∀ object found, manager.objects object = some found →
    numbersAt holdings object = [] → found.session.queuedUses = 0 → found.session.useCount = 0

theorem accounted_iff_exact {manager : SessionManager} {holdings : List Use}
    (kept : HoldingsKept manager holdings) :
    Accounted manager holdings ↔ Exact manager holdings := by
  have books : ∀ object found, manager.objects object = some found →
      found.session.useCount + found.session.queuedUses =
        (found.acquired : Int) - found.released := kept.books.accounted
  constructor
  · intro accounted object found held
    have counted := accounted.counted object found held
    have balance := books object found held
    omega
  · intro balanced
    have counted : ∀ object found, manager.objects object = some found →
        found.session.useCount + found.session.queuedUses =
          (numbersAt holdings object).length := by
      intro object found held
      have balance := books object found held
      have exactly := balanced object found held
      omega
    constructor
    · exact counted
    · intro object found held
      exact (kept.covered object found held).useCount_nonneg
    · intro object found held nobody nothing
      have total := counted object found held
      rw [nobody, List.length_nil] at total
      omega

end Viridity.SessionHoldings
