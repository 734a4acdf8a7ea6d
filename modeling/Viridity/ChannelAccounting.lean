import Viridity.ChannelHandlers

/-!
# Use counts and channel handlers

Every step of a handler is quiet, hands a session out or takes it back; beside that it may
forget what `session_` pointed to. The use count of a session stays the number of its
holders in exactly the runs in which nothing is forgotten.
-/

namespace Viridity.ChannelAccounting

open Viridity.LabelledRuns
open Viridity.SessionUse
open Viridity.SessionExpiry
open Viridity.SessionExpiry.SessionManager hiding start
open Viridity.SessionHoldings
open Viridity.ChannelHandlers
open Viridity.ChannelHandlers.ChannelHandler

set_option autoImplicit false

def Survives (before after : SessionManager) : Prop :=
  ∀ object, (before.objects object).isSome = true → (after.objects object).isSome = true

theorem survives_modify (manager : SessionManager) (object : Nat)
    (change : SessionObject → SessionObject) : Survives manager (manager.modify object change) := by
  intro other alive
  unfold SessionManager.modify
  by_cases same : other = object
  · subst same
    simpa using alive
  · simpa [Function.update_of_ne same] using alive

theorem survives_same {before after : SessionManager} (same : after.objects = before.objects) :
    Survives before after := by
  intro object alive
  rw [same]
  exact alive

theorem get_objects (manager : SessionManager) (id : String) :
    (manager.getSession id).1.objects = manager.objects := by
  unfold getSession
  split
  · split_ifs <;> rfl
  · rfl

theorem survives_acquire (manager : SessionManager) (id : String) :
    Survives manager (manager.acquireSession id).1 := by
  have same := get_objects manager id
  unfold SessionManager.acquireSession
  split
  · rename_i looked object result
    rw [result] at same
    intro other alive
    exact survives_modify looked object _ other (survives_same same other alive)
  · rename_i looked result
    rw [result] at same
    exact survives_same same

theorem survives_dispatch (manager : SessionManager) (id : String) :
    Survives manager (manager.dispatchMessageToHandlers id) := by
  have same := get_objects manager id
  unfold SessionManager.dispatchMessageToHandlers
  split
  · rename_i looked object result
    rw [result] at same
    intro other alive
    exact survives_modify looked object _ other (survives_same same other alive)
  · rename_i looked result
    rw [result] at same
    exact survives_same same

theorem survives_sweep (manager : SessionManager) (object : Nat) :
    Survives manager (manager.sweepSession object) := by
  unfold sweepSession
  split
  · exact survives_same rfl
  · split_ifs
    · exact survives_same rfl
    · exact survives_modify _ object _
    · exact survives_same rfl

theorem survives_kill (manager : SessionManager) (lockFree : Bool) :
    Survives manager (manager.killExpiredSessions lockFree) := by
  have swept : ∀ objects : List Nat, ∀ start,
      Survives start (objects.foldl sweepSession start) := by
    intro objects
    induction objects with
    | nil =>
        intro start
        exact survives_same rfl
    | cons object rest induction =>
        intro start other alive
        exact induction _ other (survives_sweep start object other alive)
  unfold killExpiredSessions
  split_ifs
  · exact swept _ manager
  · exact survives_same rfl

theorem survives_create (manager : SessionManager) (id : String) (lockFree : Bool) :
    Survives manager (manager.createSession id lockFree) := by
  intro object alive
  have swept := survives_kill manager lockFree object alive
  unfold SessionManager.createSession
  by_cases same : object = (manager.killExpiredSessions lockFree).nextObject
  · simp [same]
  · simpa [Function.update_of_ne same] using swept

theorem survives_session_step {manager after : SessionManager} {object : Nat}
    {guard : ViriditySession → Bool} {change : ViriditySession → ViriditySession}
    (taken : sessionStep manager object guard change = some after) : Survives manager after := by
  rw [session_step_eq taken]
  exact survives_modify manager object _

theorem survives_deliver {manager after : SessionManager} {object : Nat}
    (taken : manager.deliverEvent object = some after)
    (stays : destroysNext manager object = false) : Survives manager after := by
  obtain ⟨found, event, rest, held, queue, rfl⟩ := deliver_event_cases taken
  simp only [destroysNext, held, queue, List.head?_cons, Option.some.injEq,
    decide_eq_false_iff_not] at stays
  intro other alive
  by_cases same : other = object
  · subst same
    cases event <;> first | exact absurd rfl stays | simp [ViriditySession.runEvent]
  · simpa [Function.update_of_ne same] using alive

theorem survives_step {manager after : SessionManager} {action : ManagerAction}
    (taken : managerStep manager action = some after)
    (stays : ∀ object, action = .deliverEvent object → destroysNext manager object = false) :
    Survives manager after := by
  cases action with
  | createSession id lockFree =>
      cases taken
      exact survives_create manager id lockFree
  | insertSession object =>
      simp only [managerStep] at taken
      split at taken
      · cases taken
      · split_ifs at taken
        cases taken
        exact survives_modify _ object _
  | getSession id =>
      cases taken
      exact survives_same (get_objects manager id)
  | acquireSession id =>
      cases taken
      exact survives_acquire manager id
  | releaseSession object =>
      simp only [managerStep] at taken
      split_ifs at taken
      cases taken
      exact survives_modify manager object _
  | dispatchMessageToHandlers id =>
      cases taken
      exact survives_dispatch manager id
  | deliverEvent object => exact survives_deliver taken (stays object rfl)
  | detachDeferTimerTimeout object =>
      simp only [managerStep] at taken
      exact survives_session_step taken
  | interactionCheckTimerTimeout object =>
      simp only [managerStep] at taken
      exact survives_session_step taken
  | testForInteractivity object =>
      simp only [managerStep] at taken
      exact survives_session_step taken
  | requestReleaseAndWait object =>
      simp only [managerStep] at taken
      exact survives_session_step taken
  | leaveTest object =>
      simp only [managerStep] at taken
      exact survives_session_step taken
  | elapse milliseconds =>
      cases taken
      exact survives_same rfl
  | killExpiredSessions lockFree =>
      cases taken
      exact survives_kill manager lockFree

/-- The acquisitions a step of the handler forgets: `session_` is assigned while it still
points to a session. -/
def dropped (handler : ChannelHandler) : HandlerAction → List Use
  | .acquire =>
      match handler.calls with
      | .free _ _ :: _ => if handler.kind = .longPolling then [] else handler.session.toList
      | .polling _ :: _ => handler.session.toList
      | _ => []
  | .insertSession => if handler.kind = .longPolling then [] else handler.session.toList
  | .answerInUse => if handler.kind = .sse then handler.session.toList else []
  | _ => []

inductive Effect (manager after : SessionManager) (handler changed : ChannelHandler)
    (forgotten : List Use) : Prop
  | quiet (steps : QuietStep manager after)
      (same : handler.uses.Perm (forgotten ++ changed.uses))
  | created (id : String) (lockFree : Bool) (made : after = manager.createSession id lockFree)
      (same : handler.uses.Perm (forgotten ++ changed.uses))
  | handedOut (use : Use) (handed : HandsOut manager after use)
      (more : (use :: handler.uses).Perm (forgotten ++ changed.uses))
  | givenBack (use : Use) (done : after = manager.releaseSession use.object)
      (fewer : handler.uses.Perm (use :: (forgotten ++ changed.uses)))

/-- The session a handler holds is alive and its `destroyed` signal connected. -/
def Attached (manager : SessionManager) (handler : ChannelHandler) : Prop :=
  ∀ use, handler.session = some use →
    use.object ∈ handler.connected ∧ (manager.objects use.object).isSome = true

theorem attached_none {manager : SessionManager} {handler : ChannelHandler}
    (free : handler.session = none) : Attached manager handler := by
  intro use held
  rw [free] at held
  cases held

theorem attached_attach {manager : SessionManager} {handler : ChannelHandler} {use : Use}
    (alive : (manager.objects use.object).isSome = true) :
    Attached manager (handler.attach use) := by
  intro other held
  cases held
  exact ⟨List.mem_cons_self, alive⟩

theorem attached_survives {before after : SessionManager} {handler changed : ChannelHandler}
    (attached : Attached before handler) (survives : Survives before after)
    (unmoved : changed.session = handler.session ∧ changed.connected = handler.connected) :
    Attached after changed := by
  intro use held
  rw [unmoved.1] at held
  rw [unmoved.2]
  obtain ⟨connected, alive⟩ := attached use held
  exact ⟨connected, survives use.object alive⟩

/-- A step of a handler, with what it means for the books. -/
structure Bookkeeping (manager after : SessionManager) (handler changed : ChannelHandler)
    (action : HandlerAction) (forgotten : List Use) : Prop where
  managed : after = manager ∨ ∃ managed, managerStep manager managed = some after ∧
    ∀ id lockFree, managed = .createSession id lockFree → action = .createSession id lockFree
  survives : Survives manager after
  attached : Attached manager handler → Attached after changed
  effect : Effect manager after handler changed forgotten

theorem bookkeeping_same (manager : SessionManager) {handler changed : ChannelHandler}
    {action : HandlerAction} {forgotten : List Use}
    (same : handler.uses.Perm (forgotten ++ changed.uses))
    (attached : Attached manager handler → Attached manager changed) :
    Bookkeeping manager manager handler changed action forgotten where
  managed := Or.inl rfl
  survives := survives_same rfl
  attached := attached
  effect := Effect.quiet (QuietStep.refl manager) same

theorem bookkeeping_proceed (manager : SessionManager) {handler changed : ChannelHandler}
    {action : HandlerAction} (same : changed.uses = handler.uses)
    (unmoved : changed.session = handler.session ∧ changed.connected = handler.connected) :
    Bookkeeping manager manager handler changed action [] := by
  apply bookkeeping_same manager
  · rw [List.nil_append, same]
  · intro attached
    exact attached_survives attached (survives_same rfl) unmoved

theorem bookkeeping_quiet {manager after : SessionManager} {managed : ManagerAction}
    {handler changed : ChannelHandler} {action : HandlerAction} (quiet : isQuiet managed = true)
    (stays : ∀ object, managed ≠ .deliverEvent object)
    (taken : managerStep manager managed = some after) (same : changed.uses = handler.uses)
    (unmoved : changed.session = handler.session ∧ changed.connected = handler.connected) :
    Bookkeeping manager after handler changed action [] := by
  have survives : Survives manager after :=
    survives_step taken fun object delivers => absurd delivers (stays object)
  constructor
  · refine Or.inr ⟨managed, taken, ?_⟩
    rintro id lockFree rfl
    cases quiet
  · exact survives
  · intro attached
    exact attached_survives attached survives unmoved
  · apply Effect.quiet (quiet_step quiet taken)
    rw [List.nil_append, same]

theorem bookkeeping_release {manager after : SessionManager} {handler changed : ChannelHandler}
    {action : HandlerAction} {use : Use}
    (taken : managerStep manager (.releaseSession use.object) = some after)
    (fewer : handler.uses.Perm (use :: changed.uses))
    (attached : Attached manager handler → Survives manager after → Attached after changed) :
    Bookkeeping manager after handler changed action [] where
  managed := Or.inr ⟨_, taken, by simp⟩
  survives := survives_step taken (by simp)
  attached := fun before => attached before (survives_step taken (by simp))
  effect := by
    simp only [managerStep] at taken
    split_ifs at taken
    cases taken
    exact Effect.givenBack use rfl fewer

theorem bookkeeping_release_session {manager after : SessionManager}
    {handler released : ChannelHandler} {action : HandlerAction}
    (taken : ChannelHandlers.releaseSession manager handler = some (after, released))
    {changed : ChannelHandler} (same : changed.uses = released.uses)
    (unmoved : changed.session = released.session ∧ changed.connected = released.connected) :
    Bookkeeping manager after handler changed action [] := by
  unfold ChannelHandlers.releaseSession at taken
  split at taken
  · cases taken
    exact bookkeeping_proceed manager same unmoved
  · rename_i use held
    simp only [Option.map_eq_some_iff, Prod.mk.injEq] at taken
    obtain ⟨_, given, rfl, rfl⟩ := taken
    apply bookkeeping_release given
    · rw [same]
      simp [uses, held]
    · intro _ _
      exact attached_none unmoved.1

theorem acquire_alive {manager after : SessionManager} {id : String} {use : Use}
    (acquired : acquire manager id = some (after, use)) :
    (after.objects use.object).isSome = true := by
  unfold acquire at acquired
  split at acquired
  · split_ifs at acquired with alive
    cases acquired
    exact alive
  · cases acquired

theorem bookkeeping_acquire {manager after : SessionManager} {id : String} {use : Use}
    {handler changed : ChannelHandler} {action : HandlerAction} {forgotten : List Use}
    (acquired : acquire manager id = some (after, use))
    (more : (use :: handler.uses).Perm (forgotten ++ changed.uses))
    (attached : Attached manager handler → Survives manager after → Attached after changed) :
    Bookkeeping manager after handler changed action forgotten := by
  unfold acquire at acquired
  split at acquired
  · rename_i following object result
    split_ifs at acquired with alive
    simp only [Option.some.injEq, Prod.mk.injEq] at acquired
    obtain ⟨rfl, rfl⟩ := acquired
    have taken : managerStep manager (.acquireSession id) = some following := by
      simp only [managerStep, result]
    have survives : Survives manager following := survives_step taken (by simp)
    exact ⟨Or.inr ⟨_, taken, by simp⟩, survives, fun before => attached before survives,
      Effect.handedOut _ (hands_out_acquire result alive) more⟩
  · cases acquired

theorem insert_alive {manager after : SessionManager} {object : Nat} {use : Use}
    (acquired : getNewSession manager object = some (after, use)) :
    (after.objects use.object).isSome = true := by
  simp only [getNewSession, Option.map_eq_some_iff, Prod.mk.injEq] at acquired
  obtain ⟨following, taken, rfl, rfl⟩ := acquired
  obtain ⟨found, held, _, objects, _⟩ := hands_out_insert taken
  rw [objects]
  simp

theorem bookkeeping_insert {manager after : SessionManager} {object : Nat} {use : Use}
    {handler changed : ChannelHandler} {action : HandlerAction} {forgotten : List Use}
    (acquired : getNewSession manager object = some (after, use))
    (more : (use :: handler.uses).Perm (forgotten ++ changed.uses))
    (attached : Attached manager handler → Survives manager after → Attached after changed) :
    Bookkeeping manager after handler changed action forgotten := by
  simp only [getNewSession, Option.map_eq_some_iff, Prod.mk.injEq] at acquired
  obtain ⟨following, taken, rfl, rfl⟩ := acquired
  have survives : Survives manager following := survives_step taken (by simp)
  exact ⟨Or.inr ⟨_, taken, by simp⟩, survives, fun before => attached before survives,
    Effect.handedOut _ (hands_out_insert taken) more⟩

theorem uses_keep (handler : ChannelHandler) (use : Use) {call : Call} {rest : List Call}
    (calls : handler.calls = call :: rest) (holds : call.holds = []) :
    (use :: handler.uses).Perm
      ((if handler.kind = .longPolling then [] else handler.session.toList) ++
        (keep handler use rest).uses) := by
  have kept : (Call.temporary use).holds = [use] := rfl
  cases kind : handler.kind <;>
    simp [keep, kind, uses, proceed, attach, calls, holds, kept, List.perm_middle.symm]

theorem attached_keep {manager after : SessionManager} {handler : ChannelHandler} {use : Use}
    (attached : Attached manager handler) (survives : Survives manager after)
    (alive : (after.objects use.object).isSome = true) (rest : List Call) :
    Attached after (keep handler use rest) := by
  unfold keep
  split
  · exact attached_survives attached survives ⟨rfl, rfl⟩
  · exact attached_attach alive
  · exact attached_attach alive

theorem bookkeeping_refuse (manager : SessionManager) {handler : ChannelHandler} {object : Nat}
    {rest : List Call} (calls : handler.calls = .taken object :: rest) :
    Bookkeeping manager manager handler ((handler.proceed rest).refuse object) .answerInUse
      (dropped handler .answerInUse) := by
  cases kind : handler.kind <;> apply bookkeeping_same manager
  case sse.attached =>
    intro _
    apply attached_none
    simp [refuse, kind, proceed, answer]
  case longPolling.attached | webSocket.attached =>
    intro attached
    apply attached_survives attached (survives_same rfl)
    simp [refuse, kind, proceed, answer]
  all_goals simp [dropped, kind, refuse, uses, proceed, answer, calls, Call.holds]

theorem bookkeeping_create (manager : SessionManager) {handler changed : ChannelHandler}
    (id : String) (lockFree : Bool) (same : changed.uses = handler.uses)
    (unmoved : changed.session = handler.session ∧ changed.connected = handler.connected) :
    Bookkeeping manager (manager.createSession id lockFree) handler changed
      (.createSession id lockFree) [] := by
  constructor
  · refine Or.inr ⟨.createSession id lockFree, rfl, ?_⟩
    intro other free same
    cases same
    rfl
  · exact survives_create manager id lockFree
  · intro attached
    exact attached_survives attached (survives_create manager id lockFree) unmoved
  · apply Effect.created id lockFree rfl
    rw [List.nil_append, same]

/-- A call that holds nothing enters, or takes the place of one that holds nothing. -/
theorem uses_proceed {handler : ChannelHandler} {old next : Call} {rest : List Call}
    (calls : handler.calls = old :: rest) (held : old.holds = []) (holds : next.holds = []) :
    (handler.proceed (next :: rest)).uses = handler.uses := by
  simp [uses, proceed, calls, held, holds]

theorem uses_enter (handler : ChannelHandler) {call : Call} (holds : call.holds = []) :
    (handler.enter call).uses = handler.uses := by
  simp [uses, enter, holds]

theorem handler_bookkeeping {manager after : SessionManager} {handler changed : ChannelHandler}
    {action : HandlerAction} (taken : handlerStep manager handler action = some (after, changed)) :
    Bookkeeping manager after handler changed action (dropped handler action) := by
  cases handler_move taken with
  | @missing id poll _ looked =>
      have stepped : managerStep manager (.getSession id) = some after :=
        congrArg some (congrArg Prod.fst looked)
      exact bookkeeping_quiet rfl (by simp) stepped (uses_enter handler rfl) ⟨rfl, rfl⟩
  | @found id poll _ object call looked enters =>
      have stepped : managerStep manager (.getSession id) = some after :=
        congrArg some (congrArg Prod.fst looked)
      have holds : call.holds = [] := by
        rcases enters with ⟨rfl, _⟩ | rfl | rfl <;> rfl
      exact bookkeeping_quiet rfl (by simp) stepped (uses_enter handler holds) ⟨rfl, rfl⟩
  | @tests _ _ _ _ _ call calls held stepped goesOn =>
      have holds : call.holds = [] := by
        rw [goesOn]
        split_ifs <;> rfl
      exact bookkeeping_quiet rfl (by simp) stepped (uses_proceed calls rfl holds) ⟨rfl, rfl⟩
  | releases calls held stepped used =>
      exact bookkeeping_quiet rfl (by simp) stepped (uses_proceed calls rfl rfl) ⟨rfl, rfl⟩
  | releasesNothing stepped => exact bookkeeping_quiet rfl (by simp) stepped rfl ⟨rfl, rfl⟩
  | leavesRelease calls stepped =>
      exact bookkeeping_quiet rfl (by simp) stepped (uses_proceed calls rfl rfl) ⟨rfl, rfl⟩
  | leavesTest calls stepped =>
      exact bookkeeping_quiet rfl (by simp) stepped (uses_proceed calls rfl rfl) ⟨rfl, rfl⟩
  | findsFree calls held unused =>
      exact bookkeeping_proceed manager (uses_proceed calls rfl rfl) ⟨rfl, rfl⟩
  | findsTaken calls held used =>
      exact bookkeeping_proceed manager (uses_proceed calls rfl rfl) ⟨rfl, rfl⟩
  | @reattaches _ _ rest _ use calls acquired =>
      apply bookkeeping_acquire acquired
      · simp only [dropped, calls]
        exact uses_keep handler use calls rfl
      · intro attached survives
        exact attached_keep attached survives (acquire_alive acquired) rest
  | polls calls acquired =>
      apply bookkeeping_acquire acquired
      · simp [dropped, calls, uses, proceed, attach, Call.holds, List.perm_middle.symm]
      · intro _ _
        exact attached_attach (acquire_alive acquired)
  | refuses calls => exact bookkeeping_refuse manager calls
  | @creates id lockFree rest calls =>
      exact bookkeeping_create manager id lockFree (uses_proceed calls rfl rfl) ⟨rfl, rfl⟩
  | @inserts _ rest _ use calls acquired =>
      apply bookkeeping_insert acquired
      · exact uses_keep handler use calls rfl
      · intro attached survives
        exact attached_keep attached survives (insert_alive acquired) rest
  | givesBack calls given =>
      apply bookkeeping_release given
      · simp [uses, proceed, calls, Call.holds]
      · intro attached survives
        exact attached_survives attached survives ⟨rfl, rfl⟩
  | answers given => exact bookkeeping_release_session given rfl ⟨rfl, rfl⟩
  | expires given => exact bookkeeping_release_session given rfl ⟨rfl, rfl⟩
  | expiresStale given => exact bookkeeping_release_session given rfl ⟨rfl, rfl⟩
  | stays => exact bookkeeping_proceed manager rfl ⟨rfl, rfl⟩
  | obeys given => exact bookkeeping_release_session given rfl ⟨rfl, rfl⟩
  | finishes => exact bookkeeping_proceed manager rfl ⟨rfl, rfl⟩
  | disconnects => exact bookkeeping_proceed manager rfl ⟨rfl, rfl⟩
  | ends done given => exact bookkeeping_release_session given rfl ⟨rfl, rfl⟩

theorem Bookkeeping.books {manager after : SessionManager} {handler changed : ChannelHandler}
    {action : HandlerAction} {forgotten : List Use}
    (booked : Bookkeeping manager after handler changed action forgotten)
    (kept : ManagerKept manager) : ManagerKept after := by
  rcases booked.managed with rfl | ⟨managed, taken, _⟩
  · exact kept
  · exact kept_step kept taken

theorem effect_holdings {manager after : SessionManager} {handler changed : ChannelHandler}
    {action : HandlerAction} {forgotten rest : List Use}
    (kept : HoldingsKept manager (handler.uses ++ rest))
    (booked : Bookkeeping manager after handler changed action forgotten) :
    HoldingsKept after (changed.uses ++ rest) := by
  have remaining : List.Subperm (changed.uses ++ rest) ((forgotten ++ changed.uses) ++ rest) := by
    rw [List.append_assoc]
    exact (List.sublist_append_right forgotten _).subperm
  cases booked.effect with
  | quiet steps same =>
      have before := holdings_drop kept (same.symm.append_right rest).subperm
      exact holdings_drop (holdings_quiet before (booked.books kept.books) steps) remaining
  | created id lockFree made same =>
      subst made
      have before := holdings_drop kept (same.symm.append_right rest).subperm
      exact holdings_drop (holdings_create before id lockFree) remaining
  | handedOut use handed more =>
      have between := holdings_hands_out kept (booked.books kept.books) handed
      exact holdings_drop (holdings_drop between (more.symm.append_right rest).subperm) remaining
  | givenBack use done fewer =>
      subst done
      have before := holdings_drop kept (fewer.symm.append_right rest).subperm
      exact holdings_drop (holdings_give_back before) remaining

theorem effect_exact {manager after : SessionManager} {handler changed : ChannelHandler}
    {action : HandlerAction} {forgotten rest : List Use}
    (kept : HoldingsKept manager (handler.uses ++ rest))
    (balanced : Exact manager (handler.uses ++ rest))
    (booked : Bookkeeping manager after handler changed action forgotten) :
    Exact after (changed.uses ++ rest) ↔
      ∀ use ∈ forgotten, after.objects use.object = none := by
  have accounted : Exact after (forgotten ++ (changed.uses ++ rest)) := by
    rw [← List.append_assoc]
    cases booked.effect with
    | quiet steps same =>
        exact exact_quiet ((exact_perm (same.append_right rest)).mp balanced) steps
    | created id lockFree made same =>
        subst made
        apply exact_create (holdings_drop kept (same.symm.append_right rest).subperm)
        exact (exact_perm (same.append_right rest)).mp balanced
    | handedOut use handed more =>
        apply (exact_perm (more.append_right rest)).mp
        exact (exact_hands_out handed).mpr balanced
    | givenBack use done fewer =>
        subst done
        exact exact_give_back ((exact_perm (fewer.append_right rest)).mp balanced)
  exact exact_forget accounted

/-- What holds between any two steps. -/
structure ChannelKept (system : ChannelSystem) : Prop where
  covered : HoldingsKept system.manager (holdings system)
  attached : ∀ handler ∈ system.handlers, Attached system.manager handler

def others (system : ChannelSystem) (index : Nat) : List Use :=
  (system.handlers.eraseIdx index).flatMap uses ++ system.patchRequests

theorem holdings_split {system : ChannelSystem} {index : Nat} {handler : ChannelHandler}
    (found : system.handlers[index]? = some handler) :
    (holdings system).Perm (handler.uses ++ others system index) := by
  obtain ⟨inside, rfl⟩ := List.getElem?_eq_some_iff.mp found
  have moved := (List.getElem_cons_eraseIdx_perm inside).symm.flatMap_right uses
  unfold holdings others
  rw [← List.append_assoc]
  exact moved.append_right _

theorem holdings_set (system : ChannelSystem) {index : Nat} {handler changed : ChannelHandler}
    (found : system.handlers[index]? = some handler) :
    ((system.handlers.set index changed).flatMap uses ++ system.patchRequests).Perm
      (changed.uses ++ others system index) := by
  obtain ⟨inside, rfl⟩ := List.getElem?_eq_some_iff.mp found
  have moved := (List.set_perm_cons_eraseIdx inside changed).flatMap_right uses
  unfold others
  rw [← List.append_assoc]
  exact moved.append_right _

/-- What the handlers connected to a session forget when it is destroyed. -/
def struckOut (object : Nat) (handlers : List ChannelHandler) : List Use :=
  handlers.flatMap fun handler =>
    if object ∈ handler.connected then handler.session.toList else []

theorem struck_out_split (object : Nat) (handlers : List ChannelHandler) :
    (handlers.flatMap uses).Perm
      (struckOut object handlers ++ (handlers.map (sessionDestroyed object)).flatMap uses) := by
  induction handlers with
  | nil => exact List.Perm.refl _
  | cons handler rest induction =>
      have own : handler.uses.Perm
          ((if object ∈ handler.connected then handler.session.toList else []) ++
            (sessionDestroyed object handler).uses) := by
        unfold sessionDestroyed
        split_ifs <;> simp [uses]
      have joined := own.append induction
      simp only [struckOut, List.map_cons, List.flatMap_cons, List.append_assoc] at joined ⊢
      apply joined.trans
      apply List.Perm.append_left
      rw [← List.append_assoc, ← List.append_assoc]
      exact List.perm_append_comm.append_right _

theorem attached_destroyed {before after : SessionManager} {object : Nat}
    {handler : ChannelHandler} (attached : Attached before handler)
    (stays : ∀ other, other ≠ object → (before.objects other).isSome = true →
      (after.objects other).isSome = true) :
    Attached after (sessionDestroyed object handler) := by
  unfold sessionDestroyed
  split_ifs with connected
  · exact attached_none rfl
  · intro use held
    obtain ⟨member, alive⟩ := attached use held
    have other : use.object ≠ object := by
      intro same
      exact connected (same ▸ member)
    exact ⟨member, stays use.object other alive⟩

theorem destroyed_objects {manager after : SessionManager} {object : Nat}
    (taken : manager.deliverEvent object = some after)
    (destroys : destroysNext manager object = true) :
    after.objects object = none ∧
      ∀ other, other ≠ object → after.objects other = manager.objects other := by
  obtain ⟨found, event, rest, held, queue, rfl⟩ := deliver_event_cases taken
  simp only [destroysNext, held, queue, List.head?_cons, Option.some.injEq,
    decide_eq_true_eq] at destroys
  subst destroys
  constructor
  · simp [ViriditySession.runEvent]
  · intro other different
    simp [Function.update_of_ne different]

theorem background_quiet (step : Background) : isQuiet step.action = true := by
  cases step <;> rfl

theorem background_survives {manager after : SessionManager} {step : Background}
    (taken : managerStep manager step.action = some after)
    (stays : ∀ object, step = .deliverEvent object → destroysNext manager object = false) :
    Survives manager after := by
  apply survives_step taken
  intro object delivers
  apply stays object
  cases step <;> simp only [Background.action, reduceCtorEq] at delivers
  cases delivers
  rfl

/-- What is left of the holdings after a background step, and what was forgotten. -/
def forgottenBy (system : ChannelSystem) : Background → List Use
  | .deliverEvent object =>
      if destroysNext system.manager object then struckOut object system.handlers else []
  | _ => []

theorem forgotten_split (system : ChannelSystem) (step : Background) :
    (holdings system).Perm (forgottenBy system step ++
      ((notifyDestroyed system.manager system.handlers step).flatMap uses ++
        system.patchRequests)) := by
  unfold holdings
  rw [← List.append_assoc]
  apply List.Perm.append_right
  cases step with
  | deliverEvent object =>
      simp only [forgottenBy, notifyDestroyed]
      split_ifs
      · exact struck_out_split object system.handlers
      · exact List.Perm.refl _
  | _ => exact List.Perm.refl _

theorem background_attached {system : ChannelSystem} {manager : SessionManager}
    {step : Background} (kept : ChannelKept system)
    (taken : managerStep system.manager step.action = some manager) :
    ∀ handler ∈ notifyDestroyed system.manager system.handlers step,
      Attached manager handler := by
  have spared : (∀ object, step = .deliverEvent object →
      destroysNext system.manager object = false) →
      ∀ handler ∈ system.handlers, Attached manager handler := by
    intro stays handler member
    exact attached_survives (kept.attached handler member) (background_survives taken stays)
      ⟨rfl, rfl⟩
  unfold notifyDestroyed
  split
  · rename_i object
    split_ifs with destroys
    · intro handler member
      obtain ⟨before, among, rfl⟩ := List.mem_map.mp member
      apply attached_destroyed (kept.attached before among)
      intro other different alive
      rw [(destroyed_objects taken destroys).2 other different]
      exact alive
    · apply spared
      intro other same
      cases same
      exact Bool.eq_false_iff.mpr destroys
  · rename_i delivers
    apply spared
    intro object same
    exact absurd same (delivers object)

theorem holdings_connect (system : ChannelSystem) (kind : ChannelKind) :
    holdings { system with handlers := system.handlers ++ [ChannelHandler.create kind] } =
      holdings system := by
  simp [holdings, uses, ChannelHandler.create]

theorem acquire_missing {manager after : SessionManager} {id : String}
    (acquired : manager.acquireSession id = (after, none)) :
    managerStep manager (.getSession id) = some after := by
  unfold SessionManager.acquireSession at acquired
  split at acquired
  · cases acquired
  · rename_i looked result
    cases acquired
    simp only [managerStep, result]

theorem holdings_patch {system : ChannelSystem} {index : Nat} {use : Use}
    (found : system.patchRequests[index]? = some use) :
    (holdings system).Perm
      (use :: (system.handlers.flatMap uses ++ system.patchRequests.eraseIdx index)) := by
  obtain ⟨inside, rfl⟩ := List.getElem?_eq_some_iff.mp found
  have moved := (List.getElem_cons_eraseIdx_perm inside).symm
  unfold holdings
  apply (moved.append_left _).trans
  exact List.perm_middle

theorem release_step {manager after : SessionManager} {object : Nat}
    (taken : managerStep manager (.releaseSession object) = some after) :
    after = manager.releaseSession object := by
  simp only [managerStep] at taken
  split_ifs at taken
  cases taken
  rfl

theorem kept_channel_step {system after : ChannelSystem} {action : ChannelAction}
    (kept : ChannelKept system) (taken : channelStep system action = some after) :
    ChannelKept after := by
  cases action with
  | connect kind =>
      cases taken
      constructor
      · apply holdings_drop kept.covered
        rw [holdings_connect]
      · intro handler member
        rcases List.mem_append.mp member with member | member
        · exact kept.attached handler member
        · rw [List.mem_singleton.mp member]
          exact attached_none rfl
  | handle index action =>
      simp only [channelStep, Option.bind_eq_some_iff] at taken
      obtain ⟨handler, found, taken⟩ := taken
      split_ifs at taken
      simp only [Option.map_eq_some_iff] at taken
      obtain ⟨⟨manager, changed⟩, stepped, rfl⟩ := taken
      have booked := handler_bookkeeping stepped
      have member := List.mem_of_getElem? found
      constructor
      · have before := holdings_drop kept.covered (holdings_split found).symm.subperm
        exact holdings_drop (effect_holdings before booked) (holdings_set system found).subperm
      · intro other among
        rcases List.mem_or_eq_of_mem_set among with among | rfl
        · exact attached_survives (kept.attached other among) booked.survives ⟨rfl, rfl⟩
        · exact booked.attached (kept.attached handler member)
  | acquirePatch id =>
      simp only [channelStep] at taken
      split at taken
      · rename_i manager object result
        split_ifs at taken with alive
        cases taken
        have stepped : managerStep system.manager (.acquireSession id) = some manager := by
          simp only [managerStep, result]
        constructor
        · apply holdings_drop (holdings_hands_out kept.covered
            (kept_step kept.covered.books stepped) (hands_out_acquire result alive))
          exact List.perm_middle.subperm
        · intro handler member
          exact attached_survives (kept.attached handler member)
            (survives_step stepped (by simp)) ⟨rfl, rfl⟩
      · rename_i manager result
        cases taken
        have stepped := acquire_missing result
        constructor
        · exact holdings_quiet kept.covered (kept_step kept.covered.books stepped)
            (quiet_step rfl stepped)
        · intro handler member
          exact attached_survives (kept.attached handler member)
            (survives_step stepped (by simp)) ⟨rfl, rfl⟩
  | releasePatch index =>
      simp only [channelStep, Option.bind_eq_some_iff, Option.map_eq_some_iff] at taken
      obtain ⟨use, found, manager, stepped, rfl⟩ := taken
      constructor
      · have before := holdings_drop kept.covered (holdings_patch found).symm.subperm
        have released := release_step stepped
        subst released
        exact holdings_give_back before
      · intro handler member
        exact attached_survives (kept.attached handler member)
          (survives_step stepped (by simp)) ⟨rfl, rfl⟩
  | background step =>
      simp only [channelStep, Option.map_eq_some_iff] at taken
      obtain ⟨manager, stepped, rfl⟩ := taken
      constructor
      · apply holdings_drop (holdings_quiet kept.covered (kept_step kept.covered.books stepped)
          (quiet_step (background_quiet step) stepped))
        apply List.Subperm.trans _ (forgotten_split system step).symm.subperm
        exact (List.sublist_append_right _ _).subperm
      · exact background_attached kept stepped

theorem kept_start (sessionTimeout : Int) : ChannelKept (start sessionTimeout) where
  covered := by
    constructor
    · exact SessionExpiry.kept_start sessionTimeout
    · intro object found held
      cases held
    · intro use member
      cases member
  attached := by
    intro handler member
    cases member

/-- The use counts of the living sessions agree with the handlers after the step. -/
def CountsAgree (_system : ChannelSystem) (_action : ChannelAction) (after : ChannelSystem) :
    Prop :=
  Accounted after.manager (holdings after)

/-- The step assigns no `session_` that points to a session, and it destroys no session a
handler is connected to that holds another. -/
def NothingForgotten (system : ChannelSystem) (action : ChannelAction) (_after : ChannelSystem) :
    Prop :=
  match action with
  | .handle index action =>
      ∀ handler, system.handlers[index]? = some handler → dropped handler action = []
  | .background (.deliverEvent object) =>
      destroysNext system.manager object = true → ∀ handler ∈ system.handlers,
        object ∈ handler.connected → ∀ use, handler.session = some use → use.object = object
  | _ => True

theorem dropped_held {handler : ChannelHandler} {action : HandlerAction} {use : Use}
    (member : use ∈ dropped handler action) : handler.session = some use := by
  unfold dropped at member
  split at member
  · split at member
    · split_ifs at member
      · cases member
      · exact Option.mem_toList.mp member
    · exact Option.mem_toList.mp member
    · cases member
  · split_ifs at member
    · cases member
    · exact Option.mem_toList.mp member
  · split_ifs at member
    · exact Option.mem_toList.mp member
    · cases member
  · cases member

theorem mem_struck_out {object : Nat} {handlers : List ChannelHandler} {use : Use} :
    use ∈ struckOut object handlers ↔
      ∃ handler ∈ handlers, object ∈ handler.connected ∧ handler.session = some use := by
  unfold struckOut
  rw [List.mem_flatMap]
  apply exists_congr
  intro handler
  apply and_congr_right
  intro _
  split_ifs with connected
  · simp [connected]
  · simp [connected]

/-- What a background step forgets is all of the session it destroys, or else something of
a living session is missing. -/
theorem forgotten_dead_iff {system : ChannelSystem} {manager : SessionManager} {step : Background}
    (kept : ChannelKept system) (taken : managerStep system.manager step.action = some manager)
    (after : ChannelSystem) :
    (∀ use ∈ forgottenBy system step, manager.objects use.object = none) ↔
      NothingForgotten system (.background step) after := by
  cases step with
  | deliverEvent object =>
      simp only [forgottenBy, NothingForgotten]
      by_cases destroys : destroysNext system.manager object = true
      · obtain ⟨gone, stay⟩ := destroyed_objects taken destroys
        simp only [destroys, if_true, forall_const, mem_struck_out]
        constructor
        · intro dead handler member connected use held
          by_contra different
          have alive := (kept.attached handler member use held).2
          rw [← stay use.object different, dead use ⟨handler, member, connected, held⟩] at alive
          cases alive
        · rintro same use ⟨handler, member, connected, held⟩
          rw [same handler member connected use held]
          exact gone
      · simp [destroys]
  | _ => simp [forgottenBy, NothingForgotten]

theorem agree_background {system : ChannelSystem} {manager : SessionManager} {step : Background}
    (balanced : Exact system.manager (holdings system))
    (stepped : managerStep system.manager step.action = some manager) :
    Exact manager
        ((notifyDestroyed system.manager system.handlers step).flatMap uses ++
          system.patchRequests) ↔
      ∀ use ∈ forgottenBy system step, manager.objects use.object = none := by
  apply exact_forget
  apply (exact_perm (forgotten_split system step)).mp
  exact exact_quiet balanced (quiet_step (background_quiet step) stepped)

/-- A state between two steps whose books are right. -/
structure Balanced (system : ChannelSystem) : Prop where
  kept : ChannelKept system
  exactly : Exact system.manager (holdings system)

/-- In a state whose books are right, a step leaves them right exactly if it forgets
nothing. -/
theorem agree_iff_nothing_forgotten {system after : ChannelSystem} {action : ChannelAction}
    (balanced : Balanced system) (taken : channelStep system action = some after) :
    Exact after.manager (holdings after) ↔ NothingForgotten system action after := by
  obtain ⟨kept, balanced⟩ := balanced
  cases action with
  | connect kind =>
      cases taken
      apply iff_of_true _ trivial
      rw [holdings_connect]
      exact balanced
  | handle index action =>
      simp only [channelStep, Option.bind_eq_some_iff] at taken
      obtain ⟨handler, found, taken⟩ := taken
      split_ifs at taken
      simp only [Option.map_eq_some_iff] at taken
      obtain ⟨⟨manager, changed⟩, stepped, rfl⟩ := taken
      have booked := handler_bookkeeping stepped
      have attached := kept.attached handler (List.mem_of_getElem? found)
      have covered := holdings_drop kept.covered (holdings_split found).symm.subperm
      have before := (exact_perm (holdings_split found)).mp balanced
      have exactly := effect_exact covered before booked
      have alive : (∀ use ∈ dropped handler action, manager.objects use.object = none) ↔
          dropped handler action = [] := by
        constructor
        · intro dead
          apply List.eq_nil_iff_forall_not_mem.mpr
          intro use member
          have living := booked.survives use.object (attached use (dropped_held member)).2
          rw [dead use member] at living
          cases living
        · intro empty use member
          rw [empty] at member
          cases member
      have condition : NothingForgotten system (.handle index action)
          { system with
            manager := manager
            handlers := system.handlers.set index changed
            identifiers := identifiersAfter system action } ↔ dropped handler action = [] := by
        simp only [NothingForgotten, found, Option.some.injEq, forall_eq']
      rw [condition, ← alive, ← exactly]
      exact exact_perm (holdings_set system found)
  | acquirePatch id =>
      apply iff_of_true _ trivial
      simp only [channelStep] at taken
      split at taken
      · rename_i manager object result
        split_ifs at taken with alive
        cases taken
        apply (exact_perm (@List.perm_middle _ _ (system.handlers.flatMap uses) _)).mpr
        exact (exact_hands_out (hands_out_acquire result alive)).mpr balanced
      · rename_i manager result
        cases taken
        exact exact_quiet balanced (quiet_step rfl (acquire_missing result))
  | releasePatch index =>
      apply iff_of_true _ trivial
      simp only [channelStep, Option.bind_eq_some_iff, Option.map_eq_some_iff] at taken
      obtain ⟨use, found, manager, stepped, rfl⟩ := taken
      have released := release_step stepped
      subst released
      exact exact_give_back ((exact_perm (holdings_patch found)).mp balanced)
  | background step =>
      simp only [channelStep, Option.map_eq_some_iff] at taken
      obtain ⟨manager, stepped, rfl⟩ := taken
      exact (agree_background balanced stepped).trans (forgotten_dead_iff kept stepped _)

/-- In every run, the use counts agree with the handlers after each step exactly if no step
forgets an acquisition. -/
theorem use_counts_agree (sessionTimeout : Int) (actions : List ChannelAction) :
    Along channelStep CountsAgree (start sessionTimeout) actions ↔
      Along channelStep NothingForgotten (start sessionTimeout) actions := by
  have preserved : ∀ system action after, Balanced system →
      channelStep system action = some after → CountsAgree system action after →
      Balanced after := by
    intro system action after balanced taken agree
    have next := kept_channel_step balanced.kept taken
    exact ⟨next, (accounted_iff_exact next.covered).mp agree⟩
  apply along_congr_while preserved
  · intro system action after balanced taken
    have next := kept_channel_step balanced.kept taken
    exact (accounted_iff_exact next.covered).trans
      (agree_iff_nothing_forgotten balanced taken)
  · constructor
    · exact kept_start sessionTimeout
    · intro object found held
      cases held

/-- A client asks for a session and polls it twice on one connection, the second time
before the first poll is answered. -/
def polledTwice : List ChannelAction :=
  [.connect .longPolling, .handle 0 (.request "" false), .handle 0 (.createSession "a" true),
    .handle 0 .insertSession, .handle 0 .releaseTemporary, .background (.deliverEvent 0),
    .background (.deliverEvent 0), .handle 0 (.request "a" true), .handle 0 .acquire,
    .handle 0 (.request "a" true)]

/-- The second poll overwrites `session_`, and the first acquisition is never given back. -/
theorem polled_twice_miscounts :
    ¬ ∀ (sessionTimeout : Int) (actions : List ChannelAction),
      Along channelStep CountsAgree (start sessionTimeout) actions := by
  intro agrees
  have along := agrees 10000 (polledTwice ++ [.handle 0 .acquire])
  obtain ⟨middle, executed⟩ : ∃ middle,
      execute channelStep (start 10000) polledTwice = some middle :=
    Option.isSome_iff_exists.mp (by decide +kernel)
  have counts : ((execute channelStep (start 10000) polledTwice).bind fun system =>
      channelStep system (.handle 0 .acquire)).map (fun system =>
        (numbersAt (holdings system) 0, (system.manager.objects 0).map fun found =>
          found.session.useCount + found.session.queuedUses)) = some ([3], some 2) := by
    decide +kernel
  simp only [executed, Option.bind_some, Option.map_eq_some_iff, Prod.mk.injEq] at counts
  obtain ⟨last, taken, held, found, present, total⟩ := counts
  have agree := (along.last executed taken).counted 0 found present
  rw [held, total] at agree
  cases agree

end Viridity.ChannelAccounting
