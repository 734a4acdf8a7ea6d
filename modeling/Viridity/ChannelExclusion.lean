import Viridity.ChannelAccounting
import Viridity.SessionRegistry

/-!
# One persistent channel for a session

A WebSocket or an event stream attaches to a session when it reads a use count of zero.
The count of a session somebody holds is above zero once the increment of the holder was
delivered, so that two of them can hold a session only if one of them read its count
before the increment of the other.
-/

namespace Viridity.ChannelExclusion

open Viridity.LabelledRuns
open Viridity.SessionUse
open Viridity.SessionExpiry
open Viridity.SessionExpiry.SessionManager hiding start
open Viridity.SessionHoldings
open Viridity.SessionRegistry
open Viridity.ChannelHandlers
open Viridity.ChannelHandlers.ChannelHandler
open Viridity.ChannelAccounting

set_option autoImplicit false

def about : Call → Option (String × Nat)
  | .looked id object | .testing id object | .releasing id object | .tested id object
  | .free id object => some (id, object)
  | .taken _ | .polling _ | .missing | .creating _ | .temporary _ => none

/-- The check of the use count reads zero. -/
def FindsFree (manager : SessionManager) (handler : ChannelHandler) (action : HandlerAction)
    (id : String) (object : Nat) : Prop :=
  action = .checkUseCount ∧ ∃ rest found, handler.calls = .tested id object :: rest ∧
    manager.objects object = some found ∧ found.session.useCount = 0

/-- How a step of a handler changes what its calls know and what it holds. -/
structure Moves (manager after : SessionManager) (handler changed : ChannelHandler)
    (action : HandlerAction) : Prop where
  kind : changed.kind = handler.kind
  calls : ∀ call ∈ changed.calls, ∀ pair, about call = some pair →
    (∃ old ∈ handler.calls, about old = some pair) ∨ pair ∈ manager.sessions
  polls : ∀ id, .polling id ∈ changed.calls →
    .polling id ∈ handler.calls ∨ handler.kind = .longPolling
  frees : ∀ id object, .free id object ∈ changed.calls →
    .free id object ∈ handler.calls ∨ FindsFree manager handler action id object
  session : ∀ use, changed.session = some use → handler.session = some use ∨
    (∃ id, (id, use.object) ∈ manager.sessions ∧
      ((∃ object, .free id object ∈ handler.calls) ∨ .polling id ∈ handler.calls)) ∨
    use.object ∈ manager.created ∧ after.created = manager.created.erase use.object

/-- The handler goes on from one call to another that knows no more, or returns. -/
theorem moves_proceed {manager after : SessionManager} {handler changed : ChannelHandler}
    {action : HandlerAction} {old : Call} {rest : List Call} (kind : changed.kind = handler.kind)
    (session : ∀ use, changed.session = some use → handler.session = some use)
    (calls : handler.calls = old :: rest)
    (following : changed.calls = rest ∨ ∃ call, changed.calls = call :: rest ∧
      (about call = none ∨ about call = about old) ∧ (∀ id, call ≠ .polling id) ∧
      ∀ id object, call = .free id object → FindsFree manager handler action id object) :
    Moves manager after handler changed action := by
  have kept : ∀ call ∈ rest, call ∈ handler.calls := by
    intro call member
    rw [calls]
    exact List.mem_cons_of_mem _ member
  have origin : ∀ call ∈ changed.calls, call ∈ handler.calls ∨
      (about call = none ∨ about call = about old) ∧ (∀ id, call ≠ .polling id) ∧
        ∀ id object, call = .free id object → FindsFree manager handler action id object := by
    intro call member
    rcases following with returned | ⟨next, entered, facts⟩
    · rw [returned] at member
      exact Or.inl (kept call member)
    · rw [entered] at member
      rcases List.mem_cons.mp member with rfl | member
      · exact Or.inr facts
      · exact Or.inl (kept call member)
  constructor
  · exact kind
  · intro call member pair known
    rcases origin call member with was | ⟨knows, _⟩
    · exact Or.inl ⟨call, was, known⟩
    · rcases knows with nothing | same
      · rw [nothing] at known
        cases known
      · exact Or.inl ⟨old, by simp [calls], same.symm.trans known⟩
  · intro id member
    rcases origin _ member with was | ⟨_, polls, _⟩
    · exact Or.inl was
    · exact absurd rfl (polls id)
  · intro id object member
    rcases origin _ member with was | ⟨_, _, frees⟩
    · exact Or.inl was
    · exact Or.inr (frees id object rfl)
  · intro use held
    exact Or.inl (session use held)

theorem moves_same {manager after : SessionManager} {handler changed : ChannelHandler}
    {action : HandlerAction} (kind : changed.kind = handler.kind)
    (session : ∀ use, changed.session = some use → handler.session = some use)
    (calls : changed.calls = handler.calls) : Moves manager after handler changed action where
  kind := kind
  calls := by
    intro call member pair known
    exact Or.inl ⟨call, calls ▸ member, known⟩
  polls := by
    intro id member
    exact Or.inl (calls ▸ member)
  frees := by
    intro id object member
    exact Or.inl (calls ▸ member)
  session := by
    intro use held
    exact Or.inl (session use held)

theorem release_session_same {manager after : SessionManager} {handler released : ChannelHandler}
    (taken : ChannelHandlers.releaseSession manager handler = some (after, released)) :
    released.kind = handler.kind ∧ released.calls = handler.calls ∧
      ∀ use, released.session = some use → handler.session = some use := by
  unfold ChannelHandlers.releaseSession at taken
  split at taken
  · cases taken
    exact ⟨rfl, rfl, fun _ held => held⟩
  · simp only [Option.map_eq_some_iff, Prod.mk.injEq] at taken
    obtain ⟨_, _, rfl, rfl⟩ := taken
    exact ⟨rfl, rfl, fun _ held => by cases held⟩

theorem moves_release {manager after : SessionManager} {handler released changed : ChannelHandler}
    {action : HandlerAction}
    (taken : ChannelHandlers.releaseSession manager handler = some (after, released))
    (same : changed.kind = released.kind ∧ changed.calls = released.calls ∧
      changed.session = released.session) : Moves manager after handler changed action := by
  obtain ⟨kind, calls, session⟩ := release_session_same taken
  apply moves_same
  · exact same.1.trans kind
  · rw [same.2.2]
    exact session
  · exact same.2.1.trans calls

theorem get_listed {manager after : SessionManager} {id : String} {object : Nat}
    (looked : manager.getSession id = (after, some object)) : (id, object) ∈ manager.sessions := by
  unfold getSession at looked
  split at looked
  · rename_i found
    cases looked
    obtain ⟨before, rest, whole, _⟩ := List.lookup_eq_some_iff.mp found
    rw [whole]
    exact List.mem_append_right _ List.mem_cons_self
  · cases looked

theorem acquire_listed {manager after : SessionManager} {id : String} {use : Use}
    (acquired : acquire manager id = some (after, use)) :
    (id, use.object) ∈ manager.sessions := by
  unfold acquire at acquired
  split at acquired
  · rename_i following object result
    split_ifs at acquired
    cases acquired
    unfold SessionManager.acquireSession at result
    split at result
    · rename_i looked
      cases result
      exact get_listed looked
    · cases result
  · cases acquired

theorem insert_created {manager after : SessionManager} {object : Nat} {use : Use}
    (acquired : getNewSession manager object = some (after, use)) :
    use.object ∈ manager.created ∧ after.created = manager.created.erase use.object := by
  simp only [getNewSession, Option.map_eq_some_iff, Prod.mk.injEq] at acquired
  obtain ⟨following, taken, rfl, rfl⟩ := acquired
  simp only [managerStep] at taken
  split at taken
  · cases taken
  · split_ifs at taken with among
    cases taken
    exact ⟨among, rfl⟩

/-- A handler keeps the session it was given, or goes on holding it for a moment. -/
theorem moves_keep {manager after : SessionManager} {handler : ChannelHandler} {use : Use}
    {action : HandlerAction} {old : Call} {rest : List Call} (reply : Answer)
    (calls : handler.calls = old :: rest)
    (origin : (∃ id, (id, use.object) ∈ manager.sessions ∧
      ((∃ object, .free id object ∈ handler.calls) ∨ .polling id ∈ handler.calls)) ∨
        use.object ∈ manager.created ∧ after.created = manager.created.erase use.object) :
    Moves manager after handler ((keep handler use rest).answer reply) action := by
  have returned : Moves manager after handler ((handler.proceed rest).attach use) action := by
    have proceeded : Moves manager after handler (handler.proceed rest) action :=
      moves_proceed rfl (fun _ held => held) calls (Or.inl rfl)
    constructor
    · rfl
    · exact proceeded.calls
    · exact proceeded.polls
    · exact proceeded.frees
    · intro other held
      cases held
      exact Or.inr origin
  unfold keep
  split
  · refine moves_proceed rfl (fun _ held => held) calls ?_
    exact Or.inr ⟨.temporary use, rfl, Or.inl rfl, by simp, by simp⟩
  · exact ⟨rfl, returned.calls, returned.polls, returned.frees, returned.session⟩
  · exact ⟨rfl, returned.calls, returned.polls, returned.frees, returned.session⟩

theorem moves_enter {manager after : SessionManager} {handler : ChannelHandler} {action : HandlerAction}
    {call : Call} (knows : ∀ pair, about call = some pair → pair ∈ manager.sessions)
    (polls : ∀ id, call = .polling id → handler.kind = .longPolling)
    (frees : ∀ id object, call ≠ .free id object) :
    Moves manager after handler (handler.enter call) action where
  kind := rfl
  calls := by
    intro other member pair known
    rcases List.mem_cons.mp member with rfl | member
    · exact Or.inr (knows pair known)
    · exact Or.inl ⟨other, member, known⟩
  polls := by
    intro id member
    rcases List.mem_cons.mp member with same | member
    · exact Or.inr (polls id same.symm)
    · exact Or.inl member
  frees := by
    intro id object member
    rcases List.mem_cons.mp member with same | member
    · exact absurd same.symm (frees id object)
    · exact Or.inl member
  session := by
    intro use held
    exact Or.inl held

/-- The call that goes on neither polls nor finds its session free. -/
theorem moves_on {manager after : SessionManager} {handler : ChannelHandler}
    {action : HandlerAction} {old next : Call} {rest : List Call}
    (calls : handler.calls = old :: rest) (knows : about next = none ∨ about next = about old)
    (polls : ∀ id, next ≠ .polling id) (frees : ∀ id object, next ≠ .free id object) :
    Moves manager after handler (handler.proceed (next :: rest)) action :=
  moves_proceed rfl (fun _ held => held) calls
    (Or.inr ⟨next, rfl, knows, polls, fun id object same => absurd same (frees id object)⟩)

theorem handler_moves {manager after : SessionManager} {handler changed : ChannelHandler}
    {action : HandlerAction} (taken : handlerStep manager handler action = some (after, changed)) :
    Moves manager after handler changed action := by
  cases handler_move taken with
  | missing looked => exact moves_enter (by simp [about]) (by simp) (by simp)
  | found looked enters =>
      have listed := get_listed looked
      rcases enters with ⟨rfl, kind⟩ | rfl | rfl
      · exact moves_enter (by simp [about]) (fun _ _ => kind) (by simp)
      · exact moves_enter (by simp [about, listed]) (by simp) (by simp)
      · exact moves_enter (by simp [about, listed]) (by simp) (by simp)
  | tests calls held stepped goesOn =>
      rw [goesOn]
      split_ifs
      · exact moves_on calls (Or.inr rfl) (by simp) (by simp)
      · exact moves_on calls (Or.inr rfl) (by simp) (by simp)
  | releases calls held stepped used => exact moves_on calls (Or.inr rfl) (by simp) (by simp)
  | releasesNothing stepped => exact moves_same rfl (fun _ held => held) rfl
  | leavesRelease calls stepped => exact moves_on calls (Or.inr rfl) (by simp) (by simp)
  | leavesTest calls stepped => exact moves_on calls (Or.inr rfl) (by simp) (by simp)
  | @findsFree _ _ rest found calls held unused =>
      refine moves_proceed rfl (fun _ held => held) calls ?_
      refine Or.inr ⟨_, rfl, Or.inr rfl, by simp, ?_⟩
      intro checked object same
      cases same
      exact ⟨rfl, rest, found, calls, held, unused⟩
  | findsTaken calls held used => exact moves_on calls (Or.inl rfl) (by simp) (by simp)
  | @reattaches id object _ _ _ calls acquired =>
      apply moves_keep _ calls
      exact Or.inl ⟨id, acquire_listed acquired, Or.inl ⟨object, by simp [calls]⟩⟩
  | @polls id rest _ _ calls acquired =>
      have proceeded : Moves manager after handler (handler.proceed rest) .acquire :=
        moves_proceed rfl (fun _ held => held) calls (Or.inl rfl)
      refine ⟨rfl, proceeded.calls, proceeded.polls, proceeded.frees, ?_⟩
      intro other held
      cases held
      exact Or.inr (Or.inl ⟨id, acquire_listed acquired, Or.inr (by simp [calls])⟩)
  | refuses calls =>
      cases kind : handler.kind <;>
        apply moves_proceed _ _ calls (Or.inl _) <;>
        simp [refuse, kind, proceed, answer]
  | creates calls => exact moves_on calls (Or.inl rfl) (by simp) (by simp)
  | inserts calls acquired => exact moves_keep _ calls (Or.inr (insert_created acquired))
  | givesBack calls given => exact moves_proceed rfl (fun _ held => held) calls (Or.inl rfl)
  | answers given => exact moves_release given ⟨rfl, rfl, rfl⟩
  | expires given => exact moves_release given ⟨rfl, rfl, rfl⟩
  | expiresStale given => exact moves_release given ⟨rfl, rfl, rfl⟩
  | stays => exact moves_same rfl (fun _ held => held) rfl
  | obeys given => exact moves_release given ⟨rfl, rfl, rfl⟩
  | finishes => exact moves_same rfl (fun _ held => held) rfl
  | disconnects => exact moves_same rfl (fun _ held => held) rfl
  | ends done given => exact moves_release given ⟨rfl, rfl, rfl⟩

theorem registered_handle {system : ChannelSystem} {after : SessionManager}
    {handler changed : ChannelHandler} {action : HandlerAction}
    (registered : Registered system.manager system.identifiers)
    (fresh : identifierFresh system.identifiers action = true)
    (taken : handlerStep system.manager handler action = some (after, changed)) :
    Registered after (identifiersAfter system action) := by
  have managed := (handler_bookkeeping taken).managed
  cases action with
  | createSession id lockFree =>
      simp only [handlerStep] at taken
      split at taken
      · cases taken
        apply registered_create registered
        simpa [identifierFresh] using fresh
      · cases taken
  | _ =>
      rcases managed with rfl | ⟨managed, stepped, creates⟩
      · exact registered
      · apply registered_step registered stepped
        intro id lockFree same
        cases creates id lockFree same

/-- What the handlers know of the sessions: a session is reached by way of the hash, or by
its creator alone. -/
structure CallsKept (system : ChannelSystem) : Prop where
  kept : ChannelKept system
  registered : Registered system.manager system.identifiers
  called : ∀ handler ∈ system.handlers, ∀ call ∈ handler.calls, ∀ pair, about call = some pair →
    pair ∈ system.identifiers ∧ pair.2 ∉ system.manager.created
  held : ∀ handler ∈ system.handlers, ∀ use, handler.session = some use →
    use.object ∉ system.manager.created
  polls : ∀ handler ∈ system.handlers, ∀ id, .polling id ∈ handler.calls →
    handler.kind = .longPolling

/-- A session somebody knows does not become one that is still to be inserted. -/
theorem known_stays {manager after : SessionManager} {managed : ManagerAction}
    (taken : managerStep manager managed = some after) {object : Nat}
    (known : object ∉ manager.created) (below : object < manager.nextObject) :
    object ∉ after.created := by
  intro among
  rcases created_step taken among with before | fresh
  · exact known before
  · omega

theorem known_handle {manager after : SessionManager} {handler changed : ChannelHandler}
    {action : HandlerAction} (taken : handlerStep manager handler action = some (after, changed))
    {object : Nat} (known : object ∉ manager.created) (below : object < manager.nextObject) :
    object ∉ after.created := by
  rcases (handler_bookkeeping taken).managed with rfl | ⟨managed, stepped, _⟩
  · exact known
  · exact known_stays stepped known below

theorem held_below {system : ChannelSystem} (kept : CallsKept system) {handler : ChannelHandler}
    (member : handler ∈ system.handlers) {use : Use} (held : handler.session = some use) :
    use.object < system.manager.nextObject := by
  obtain ⟨found, alive⟩ := Option.isSome_iff_exists.mp (kept.kept.attached handler member use held).2
  exact kept.kept.covered.books.allocated use.object found alive

theorem identifiers_grow {system : ChannelSystem} {action : HandlerAction}
    {pair : String × Nat} (member : pair ∈ system.identifiers) :
    pair ∈ identifiersAfter system action := by
  cases action <;> first | exact member | exact List.mem_cons_of_mem _ member

theorem calls_kept_handle {system : ChannelSystem} {index : Nat} {handler changed : ChannelHandler}
    {manager : SessionManager} {action : HandlerAction} (kept : CallsKept system)
    (found : system.handlers[index]? = some handler)
    (fresh : identifierFresh system.identifiers action = true)
    (stepped : handlerStep system.manager handler action = some (manager, changed))
    (following : ChannelKept { system with
      manager := manager
      handlers := system.handlers.set index changed
      identifiers := identifiersAfter system action }) :
    CallsKept { system with
      manager := manager
      handlers := system.handlers.set index changed
      identifiers := identifiersAfter system action } := by
  have member := List.mem_of_getElem? found
  have moves := handler_moves stepped
  have called : ∀ pair, pair ∈ system.identifiers ∧ pair.2 ∉ system.manager.created →
      pair ∈ identifiersAfter system action ∧ pair.2 ∉ manager.created := by
    rintro pair ⟨known, apart⟩
    exact ⟨identifiers_grow known,
      known_handle stepped apart (kept.registered.identified pair known)⟩
  constructor
  · exact following
  · exact registered_handle kept.registered fresh stepped
  · intro other among call calling pair known
    rcases List.mem_or_eq_of_mem_set among with among | rfl
    · exact called pair (kept.called other among call calling pair known)
    · rcases moves.calls call calling pair known with ⟨old, was, same⟩ | listed
      · exact called pair (kept.called handler member old was pair same)
      · exact called pair (kept.registered.listed pair listed)
  · intro other among use held
    rcases List.mem_or_eq_of_mem_set among with among | rfl
    · exact known_handle stepped (kept.held other among use held) (held_below kept among held)
    · rcases moves.session use held with was | ⟨id, listed, _⟩ | ⟨_, erased⟩
      · exact known_handle stepped (kept.held handler member use was)
          (held_below kept member was)
      · exact (called (id, use.object) (kept.registered.listed _ listed)).2
      · show use.object ∉ manager.created
        rw [erased]
        exact kept.registered.reserved.not_mem_erase
  · intro other among id polling
    rcases List.mem_or_eq_of_mem_set among with among | rfl
    · exact kept.polls other among id polling
    · rw [moves.kind]
      rcases moves.polls id polling with was | kind
      · exact kept.polls handler member id was
      · exact kind

theorem calls_kept_managed {system after : ChannelSystem} {managed : ManagerAction}
    (kept : CallsKept system) (following : ChannelKept after)
    (stepped : managerStep system.manager managed = some after.manager)
    (creates : ∀ id lockFree, managed ≠ .createSession id lockFree)
    (identifiers : after.identifiers = system.identifiers)
    (handlers : ∀ handler ∈ after.handlers, ∃ before ∈ system.handlers,
      handler.kind = before.kind ∧ handler.calls = before.calls ∧
        ∀ use, handler.session = some use → before.session = some use) : CallsKept after where
  kept := following
  registered := by
    rw [identifiers]
    exact registered_step kept.registered stepped creates
  called := by
    intro handler member call calling pair known
    obtain ⟨before, was, _, calls, _⟩ := handlers handler member
    obtain ⟨listed, apart⟩ := kept.called before was call (calls ▸ calling) pair known
    rw [identifiers]
    exact ⟨listed, known_stays stepped apart (kept.registered.identified pair listed)⟩
  held := by
    intro handler member use held
    obtain ⟨before, was, _, _, session⟩ := handlers handler member
    exact known_stays stepped (kept.held before was use (session use held))
      (held_below kept was (session use held))
  polls := by
    intro handler member id polling
    obtain ⟨before, was, kind, calls, _⟩ := handlers handler member
    rw [kind]
    exact kept.polls before was id (calls ▸ polling)

/-- The destruction of a session changes no more of a handler than what it holds. -/
theorem destroyed_handler (object : Nat) (handler : ChannelHandler) :
    (sessionDestroyed object handler).kind = handler.kind ∧
      (sessionDestroyed object handler).calls = handler.calls ∧
        ∀ use, (sessionDestroyed object handler).session = some use →
          handler.session = some use := by
  unfold sessionDestroyed
  split_ifs
  · exact ⟨rfl, rfl, fun _ held => by cases held⟩
  · exact ⟨rfl, rfl, fun _ held => held⟩

theorem notified_handler {manager : SessionManager} {handlers : List ChannelHandler}
    {step : Background} {index : Nat} {handler : ChannelHandler}
    (found : (notifyDestroyed manager handlers step)[index]? = some handler) :
    ∃ before, handlers[index]? = some before ∧ handler.kind = before.kind ∧
      handler.calls = before.calls ∧
        ∀ use, handler.session = some use → before.session = some use := by
  have unchanged : handlers[index]? = some handler → ∃ before, handlers[index]? = some before ∧
      handler.kind = before.kind ∧ handler.calls = before.calls ∧
        ∀ use, handler.session = some use → before.session = some use := by
    intro same
    exact ⟨handler, same, rfl, rfl, fun _ held => held⟩
  unfold notifyDestroyed at found
  split at found
  · split_ifs at found
    · rw [List.getElem?_map, Option.map_eq_some_iff] at found
      obtain ⟨before, was, rfl⟩ := found
      exact ⟨before, was, destroyed_handler _ before⟩
    · exact unchanged found
  · exact unchanged found

theorem calls_kept_step {system after : ChannelSystem} {action : ChannelAction}
    (kept : CallsKept system) (taken : channelStep system action = some after) :
    CallsKept after := by
  have following := kept_channel_step kept.kept taken
  have same : ∀ handler ∈ system.handlers, ∃ before ∈ system.handlers,
      handler.kind = before.kind ∧ handler.calls = before.calls ∧
        ∀ use, handler.session = some use → before.session = some use := by
    intro handler member
    exact ⟨handler, member, rfl, rfl, fun _ held => held⟩
  cases action with
  | connect kind =>
      cases taken
      constructor
      · exact following
      · exact kept.registered
      · intro handler member call calling pair known
        rcases List.mem_append.mp member with member | member
        · exact kept.called handler member call calling pair known
        · rw [List.mem_singleton.mp member] at calling
          cases calling
      · intro handler member use held
        rcases List.mem_append.mp member with member | member
        · exact kept.held handler member use held
        · rw [List.mem_singleton.mp member] at held
          cases held
      · intro handler member id polling
        rcases List.mem_append.mp member with member | member
        · exact kept.polls handler member id polling
        · rw [List.mem_singleton.mp member] at polling
          cases polling
  | handle index action =>
      simp only [channelStep, Option.bind_eq_some_iff] at taken
      obtain ⟨handler, found, taken⟩ := taken
      split_ifs at taken with enabled
      simp only [Option.map_eq_some_iff] at taken
      obtain ⟨⟨manager, changed⟩, stepped, rfl⟩ := taken
      exact calls_kept_handle kept found enabled.2 stepped following
  | acquirePatch id =>
      simp only [channelStep] at taken
      split at taken
      · rename_i manager object result
        split_ifs at taken with alive
        cases taken
        have stepped : managerStep system.manager (.acquireSession id) = some manager := by
          simp only [managerStep, result]
        exact calls_kept_managed kept following stepped (by simp) rfl same
      · rename_i manager result
        cases taken
        exact calls_kept_managed kept following (acquire_missing result) (by simp) rfl same
  | releasePatch index =>
      simp only [channelStep, Option.bind_eq_some_iff, Option.map_eq_some_iff] at taken
      obtain ⟨use, found, manager, stepped, rfl⟩ := taken
      exact calls_kept_managed kept following stepped (by simp) rfl same
  | background step =>
      simp only [channelStep, Option.map_eq_some_iff] at taken
      obtain ⟨manager, stepped, rfl⟩ := taken
      apply calls_kept_managed kept following stepped
      · intro id lockFree same
        have quiet := background_quiet step
        rw [same] at quiet
        cases quiet
      · rfl
      · intro handler member
        obtain ⟨index, found⟩ := List.getElem?_of_mem member
        obtain ⟨before, was, facts⟩ := notified_handler found
        exact ⟨before, List.mem_of_getElem? was, facts⟩

def persistent (handler : ChannelHandler) : Bool := handler.kind ≠ .longPolling

/-- The handler holds the session, or has found it free and is about to acquire it. -/
def Attends (handler : ChannelHandler) (object : Nat) : Prop :=
  (∃ use, handler.session = some use ∧ use.object = object) ∨
    ∃ id, .free id object ∈ handler.calls

/-- No two persistent handlers attend one session. -/
def Separate (system : ChannelSystem) : Prop :=
  ∀ (first second : Nat) one other object, system.handlers[first]? = some one →
    system.handlers[second]? = some other → persistent one = true → persistent other = true →
      Attends one object → Attends other object → first = second

/-- A handler comes to attend a session only when it finds it free or has created it. -/
theorem attends_handle {system : ChannelSystem} {handler changed : ChannelHandler}
    {manager : SessionManager} {action : HandlerAction} (kept : CallsKept system)
    (member : handler ∈ system.handlers) (lasting : persistent handler = true)
    (stepped : handlerStep system.manager handler action = some (manager, changed))
    {object : Nat} (attends : Attends changed object) :
    Attends handler object ∨ (∃ id, FindsFree system.manager handler action id object) ∨
      object ∈ system.manager.created := by
  have moves := handler_moves stepped
  rcases attends with ⟨use, held, rfl⟩ | ⟨id, free⟩
  · rcases moves.session use held with was | ⟨id, listed, ⟨looked, free⟩ | polling⟩ | ⟨among, _⟩
    · exact Or.inl (Or.inl ⟨use, was, rfl⟩)
    · have known := (kept.called handler member _ free (id, looked) rfl).1
      have same := kept.registered.unique known (kept.registered.listed _ listed).1
      exact Or.inl (Or.inr ⟨id, same ▸ free⟩)
    · simp [persistent, kept.polls handler member id polling] at lasting
    · exact Or.inr (Or.inr among)
  · rcases moves.frees id object free with was | finds
    · exact Or.inl (Or.inr ⟨id, was⟩)
    · exact Or.inr (Or.inl ⟨id, finds⟩)

/-- Nobody attends a session its creator has not inserted yet. -/
theorem created_unattended {system : ChannelSystem} (kept : CallsKept system)
    {handler : ChannelHandler} (member : handler ∈ system.handlers) {object : Nat}
    (among : object ∈ system.manager.created) : ¬ Attends handler object := by
  rintro (⟨use, held, rfl⟩ | ⟨id, free⟩)
  · exact kept.held handler member use held among
  · exact (kept.called handler member _ free (id, object) rfl).2 among

/-- At most one persistent handler has its `session_` set to a session. -/
def Exclusive (system : ChannelSystem) : Prop :=
  ∀ (first second : Nat) one other (use held : Use), system.handlers[first]? = some one →
    system.handlers[second]? = some other → persistent one = true → persistent other = true →
      one.session = some use → other.session = some held → use.object = held.object →
        first = second

/-- An attempt that checks a session another attends is going to be answered `inuse`. -/
def Refused (system : ChannelSystem) (index : Nat) (after : ChannelSystem) : Prop :=
  ∀ handler id object rest, system.handlers[index]? = some handler →
    persistent handler = true → handler.calls = .tested id object :: rest →
      (∃ (other : Nat) (rival : ChannelHandler), other ≠ index ∧
        system.handlers[other]? = some rival ∧ persistent rival = true ∧ Attends rival object) →
          after.handlers[index]? = some (handler.proceed (.taken object :: rest))

/-- At most one persistent handler holds a session, and every other attempt is refused. -/
def OneChannel (system : ChannelSystem) (action : ChannelAction) (after : ChannelSystem) : Prop :=
  Exclusive after ∧ ∀ index, action = .handle index .checkUseCount → Refused system index after

/-- Where a persistent handler finds a session free, no other has found it free without
having acquired it yet, and none holds it whose increment is still queued. -/
def ChecksSeparated (system : ChannelSystem) (action : ChannelAction) (_after : ChannelSystem) :
    Prop :=
  ∀ (index : Nat) move, action = .handle index move → ∀ handler id object,
    system.handlers[index]? = some handler → persistent handler = true →
      FindsFree system.manager handler move id object →
        ∀ (other : Nat) rival, other ≠ index → system.handlers[other]? = some rival →
          persistent rival = true →
            (∀ id, .free id object ∉ rival.calls) ∧
              ∀ use found, rival.session = some use → use.object = object →
                system.manager.objects object = some found →
                  deliveredBefore found found.session.posted use.number = true

theorem held_covered {system : ChannelSystem} (kept : ChannelKept system) {index : Nat}
    {handler : ChannelHandler} (found : system.handlers[index]? = some handler) {use : Use}
    (held : handler.session = some use) {slot : SessionObject}
    (present : system.manager.objects use.object = some slot)
    (delivered : deliveredBefore slot slot.session.posted use.number = true) :
    0 < slot.session.useCount := by
  have member : use ∈ holdings system := by
    apply List.mem_append_left
    apply List.mem_flatMap_of_mem (List.mem_of_getElem? found)
    simp [uses, held]
  have covered := kept.covered.covered use.object slot present
  exact covered.useCount_pos (mem_numbersAt member) delivered

/-- A session somebody else attends is not found free, if the checks are separated. -/
theorem found_free_unattended {system after : ChannelSystem} {index : Nat} {move : HandlerAction}
    (kept : CallsKept system) (separated : ChecksSeparated system (.handle index move) after)
    {handler : ChannelHandler} (here : system.handlers[index]? = some handler)
    (lasting : persistent handler = true) {id : String} {object : Nat}
    (finds : FindsFree system.manager handler move id object) {other : Nat}
    {rival : ChannelHandler} (different : other ≠ index)
    (there : system.handlers[other]? = some rival) (lastingToo : persistent rival = true) :
    ¬ Attends rival object := by
  obtain ⟨notFree, delivered⟩ := separated index move rfl handler id object here lasting finds
    other rival different there lastingToo
  obtain ⟨_, _, found, _, present, unused⟩ := finds
  rintro (⟨use, held, rfl⟩ | ⟨other, free⟩)
  · have used := held_covered kept.kept there held present (delivered use found held rfl present)
    omega
  · exact notFree other free

theorem separate_kept {before after : ChannelSystem} (separate : Separate before)
    (old : ∀ (index : Nat) handler object, after.handlers[index]? = some handler →
      persistent handler = true → Attends handler object →
        ∃ was, before.handlers[index]? = some was ∧ persistent was = true ∧ Attends was object) :
    Separate after := by
  intro first second one other object here there lasting lastingToo attends attendsToo
  obtain ⟨was, wasHere, wasLasting, attended⟩ := old first one object here lasting attends
  obtain ⟨wasOther, wasThere, wasLastingToo, attendedToo⟩ :=
    old second other object there lastingToo attendsToo
  exact separate first second was wasOther object wasHere wasThere wasLasting wasLastingToo attended
    attendedToo

theorem separate_handle {system after : ChannelSystem} {index : Nat} {move : HandlerAction}
    {handler changed : ChannelHandler} {manager : SessionManager} (kept : CallsKept system)
    (separate : Separate system) (separated : ChecksSeparated system (.handle index move) after)
    (found : system.handlers[index]? = some handler)
    (stepped : handlerStep system.manager handler move = some (manager, changed))
    (same : after.handlers = system.handlers.set index changed) : Separate after := by
  have kind := (handler_moves stepped).kind
  have apart : ∀ (other : Nat) rival object, other ≠ index →
      system.handlers[other]? = some rival → persistent rival = true →
      persistent changed = true → Attends changed object → ¬ Attends rival object := by
    intro other rival object different there lasting lastingToo attends attendsToo
    have lastingBefore : persistent handler = true := by
      unfold persistent at lastingToo ⊢
      rw [← kind]
      exact lastingToo
    rcases attends_handle kept (List.mem_of_getElem? found) lastingBefore stepped attends with
      before | ⟨id, finds⟩ | among
    · exact different
        (separate other index rival handler object there found lasting lastingBefore
          attendsToo before)
    · exact found_free_unattended kept separated found lastingBefore finds different there
        lasting attendsToo
    · exact created_unattended kept (List.mem_of_getElem? there) among attendsToo
  intro first second one other object here there lasting lastingToo attends attendsToo
  rw [same, List.getElem?_set] at here there
  split_ifs at here there with atFirst _ atSecond _ atSecond
  · rw [← atFirst, ← atSecond]
  · cases here
    exact absurd attendsToo
      (apart second other object (Ne.symm atSecond) there lastingToo lasting attends)
  · cases there
    exact absurd attends
      (apart first one object (Ne.symm atFirst) here lasting lastingToo attendsToo)
  · exact separate first second one other object here there lasting lastingToo attends attendsToo

theorem separate_step {system after : ChannelSystem} {action : ChannelAction}
    (kept : CallsKept system) (separate : Separate system)
    (separated : ChecksSeparated system action after)
    (taken : channelStep system action = some after) : Separate after := by
  cases action with
  | connect kind =>
      cases taken
      apply separate_kept separate
      intro index handler object found lasting attends
      rw [List.getElem?_append] at found
      split_ifs at found
      · exact ⟨handler, found, lasting, attends⟩
      · have fresh := List.mem_singleton.mp (List.mem_of_getElem? found)
        rw [fresh] at attends
        rcases attends with ⟨use, held, _⟩ | ⟨id, free⟩
        · cases held
        · cases free
  | handle index action =>
      simp only [channelStep, Option.bind_eq_some_iff] at taken
      obtain ⟨handler, found, taken⟩ := taken
      split_ifs at taken
      simp only [Option.map_eq_some_iff] at taken
      obtain ⟨⟨manager, changed⟩, stepped, result⟩ := taken
      exact separate_handle kept separate separated found stepped
        (congrArg ChannelSystem.handlers result.symm)
  | acquirePatch id =>
      simp only [channelStep] at taken
      split at taken
      · split_ifs at taken
        cases taken
        exact separate
      · cases taken
        exact separate
  | releasePatch index =>
      simp only [channelStep, Option.bind_eq_some_iff, Option.map_eq_some_iff] at taken
      obtain ⟨use, found, manager, stepped, rfl⟩ := taken
      exact separate
  | background step =>
      simp only [channelStep, Option.map_eq_some_iff] at taken
      obtain ⟨manager, stepped, rfl⟩ := taken
      apply separate_kept separate
      intro index handler object found lasting attends
      obtain ⟨before, was, kind, calls, session⟩ := notified_handler found
      refine ⟨before, was, ?_, ?_⟩
      · unfold persistent at lasting ⊢
        rw [← kind]
        exact lasting
      · rcases attends with ⟨use, held, same⟩ | ⟨id, free⟩
        · exact Or.inl ⟨use, session use held, same⟩
        · exact Or.inr ⟨id, calls ▸ free⟩

theorem check_result {system after : ChannelSystem} {index : Nat} {handler : ChannelHandler}
    {id : String} {object : Nat} {rest : List Call}
    (taken : channelStep system (.handle index .checkUseCount) = some after)
    (here : system.handlers[index]? = some handler)
    (calls : handler.calls = .tested id object :: rest) :
    ∃ found, system.manager.objects object = some found ∧
      after.handlers[index]? = some (handler.proceed
        ((if found.session.useCount = 0 then .free id object else .taken object) :: rest)) := by
  have inside : index < system.handlers.length := (List.getElem?_eq_some_iff.mp here).1
  simp only [channelStep, here, Option.bind_some] at taken
  split_ifs at taken
  simp only [handlerStep, calls, Option.map_eq_some_iff] at taken
  obtain ⟨⟨manager, changed⟩, ⟨found, present, result⟩, rfl⟩ := taken
  refine ⟨found, present, ?_⟩
  split_ifs at result ⊢ <;> cases result <;> simp [inside]

theorem refused_of_separated {system after : ChannelSystem} {index : Nat}
    (kept : CallsKept system)
    (separated : ChecksSeparated system (.handle index .checkUseCount) after)
    (taken : channelStep system (.handle index .checkUseCount) = some after) :
    Refused system index after := by
  rintro handler id object rest here lasting calls ⟨other, rival, different, there, lastingToo, attends⟩
  obtain ⟨found, present, result⟩ := check_result taken here calls
  have used : found.session.useCount ≠ 0 := by
    intro unused
    have finds : FindsFree system.manager handler .checkUseCount id object :=
      ⟨rfl, rest, found, calls, present, unused⟩
    exact found_free_unattended kept separated here lasting finds different there lastingToo attends
  rw [if_neg used] at result
  exact result

theorem separated_of_refused {system after : ChannelSystem} {action : ChannelAction}
    (refused : ∀ index, action = .handle index .checkUseCount → Refused system index after)
    (taken : channelStep system action = some after) : ChecksSeparated system action after := by
  rintro index move rfl handler id object here lasting ⟨rfl, rest, found, calls, present, unused⟩
    other rival different there lastingToo
  have unattended : ¬ Attends rival object := by
    intro attends
    obtain ⟨slot, held, result⟩ := check_result taken here calls
    rw [present, Option.some.injEq] at held
    subst held
    have turned := refused index rfl handler id object rest here lasting calls
      ⟨other, rival, different, there, lastingToo, attends⟩
    rw [result, if_pos unused] at turned
    simp [proceed] at turned
  constructor
  · intro name free
    exact unattended (Or.inr ⟨name, free⟩)
  · intro use slot held same _
    exact absurd (Or.inl ⟨use, held, same⟩) unattended

theorem exclusive_of_separate {system : ChannelSystem} (separate : Separate system) :
    Exclusive system := by
  intro first second one other use held here there lasting lastingToo holds holdsToo same
  exact separate first second one other held.object here there lasting lastingToo
    (Or.inl ⟨use, holds, same⟩) (Or.inl ⟨held, holdsToo, rfl⟩)

/-- A state between two steps in which no two persistent handlers attend one session. -/
structure Apart (system : ChannelSystem) : Prop where
  kept : CallsKept system
  separate : Separate system

theorem apart_start (sessionTimeout : Int) : Apart (start sessionTimeout) where
  kept := by
    constructor
    · exact ChannelAccounting.kept_start sessionTimeout
    · constructor <;> simp [start, SessionManager.start]
    · intro handler member
      cases member
    · intro handler member
      cases member
    · intro handler member
      cases member
  separate := by
    intro first second one other object here
    simp [start] at here

/-- In every run, a session has at most one persistent channel and all other attempts are
refused exactly if no check of the use count comes between the check of another attempt
and the delivery of its increment. -/
theorem one_persistent_channel (sessionTimeout : Int) (actions : List ChannelAction) :
    Along channelStep OneChannel (start sessionTimeout) actions ↔
      Along channelStep ChecksSeparated (start sessionTimeout) actions := by
  have same : ∀ system action after, Apart system → channelStep system action = some after →
      (OneChannel system action after ↔ ChecksSeparated system action after) := by
    intro system action after apart taken
    constructor
    · intro one
      exact separated_of_refused one.2 taken
    · intro separated
      constructor
      · exact exclusive_of_separate (separate_step apart.kept apart.separate separated taken)
      · rintro index rfl
        exact refused_of_separated apart.kept separated taken
  apply along_congr_while _ same (apart_start sessionTimeout)
  intro system action after apart taken one
  have separated := (same system action after apart taken).mp one
  exact ⟨calls_kept_step apart.kept taken, separate_step apart.kept apart.separate separated taken⟩

/-- Two WebSockets open for a session nobody uses. Both check its use count before either
acquires it. -/
def openedAtOnce : List ChannelAction :=
  [.connect .longPolling, .handle 0 (.request "" false), .handle 0 (.createSession "a" true),
    .handle 0 .insertSession, .handle 0 .releaseTemporary, .background (.deliverEvent 0),
    .background (.deliverEvent 0), .connect .webSocket, .connect .webSocket,
    .handle 1 (.request "a" false), .handle 2 (.request "a" false), .handle 1 .checkUseCount,
    .handle 2 .checkUseCount, .handle 1 .acquire]

/-- Both of them get the session. -/
theorem opened_at_once_shared :
    ¬ ∀ (sessionTimeout : Int) (actions : List ChannelAction),
      Along channelStep OneChannel (start sessionTimeout) actions := by
  intro channels
  have along := channels 10000 (openedAtOnce ++ [.handle 2 .acquire])
  obtain ⟨middle, executed⟩ : ∃ middle,
      execute channelStep (start 10000) openedAtOnce = some middle :=
    Option.isSome_iff_exists.mp (by decide +kernel)
  have shared : ((execute channelStep (start 10000) openedAtOnce).bind fun system =>
      channelStep system (.handle 2 .acquire)).map (fun system =>
        system.handlers.map fun handler => (handler.kind, handler.session)) =
      some [(.longPolling, none), (.webSocket, some ⟨0, 2⟩), (.webSocket, some ⟨0, 3⟩)] := by
    decide +kernel
  simp only [executed, Option.bind_some, Option.map_eq_some_iff] at shared
  obtain ⟨last, taken, handlers⟩ := shared
  have exclusive := (along.last executed taken).1
  have handlerAt : ∀ (index : Nat) kind use, (last.handlers.map fun handler =>
      (handler.kind, handler.session))[index]? = some (kind, some use) →
      ∃ handler, last.handlers[index]? = some handler ∧ handler.kind = kind ∧
        handler.session = some use := by
    intro index kind use found
    rw [List.getElem?_map, Option.map_eq_some_iff] at found
    obtain ⟨handler, present, same⟩ := found
    simp only [Prod.mk.injEq] at same
    exact ⟨handler, present, same.1, same.2⟩
  obtain ⟨one, here, kind, held⟩ := handlerAt 1 .webSocket ⟨0, 2⟩ (by rw [handlers]; rfl)
  obtain ⟨other, there, kindToo, heldToo⟩ := handlerAt 2 .webSocket ⟨0, 3⟩ (by rw [handlers]; rfl)
  have same := exclusive 1 2 one other ⟨0, 2⟩ ⟨0, 3⟩ here there (by simp [persistent, kind])
    (by simp [persistent, kindToo]) held heldToo rfl
  cases same

end Viridity.ChannelExclusion
