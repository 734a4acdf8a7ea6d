import Mathlib.Data.List.Basic
import Viridity.LabelledRuns

/-!
# Message handlers that ask to be polled

A session keeps the handlers that are ready for dispatch in a list of its own, by their
addresses. Displays get there by a call that may be queued, and `takePendingMessages` polls
a copy of the list after it has let go of the mutex. The display manager deletes displays
that nobody uses.
-/

namespace Viridity.MessageDispatch

open Viridity.LabelledRuns

set_option autoImplicit false

structure Display where
  id : String
  address : Nat
deriving DecidableEq

/-- `lastUsed` is the time of the last restart in milliseconds. -/
structure DisplayResource where
  display : Display
  lastUsed : Nat
  useCount : Int
deriving DecidableEq

/-- `alive` are the message handlers that exist, displays among them, `queued` the handlers
of the `handlerIsReadyForDispatch` calls not yet delivered, and `polls` what running calls
of `takePendingMessages` still have to ask. -/
structure DispatchState where
  now : Nat
  nextAddress : Nat
  alive : List Nat
  messageHandlers : List Nat
  messageHandlersRequestingMessageDispatch : List Nat
  queued : List Nat
  polls : List (List Nat)
  displays : List Display
  displayResources : List DisplayResource
deriving DecidableEq

inductive DispatchAction where
  | createHandler
  | registerMessageHandler (handler : Nat)
  | unregisterMessageHandler (handler : Nat)
  | newDisplay (id : String)
  | acquireDisplay (id : String)
  | releaseDisplay (display : Display)
  | handleDisplayUpdateAvailable (display : Display) (direct : Bool)
  | deliverReady
  | takePendingMessages
  | pollHandler (index : Nat)
  | elapse (milliseconds : Nat)
  | killObsoleteDisplays
  | killAllDisplays
deriving DecidableEq

namespace DispatchState

def start : DispatchState where
  now := 0
  nextAddress := 0
  alive := []
  messageHandlers := []
  messageHandlersRequestingMessageDispatch := []
  queued := []
  polls := []
  displays := []
  displayResources := []

def registerMessageHandler (state : DispatchState) (handler : Nat) : DispatchState :=
  if handler ∈ state.messageHandlers then state
  else { state with messageHandlers := state.messageHandlers ++ [handler] }

def unregisterMessageHandler (state : DispatchState) (handler : Nat) : DispatchState :=
  { state with messageHandlers := state.messageHandlers.filter fun other => other ≠ handler }

def handlerIsReadyForDispatch (state : DispatchState) (handler : Nat) : DispatchState :=
  if handler ∈ state.messageHandlersRequestingMessageDispatch then state
  else { state with
    messageHandlersRequestingMessageDispatch :=
      state.messageHandlersRequestingMessageDispatch ++ [handler] }

def getDisplay (state : DispatchState) (id : String) : Option Display :=
  state.displays.find? fun display => display.id = id

/-- A use of the display: its count changes and its time starts again. -/
def touch (state : DispatchState) (display : Display) (change : Int) : DispatchState :=
  { state with
    displayResources := state.displayResources.map fun resource =>
      if resource.display = display then
        { resource with useCount := resource.useCount + change, lastUsed := state.now }
      else resource }

def acquireDisplay (state : DispatchState) (id : String) : DispatchState :=
  match state.getDisplay id with
  | some display => state.touch display 1
  | none => state

def releaseDisplay (state : DispatchState) (display : Display) : DispatchState :=
  state.touch display (-1)

def getNewDisplay (state : DispatchState) (id : String) : DispatchState :=
  let display := Display.mk id state.nextAddress
  { state with
    nextAddress := state.nextAddress + 1
    alive := state.nextAddress :: state.alive
    displays := (state.displays.filter fun other => other.id ≠ id) ++ [display]
    displayResources := state.displayResources ++ [⟨display, state.now, 1⟩] }

/-- `handleMessage` of the display manager for the message `newDisplay`: it creates the
display, or asks the one there is for a full update. -/
def handleNewDisplay (state : DispatchState) (id : String) : DispatchState :=
  match state.getDisplay id with
  | some display => (state.acquireDisplay id).releaseDisplay display
  | none =>
      let created := state.getNewDisplay id
      created.releaseDisplay ⟨id, state.nextAddress⟩

/-- The display is taken out of the hashes of its manager and deleted. -/
def removeDisplay (state : DispatchState) (display : Display) : DispatchState :=
  { state with
    displays := state.displays.filter fun other => other.id ≠ display.id
    displayResources := state.displayResources.filter fun resource => resource.display ≠ display
    alive := state.alive.filter fun handler => handler ≠ display.address }

def obsolete (state : DispatchState) (resource : DisplayResource) : Bool :=
  resource.useCount = 0 && decide (120000 < state.now - resource.lastUsed)

/-- The loop of either sweep runs over a copy of the resources. -/
def removeDisplays (state : DispatchState) (resources : List DisplayResource) : DispatchState :=
  resources.foldl (fun left resource => left.removeDisplay resource.display) state

def killObsoleteDisplays (state : DispatchState) : DispatchState :=
  state.removeDisplays (state.displayResources.filter state.obsolete)

def killAllDisplays (state : DispatchState) : DispatchState :=
  state.removeDisplays state.displayResources

/-- The part of `takePendingMessages` that holds the mutex. -/
def takePendingMessages (state : DispatchState) : DispatchState :=
  { state with
    polls := state.polls ++ [state.messageHandlersRequestingMessageDispatch]
    messageHandlersRequestingMessageDispatch := [] }

end DispatchState

open DispatchState

/-- The call to a session in another thread is queued. -/
def dispatchStep (state : DispatchState) : DispatchAction → Option DispatchState
  | .createHandler =>
      some { state with
        nextAddress := state.nextAddress + 1
        alive := state.nextAddress :: state.alive }
  | .registerMessageHandler handler =>
      if handler ∈ state.alive then some (state.registerMessageHandler handler) else none
  | .unregisterMessageHandler handler => some (state.unregisterMessageHandler handler)
  | .newDisplay id => some (state.handleNewDisplay id)
  | .acquireDisplay id => some (state.acquireDisplay id)
  | .releaseDisplay display =>
      if display ∈ state.displays then some (state.releaseDisplay display) else none
  | .handleDisplayUpdateAvailable display direct =>
      if display.address ∈ state.alive then
        if direct then some (state.handlerIsReadyForDispatch display.address)
        else some { state with queued := state.queued ++ [display.address] }
      else none
  | .deliverReady =>
      match state.queued with
      | [] => none
      | handler :: rest => some ({ state with queued := rest }.handlerIsReadyForDispatch handler)
  | .takePendingMessages => some state.takePendingMessages
  | .pollHandler index =>
      match state.polls[index]? with
      | some (_ :: rest) => some { state with polls := state.polls.set index rest }
      | _ => none
  | .elapse milliseconds => some { state with now := state.now + milliseconds }
  | .killObsoleteDisplays => some state.killObsoleteDisplays
  | .killAllDisplays => some state.killAllDisplays

/-- The handlers that are going to be polled: those in the list, those that a queued call
is about to add, and those in the copies being polled. -/
def awaiting (state : DispatchState) : List Nat :=
  state.messageHandlersRequestingMessageDispatch ++ state.queued ++ state.polls.flatten

def AllAlive (state : DispatchState) : Prop := ∀ handler ∈ awaiting state, handler ∈ state.alive

/-- The handler polled in the step is alive, and no handler that was removed stays in the
list or is still going to be added or polled. -/
def NoDeadPolled (state : DispatchState) (action : DispatchAction) (after : DispatchState) :
    Prop :=
  (∀ index handler rest, action = .pollHandler index →
    state.polls[index]? = some (handler :: rest) → handler ∈ state.alive) ∧ AllAlive after

def removedBy (state : DispatchState) : DispatchAction → List DisplayResource
  | .killObsoleteDisplays => state.displayResources.filter state.obsolete
  | .killAllDisplays => state.displayResources
  | _ => []

/-- No display is deleted that is going to be polled. -/
def RemovesNoneAwaiting (state : DispatchState) (action : DispatchAction)
    (_after : DispatchState) : Prop :=
  ∀ resource ∈ removedBy state action, resource.display.address ∉ awaiting state

theorem removeDisplays_spec (state : DispatchState) (resources : List DisplayResource) :
    awaiting (state.removeDisplays resources) = awaiting state ∧
      ∀ handler, handler ∈ (state.removeDisplays resources).alive ↔
        handler ∈ state.alive ∧ ∀ resource ∈ resources, handler ≠ resource.display.address := by
  induction resources generalizing state with
  | nil => exact ⟨rfl, fun handler => by simp [removeDisplays]⟩
  | cons resource rest induction =>
      obtain ⟨same, alive⟩ := induction (state.removeDisplay resource.display)
      constructor
      · exact same
      · intro handler
        apply (alive handler).trans
        simp only [removeDisplay, List.mem_filter, decide_eq_true_eq, List.forall_mem_cons,
          and_assoc]

theorem all_alive_remove {state : DispatchState} (alive : AllAlive state)
    (resources : List DisplayResource) :
    AllAlive (state.removeDisplays resources) ↔
      ∀ resource ∈ resources, resource.display.address ∉ awaiting state := by
  obtain ⟨same, remains⟩ := removeDisplays_spec state resources
  unfold AllAlive
  rw [same]
  constructor
  · intro after resource member waiting
    exact ((remains _).mp (after _ waiting)).2 resource member rfl
  · intro apart handler waiting
    apply (remains handler).mpr
    refine ⟨alive handler waiting, ?_⟩
    rintro resource member rfl
    exact apart resource member waiting

theorem all_alive_grow {state after : DispatchState} (alive : AllAlive state)
    (kept : ∀ handler ∈ state.alive, handler ∈ after.alive)
    (waiting : ∀ handler ∈ awaiting after, handler ∈ awaiting state ∨ handler ∈ state.alive) :
    AllAlive after := by
  intro handler member
  apply kept
  rcases waiting handler member with before | living
  · exact alive handler before
  · exact living

theorem awaiting_ready (state : DispatchState) (added : Nat) :
    ∀ handler ∈ awaiting (state.handlerIsReadyForDispatch added),
      handler ∈ awaiting state ∨ handler = added := by
  intro handler member
  unfold DispatchState.handlerIsReadyForDispatch at member
  split_ifs at member
  · exact Or.inl member
  · simp only [awaiting, List.mem_append, List.mem_singleton] at member ⊢
    tauto

theorem new_display_same (state : DispatchState) (id : String) :
    awaiting (state.handleNewDisplay id) = awaiting state ∧
      ∀ handler ∈ state.alive, handler ∈ (state.handleNewDisplay id).alive := by
  unfold DispatchState.handleNewDisplay
  split
  · rename_i display found
    have acquired : state.acquireDisplay id = state.touch display 1 := by
      simp only [DispatchState.acquireDisplay, found]
    rw [acquired]
    exact ⟨rfl, fun _ member => member⟩
  · exact ⟨rfl, fun _ member => List.mem_cons_of_mem _ member⟩

theorem mem_flatten_set {polls : List (List Nat)} {index handler : Nat} {rest : List Nat}
    (found : polls[index]? = some (handler :: rest)) {other : Nat}
    (member : other ∈ (polls.set index rest).flatten) : other ∈ polls.flatten := by
  obtain ⟨poll, among, inside⟩ := List.mem_flatten.mp member
  apply List.mem_flatten.mpr
  rcases List.mem_or_eq_of_mem_set among with among | rfl
  · exact ⟨poll, among, inside⟩
  · exact ⟨handler :: poll, List.mem_of_getElem? found, List.mem_cons_of_mem _ inside⟩

theorem alive_ready (state : DispatchState) (added : Nat) :
    (state.handlerIsReadyForDispatch added).alive = state.alive := by
  unfold DispatchState.handlerIsReadyForDispatch
  split_ifs <;> rfl

theorem all_alive_ready {state : DispatchState} {added : Nat} (alive : AllAlive state)
    (living : added ∈ state.alive) : AllAlive (state.handlerIsReadyForDispatch added) := by
  apply all_alive_grow alive
  · intro handler member
    rw [alive_ready]
    exact member
  · intro handler member
    rcases awaiting_ready state added handler member with before | rfl
    · exact Or.inl before
    · exact Or.inr living

theorem removes_none {state : DispatchState} {action : DispatchAction}
    (nothing : removedBy state action = []) (after : DispatchState) :
    RemovesNoneAwaiting state action after := by
  intro resource member
  rw [nothing] at member
  cases member

theorem all_alive_step {state after : DispatchState} {action : DispatchAction}
    (alive : AllAlive state) (taken : dispatchStep state action = some after) :
    AllAlive after ↔ RemovesNoneAwaiting state action after := by
  cases action with
  | killObsoleteDisplays =>
      cases taken
      exact all_alive_remove alive _
  | killAllDisplays =>
      cases taken
      exact all_alive_remove alive _
  | createHandler =>
      cases taken
      apply iff_of_true _ (removes_none rfl _)
      exact all_alive_grow alive (fun _ member => List.mem_cons_of_mem _ member)
        fun _ member => Or.inl member
  | registerMessageHandler handler =>
      simp only [dispatchStep] at taken
      split_ifs at taken
      cases taken
      apply iff_of_true _ (removes_none rfl _)
      unfold DispatchState.registerMessageHandler
      split_ifs <;> exact alive
  | unregisterMessageHandler handler =>
      cases taken
      exact iff_of_true alive (removes_none rfl _)
  | newDisplay id =>
      cases taken
      apply iff_of_true _ (removes_none rfl _)
      obtain ⟨same, kept⟩ := new_display_same state id
      apply all_alive_grow alive kept
      intro handler member
      exact Or.inl (same ▸ member)
  | acquireDisplay id =>
      cases taken
      apply iff_of_true _ (removes_none rfl _)
      unfold DispatchState.acquireDisplay
      split <;> exact alive
  | releaseDisplay display =>
      simp only [dispatchStep] at taken
      split_ifs at taken
      cases taken
      exact iff_of_true alive (removes_none rfl _)
  | handleDisplayUpdateAvailable display direct =>
      simp only [dispatchStep] at taken
      apply iff_of_true _ (removes_none rfl _)
      split_ifs at taken with living <;> cases taken
      · exact all_alive_ready alive living
      · refine all_alive_grow alive (fun _ member => member) ?_
        intro handler member
        simp only [awaiting, List.mem_append, List.mem_singleton] at member ⊢
        rcases member with (requesting | queued | rfl) | polled
        · exact Or.inl (Or.inl (Or.inl requesting))
        · exact Or.inl (Or.inl (Or.inr queued))
        · exact Or.inr living
        · exact Or.inl (Or.inr polled)
  | deliverReady =>
      simp only [dispatchStep] at taken
      apply iff_of_true _ (removes_none rfl _)
      split at taken
      · cases taken
      rename_i added rest queue
      cases taken
      have fewer : AllAlive { state with queued := rest } := by
        refine all_alive_grow alive (fun _ member => member) ?_
        intro handler member
        simp only [awaiting, queue, List.mem_append, List.mem_cons] at member ⊢
        tauto
      have living : added ∈ state.alive := by
        apply alive
        simp [awaiting, queue]
      exact all_alive_ready fewer living
  | takePendingMessages =>
      cases taken
      apply iff_of_true _ (removes_none rfl _)
      refine all_alive_grow alive (fun _ member => member) ?_
      intro handler member
      simp only [awaiting, DispatchState.takePendingMessages, List.nil_append, List.mem_append,
        List.flatten_append, List.flatten_cons, List.flatten_nil, List.append_nil] at member ⊢
      tauto
  | pollHandler index =>
      simp only [dispatchStep] at taken
      apply iff_of_true _ (removes_none rfl _)
      split at taken
      · rename_i handler rest found
        cases taken
        refine all_alive_grow alive (fun _ member => member) ?_
        intro other member
        simp only [awaiting, List.mem_append] at member ⊢
        rcases member with before | polled
        · exact Or.inl (Or.inl before)
        · exact Or.inl (Or.inr (mem_flatten_set found polled))
      · cases taken
  | elapse milliseconds =>
      cases taken
      exact iff_of_true alive (removes_none rfl _)

/-- In every run, no dead handler is polled or waits to be polled exactly if no display is
deleted that is in the list, in a running poll or in a queued call. -/
theorem no_dead_handler_polled (actions : List DispatchAction) :
    Along dispatchStep NoDeadPolled start actions ↔
      Along dispatchStep RemovesNoneAwaiting start actions := by
  have preserved : ∀ state action after, AllAlive state → dispatchStep state action = some after →
      NoDeadPolled state action after → AllAlive after := by
    intro state action after _ _ polled
    exact polled.2
  apply along_congr_while preserved
  · intro state action after alive taken
    rw [← all_alive_step alive taken]
    constructor
    · intro polled
      exact polled.2
    · intro living
      refine ⟨?_, living⟩
      rintro index handler rest rfl found
      apply alive
      apply List.mem_append_right
      exact List.mem_flatten.mpr ⟨_, List.mem_of_getElem? found, List.mem_cons_self⟩
  · intro handler member
    cases member

/-- A display has an update nobody fetches, and is deleted after two minutes without use. -/
def updatedThenRemoved : List DispatchAction :=
  [.newDisplay "d", .handleDisplayUpdateAvailable ⟨"d", 0⟩ false, .deliverReady, .elapse 120001,
    .killObsoleteDisplays, .takePendingMessages]

/-- The next channel that takes the pending messages polls it. -/
theorem removed_display_polled :
    ¬ ∀ actions : List DispatchAction, Along dispatchStep NoDeadPolled start actions := by
  intro living
  have along := living (updatedThenRemoved ++ [.pollHandler 0])
  obtain ⟨middle, executed⟩ : ∃ middle,
      execute dispatchStep start updatedThenRemoved = some middle :=
    Option.isSome_iff_exists.mp (by decide +kernel)
  have dead : (execute dispatchStep start updatedThenRemoved).map
      (fun state => (state.polls, state.alive)) = some ([[0]], []) := by
    decide +kernel
  simp only [executed, Option.map_some, Option.some.injEq, Prod.mk.injEq] at dead
  have found : middle.polls[0]? = some [0] := by simp [dead.1]
  have taken : dispatchStep middle (.pollHandler 0) =
      some { middle with polls := middle.polls.set 0 [] } := by
    simp only [dispatchStep, found]
  have polled := (along.last executed taken).1 0 0 [] rfl found
  rw [dead.2] at polled
  cases polled

end Viridity.MessageDispatch
