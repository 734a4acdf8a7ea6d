import Viridity.OverwrittenAnswers
import Viridity.ServerMessages

/-!
# Dispatch of messages to handlers

Sessions and their manager offer a message to registered handlers. A handler is any code: what
it accepts and answers may depend on everything else and change it. The answers given are on
record beside the result.
-/

namespace Viridity.HandlerDispatch

open Viridity.OverwrittenAnswers
open Viridity.ServerMessages
open Viridity.TextEncoding

set_option autoImplicit false

/-- Both calls are given the message without its target, the session and the target. -/
structure ViridityMessageHandler (World : Type) where
  canHandleMessage : Bytes → Units → Option Units → World → Bool × World
  handleMessage : Bytes → Units → Option Units → World → Bool × World

/-- The list of handlers is part of what a handler may change. -/
structure ViriditySession (World : Type) where
  id : Units
  messageHandlers : World → List (ViridityMessageHandler World)
  resetLastUsed : World → World

/-- The sessions come in the order of their hash. Looking one up starts its grace period. -/
structure AbstractViriditySessionManager (World : Type) where
  sessions : World → List (ViriditySession World)
  messageHandlers : World → List (ViridityMessageHandler World)
  startKillGracePeriod : Units → World → World

structure Delivery (World : Type) where
  result : Bool
  world : World
  answers : List Bool

/-- What a dispatch has come to: the deliveries in the sessions addressed, and the one to the
global handlers if they were tried. -/
structure Dispatch (World : Type) where
  result : Bool
  world : World
  deliveries : List (Delivery World)
  globals : Option (Delivery World)

variable {World : Type} (decoder : Decoder)

def offer (message : Bytes) (sessionId : Units) (targetId : Option Units)
    (delivery : Delivery World) (handler : ViridityMessageHandler World) : Delivery World :=
  let (accepted, world) := handler.canHandleMessage message sessionId targetId delivery.world
  if accepted then
    let (result, world) := handler.handleMessage message sessionId targetId world
    { result, world, answers := delivery.answers ++ [result] }
  else { delivery with world }

def offerAll (message : Bytes) (sessionId : Units) (world : World)
    (handlers : List (ViridityMessageHandler World)) : Delivery World :=
  let (targetId, modMsg) := takeTargetFromMessage decoder message
  handlers.foldl (offer modMsg sessionId targetId) { result := false, world, answers := [] }

namespace ViriditySession

def sendMessageToHandlers (session : ViriditySession World) (message : Bytes) (world : World) :
    Delivery World :=
  let world := session.resetLastUsed world
  offerAll decoder message session.id world (session.messageHandlers world)

/-- Waits for the thread of the session. -/
def dispatchMessageToHandlers (session : ViriditySession World) (message : Bytes)
    (world : World) : Delivery World :=
  session.sendMessageToHandlers decoder message world

end ViriditySession

namespace AbstractViriditySessionManager

variable (manager : AbstractViriditySessionManager World)

def getSession (id : Units) (world : World) : Option (ViriditySession World) × World :=
  match (manager.sessions world).find? fun session => session.id = id with
  | some session => (some session, manager.startKillGracePeriod id world)
  | none => (none, world)

def dispatchMessageToGlobalHandlers (message : Bytes) (srcSessionId : Units) (world : World) :
    Delivery World :=
  offerAll decoder message srcSessionId world (manager.messageHandlers world)

def dispatchMessageToSession (message : Bytes) (dispatch : Dispatch World)
    (session : ViriditySession World) : Dispatch World :=
  let delivery := session.dispatchMessageToHandlers decoder message dispatch.world
  { dispatch with
    result := delivery.result
    world := delivery.world
    deliveries := dispatch.deliveries ++ [delivery] }

/-- An empty session identifier addresses all sessions. -/
def addressed (sessionId : Units) (world : World) : List (ViriditySession World) × World :=
  if sessionId = [] then (manager.sessions world, world)
  else
    let (session, world) := manager.getSession sessionId world
    (session.toList, world)

def dispatchMessageToHandlers (message : Bytes) (sessionId : Units) (world : World) :
    Dispatch World :=
  let (sessions, world) := manager.addressed sessionId world
  let dispatch := sessions.foldl (dispatchMessageToSession decoder message)
    { result := false, world, deliveries := [], globals := none }
  if dispatch.result then dispatch
  else
    let delivery := manager.dispatchMessageToGlobalHandlers decoder message sessionId dispatch.world
    { dispatch with world := delivery.world, globals := some delivery }

end AbstractViriditySessionManager

/-- The loop tells whether a handler that accepted the message handled it. -/
def Delivery.Truthful (delivery : Delivery World) : Prop :=
  delivery.result = true ↔ true ∈ delivery.answers

/-- Each session tells the truth, the manager tells whether the message was delivered in one of
them, and the global handlers are tried exactly if not. -/
def Dispatch.Truthful (dispatch : Dispatch World) : Prop :=
  (∀ delivery ∈ dispatch.deliveries, delivery.Truthful) ∧
    (dispatch.result = true ↔ ∃ delivery ∈ dispatch.deliveries, true ∈ delivery.answers) ∧
      (dispatch.globals.isSome = true ↔ dispatch.result = false)

/-- What the handlers that accept a message answer, offered it one after the other. -/
def answers (message : Bytes) (sessionId : Units) (targetId : Option Units) :
    World → List (ViridityMessageHandler World) → List Bool
  | _, [] => []
  | world, handler :: rest =>
      let (accepted, world) := handler.canHandleMessage message sessionId targetId world
      if accepted then
        let (answer, world) := handler.handleMessage message sessionId targetId world
        answer :: answers message sessionId targetId world rest
      else answers message sessionId targetId world rest

namespace ViriditySession

/-- The answers of the handlers a session has when a message comes. -/
def handlerAnswers (session : ViriditySession World) (message : Bytes) (world : World) :
    List Bool :=
  let world := session.resetLastUsed world
  let (targetId, modMsg) := takeTargetFromMessage decoder message
  answers modMsg session.id targetId world (session.messageHandlers world)

end ViriditySession

/-- The answers in each of some sessions, addressed one after the other. -/
def sessionAnswers (message : Bytes) : World → List (ViriditySession World) → List (List Bool)
  | _, [] => []
  | world, session :: rest =>
      session.handlerAnswers decoder message world ::
        sessionAnswers message (session.sendMessageToHandlers decoder message world).world rest

theorem offer_all_loop (message : Bytes) (sessionId : Units) (targetId : Option Units)
    (handlers : List (ViridityMessageHandler World)) (delivery : Delivery World)
    (last : delivery.result = lastAnswer delivery.answers) :
    (handlers.foldl (offer message sessionId targetId) delivery).answers =
        delivery.answers ++ answers message sessionId targetId delivery.world handlers ∧
      (handlers.foldl (offer message sessionId targetId) delivery).result =
        lastAnswer (handlers.foldl (offer message sessionId targetId) delivery).answers := by
  induction handlers generalizing delivery with
  | nil => simp [answers, last]
  | cons handler rest induction =>
      rw [List.foldl_cons]
      cases accepted : (handler.canHandleMessage message sessionId targetId delivery.world).1 with
      | true =>
          have called := induction (offer message sessionId targetId delivery handler)
            (by simp [offer, accepted])
          refine ⟨?_, called.2⟩
          rw [called.1]
          simp [offer, answers, accepted]
      | false =>
          have passed := induction (offer message sessionId targetId delivery handler)
            (by simp [offer, accepted, last])
          refine ⟨?_, passed.2⟩
          rw [passed.1]
          simp [offer, answers, accepted]

theorem send_answers (session : ViriditySession World) (message : Bytes) (world : World) :
    (session.sendMessageToHandlers decoder message world).answers =
      session.handlerAnswers decoder message world :=
  ((offer_all_loop _ _ _ _ _ rfl).1).trans (List.nil_append _)

theorem send_result (session : ViriditySession World) (message : Bytes) (world : World) :
    (session.sendMessageToHandlers decoder message world).result =
      lastAnswer (session.handlerAnswers decoder message world) := by
  rw [← send_answers]
  exact (offer_all_loop _ _ _ _ _ rfl).2

/-- A session tells the truth exactly if no handler that accepts the message refuses it after
the last one that handles it. -/
theorem send_truthful_iff (session : ViriditySession World) (message : Bytes) (world : World) :
    (session.sendMessageToHandlers decoder message world).Truthful ↔
      EndsPositive (session.handlerAnswers decoder message world) := by
  unfold Delivery.Truthful
  rw [send_result, send_answers]
  exact last_answer_truthful_iff _

open AbstractViriditySessionManager

/-- In the loop over the sessions each delivery keeps its last answer, and the dispatch the
result of the last delivery. -/
structure Dispatch.LastKept (dispatch : Dispatch World) : Prop where
  each : ∀ delivery ∈ dispatch.deliveries, delivery.result = lastAnswer delivery.answers
  last : dispatch.result = lastAnswer (dispatch.deliveries.map Delivery.result)

theorem last_kept_session {dispatch : Dispatch World} (kept : dispatch.LastKept) (message : Bytes)
    (session : ViriditySession World) :
    (dispatchMessageToSession decoder message dispatch session).LastKept where
  each := by
    intro delivery member
    rcases List.mem_append.mp member with earlier | here
    · exact kept.each delivery earlier
    · rw [List.mem_singleton.mp here]
      exact (send_result decoder session message dispatch.world).trans
        (congrArg lastAnswer (send_answers decoder session message dispatch.world).symm)
  last := by simp [dispatchMessageToSession]

theorem session_loop (message : Bytes) (sessions : List (ViriditySession World))
    (dispatch : Dispatch World) (kept : dispatch.LastKept) :
    (sessions.foldl (dispatchMessageToSession decoder message) dispatch).LastKept ∧
      (sessions.foldl (dispatchMessageToSession decoder message) dispatch).globals =
          dispatch.globals ∧
        (sessions.foldl (dispatchMessageToSession decoder message) dispatch).deliveries.map
            Delivery.answers =
          dispatch.deliveries.map Delivery.answers ++
            sessionAnswers decoder message dispatch.world sessions := by
  induction sessions generalizing dispatch with
  | nil => exact ⟨kept, rfl, (List.append_nil _).symm⟩
  | cons session rest induction =>
      have later := induction _ (last_kept_session decoder kept message session)
      rw [List.foldl_cons]
      refine ⟨later.1, later.2.1, later.2.2.trans ?_⟩
      have given := send_answers decoder session message dispatch.world
      simp [dispatchMessageToSession, sessionAnswers, ViriditySession.dispatchMessageToHandlers,
        given]

/-- A loop over sessions tells the truth exactly if in each session, and over all of them, no
refusal comes after the last time the message was handled. -/
theorem last_kept_truthful_iff {dispatch : Dispatch World} (kept : dispatch.LastKept) :
    ((∀ delivery ∈ dispatch.deliveries, delivery.Truthful) ∧
        (dispatch.result = true ↔ ∃ delivery ∈ dispatch.deliveries, true ∈ delivery.answers)) ↔
      (∀ answers ∈ dispatch.deliveries.map Delivery.answers, EndsPositive answers) ∧
        EndsPositive ((dispatch.deliveries.map Delivery.answers).map fun answers =>
          answers.contains true) := by
  have each : ∀ delivery ∈ dispatch.deliveries,
      (delivery.Truthful ↔ EndsPositive delivery.answers) := by
    intro delivery member
    unfold Delivery.Truthful
    rw [kept.each delivery member]
    exact last_answer_truthful_iff _
  rw [List.forall_mem_map, forall₂_congr each]
  apply and_congr_right
  intro ends
  have results : dispatch.deliveries.map Delivery.result =
      (dispatch.deliveries.map Delivery.answers).map fun answers => answers.contains true := by
    rw [List.map_map]
    apply List.map_congr_left
    intro delivery member
    rw [Function.comp_apply, Bool.eq_iff_iff, List.contains_iff_mem]
    exact (each delivery member).mpr (ends delivery member)
  rw [kept.last, results, ← last_answer_truthful_iff]
  apply iff_congr Iff.rfl
  simp

/-- Dispatch tells the truth exactly if the last handler of a session that accepts the message
handles it wherever one does, and the last session does wherever one does. -/
theorem dispatch_truthful_iff (manager : AbstractViriditySessionManager World) (message : Bytes)
    (sessionId : Units) (world : World) :
    (manager.dispatchMessageToHandlers decoder message sessionId world).Truthful ↔
      (∀ answers ∈ sessionAnswers decoder message (manager.addressed sessionId world).2
          (manager.addressed sessionId world).1, EndsPositive answers) ∧
        EndsPositive ((sessionAnswers decoder message (manager.addressed sessionId world).2
          (manager.addressed sessionId world).1).map fun answers => answers.contains true) := by
  have start : Dispatch.LastKept ⟨false, (manager.addressed sessionId world).2, [], none⟩ :=
    ⟨fun _ member => absurd member List.not_mem_nil, rfl⟩
  obtain ⟨kept, globals, given⟩ := session_loop decoder message
    (manager.addressed sessionId world).1 _ start
  have truthful := last_kept_truthful_iff kept
  rw [given] at truthful
  refine Iff.trans ?_ truthful
  unfold Dispatch.Truthful AbstractViriditySessionManager.dispatchMessageToHandlers
  dsimp only
  split_ifs with delivered
  · simp [delivered, globals]
  · simp [delivered]

def newDisplayText : Text := ['n', 'e', 'w', 'D', 'i', 's', 'p', 'l', 'a', 'y']

/-- A display manager: it accepts the message and answers whether it made a display. -/
def displayManager (created : Bool) : ViridityMessageHandler Unit where
  canHandleMessage message _ _ _ := ((utf8.encode newDisplayText).isPrefixOf message, ())
  handleMessage _ _ _ _ := (created, ())

/-- A session with two display managers, of which only the first has the target. -/
def twoDisplays : AbstractViriditySessionManager Unit where
  sessions _ := [⟨[1], fun _ => [displayManager true, displayManager false], id⟩]
  messageHandlers _ := []
  startKillGracePeriod _ := id

/-- The display was made, and the dispatch says no. -/
theorem made_display_denied :
    ¬ ∀ (manager : AbstractViriditySessionManager Unit) (message : Bytes) (sessionId : Units),
      (manager.dispatchMessageToHandlers strictDecoder message sessionId ()).Truthful := by
  intro truthful
  have told := (truthful twoDisplays (utf8.encode newDisplayText) []).2.1
  have handled : ∃ delivery ∈ (twoDisplays.dispatchMessageToHandlers strictDecoder
      (utf8.encode newDisplayText) [] ()).deliveries, true ∈ delivery.answers := by
    decide
  have denied : (twoDisplays.dispatchMessageToHandlers strictDecoder
      (utf8.encode newDisplayText) [] ()).result = false := by
    decide
  rw [denied] at told
  exact absurd (told.mpr handled) Bool.false_ne_true

end Viridity.HandlerDispatch
