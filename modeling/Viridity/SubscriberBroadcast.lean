import Mathlib.Data.List.Nodup
import Viridity.DataBridge
import Viridity.OverwrittenAnswers

/-!
# Broadcast to subscribers

A data bridge that belongs to no session sends its data to the sessions that subscribed to it,
and forgets those that are gone meanwhile. Sessions come in the order of their hash,
subscribers in that of their set.
-/

namespace Viridity.SubscriberBroadcast

open Viridity.DataBridge
open Viridity.OverwrittenAnswers
open Viridity.NumberText
open Viridity.TextEncoding

set_option autoImplicit false

/-- `posted` are the calls of `dispatchMessageToClient` queued for the thread of the session. -/
structure ViriditySession where
  id : Units
  named : id ≠ []
  logic : Option Nat
  isAttached : Bool
  posted : List (Bytes × Units)

def ViriditySession.dispatchMessageToClient (session : ViriditySession) (message : Bytes)
    (targetId : Units) : ViriditySession :=
  { session with posted := session.posted ++ [(message, targetId)] }

/-- The hash has one session for an identifier. What the global handlers are given is on
record. -/
structure AbstractViriditySessionManager where
  sessions : List ViriditySession
  distinct : (sessions.map ViriditySession.id).Nodup
  sessionInKillGracePeriod : List Units
  globalMessages : List Bytes

namespace AbstractViriditySessionManager

variable (manager : AbstractViriditySessionManager)

def post (message : Bytes) (targetId : Units) (addressed : ViriditySession → Bool) :
    AbstractViriditySessionManager where
  sessions := manager.sessions.map fun session =>
    if addressed session then session.dispatchMessageToClient message targetId else session
  distinct := by
    have same : (ViriditySession.id ∘ fun session : ViriditySession =>
        if addressed session then session.dispatchMessageToClient message targetId else session) =
          ViriditySession.id := by
      funext session
      rw [Function.comp_apply, apply_ite ViriditySession.id]
      exact ite_self _
    rw [List.map_map, same]
    exact manager.distinct
  sessionInKillGracePeriod := manager.sessionInKillGracePeriod
  globalMessages := manager.globalMessages

def getSession (id : Units) : Option ViriditySession × AbstractViriditySessionManager :=
  match manager.sessions.find? fun session => session.id = id with
  | some session =>
      (some session,
        { manager with sessionInKillGracePeriod := manager.sessionInKillGracePeriod.insert id })
  | none => (none, manager)

def dispatchMessageToGlobalHandlers (message : Bytes) : AbstractViriditySessionManager :=
  { manager with globalMessages := manager.globalMessages ++ [message] }

def dispatchMessageToClientMatchingLogic (message : Bytes) (logic : Option Nat)
    (targetId : Units) : Bool × AbstractViriditySessionManager :=
  let dispatched := manager.sessions.countP fun session => session.logic = logic
  let posted := manager.post message targetId fun session => session.logic = logic
  (decide (0 < dispatched),
    if dispatched = 0 then posted.dispatchMessageToGlobalHandlers message else posted)

/-- An empty session identifier addresses all sessions. -/
def dispatchMessageToClient (message : Bytes) (sessionId targetId : Units) :
    Bool × AbstractViriditySessionManager :=
  if sessionId = [] then
    (decide (0 < manager.sessions.length), manager.post message targetId fun _ => true)
  else
    match manager.getSession sessionId with
    | (some session, manager) =>
        (true, manager.post message targetId fun other => other.id = session.id)
    | (none, manager) => (false, manager)

end AbstractViriditySessionManager

/-- `session` is the logic of the session the bridge belongs to, if it does to one. The set of
subscribers is a list in the order in which it is gone through. -/
structure ViridityNativeDataBridge where
  session : Option (Option Nat)
  targetId : Units
  responseId : Nat
  subscriberSessionIds : List Units
  distinct : subscriberSessionIds.Nodup

inductive Variant where
  | int (value : Nat)
  | bool (value : Bool)
deriving DecidableEq

namespace ViridityNativeDataBridge

def subscribeSession (bridge : ViridityNativeDataBridge) (subscribingSessionId : Units) :
    ViridityNativeDataBridge :=
  { bridge with
    subscriberSessionIds := bridge.subscriberSessionIds.insert subscribingSessionId
    distinct := List.Nodup.insert bridge.distinct }

def unsubscribeSession (bridge : ViridityNativeDataBridge) (unsubscribingSessionId : Units) :
    ViridityNativeDataBridge :=
  { bridge with
    subscriberSessionIds := bridge.subscriberSessionIds.erase unsubscribingSessionId
    distinct := List.Nodup.erase _ bridge.distinct }

structure Sent where
  dispatched : Bool
  bridge : ViridityNativeDataBridge
  manager : AbstractViriditySessionManager

def sendToSubscriber (message : Bytes) (sent : Sent) (sessionId : Units) : Sent :=
  match sent.manager.getSession sessionId with
  | (some session, manager) =>
      if session.isAttached then
        let (dispatched, manager) :=
          manager.dispatchMessageToClient message sessionId sent.bridge.targetId
        { sent with dispatched, manager }
      else { dispatched := false, bridge := sent.bridge.unsubscribeSession sessionId, manager }
  | (none, manager) =>
      { dispatched := false, bridge := sent.bridge.unsubscribeSession sessionId, manager }

/-- The loop goes through a copy of the set. -/
def sendToSubscribers (message : Bytes) (bridge : ViridityNativeDataBridge)
    (manager : AbstractViriditySessionManager) : Sent :=
  bridge.subscriberSessionIds.foldl (sendToSubscriber message)
    { dispatched := false, bridge, manager }

def getNewResponseId (bridge : ViridityNativeDataBridge) : ViridityNativeDataBridge :=
  { bridge with responseId := bridge.responseId + 1 }

def dataMessage (responseId : Nat) (data : Text) : Bytes :=
  utf8.encode (bridgeMessage dataText (number responseId) data)

/-- In the value returned false becomes a number, as the number of the call is one. -/
def sendData (bridge : ViridityNativeDataBridge) (manager : Option AbstractViriditySessionManager)
    (data : Text) (destinationSessionId : Units) :
    Variant × ViridityNativeDataBridge × Option AbstractViriditySessionManager :=
  let bridge := bridge.getNewResponseId
  match manager with
  | none => (.bool false, bridge, none)
  | some manager =>
      let message := dataMessage bridge.responseId data
      let sent : Sent :=
        match bridge.session with
        | some logic =>
            let (dispatched, manager) :=
              if destinationSessionId = [] then
                manager.dispatchMessageToClientMatchingLogic message logic bridge.targetId
              else manager.dispatchMessageToClient message destinationSessionId bridge.targetId
            { dispatched, bridge, manager }
        | none => bridge.sendToSubscribers message manager
      (.int (if sent.dispatched then bridge.responseId else 0), sent.bridge, some sent.manager)

end ViridityNativeDataBridge

open AbstractViriditySessionManager
open ViridityNativeDataBridge

/-- Whether there is a session of the identifier and it is attached. -/
def AbstractViriditySessionManager.attachedTo (manager : AbstractViriditySessionManager)
    (id : Units) : Bool :=
  manager.sessions.any fun session => session.id = id && session.isAttached

/-- A session given a message if it is attached and among the subscribers. -/
def receive (message : Bytes) (targetId : Units) (subscribers : List Units)
    (session : ViriditySession) : ViriditySession :=
  if session.id ∈ subscribers ∧ session.isAttached = true then
    session.dispatchMessageToClient message targetId
  else session

/-- What the rounds for some subscribers do: these receive the message, or are forgotten. -/
structure Visited (message : Bytes) (subscribers : List Units) (sent after : Sent) : Prop where
  sessions : after.manager.sessions =
    sent.manager.sessions.map (receive message sent.bridge.targetId subscribers)
  remaining : ∀ id, id ∈ after.bridge.subscriberSessionIds ↔
    id ∈ sent.bridge.subscriberSessionIds ∧
      (id ∈ subscribers → sent.manager.attachedTo id = true)
  targetId : after.bridge.targetId = sent.bridge.targetId
  responseId : after.bridge.responseId = sent.bridge.responseId

section Rounds

variable {message : Bytes} {sent : Sent}

theorem session_attached {manager : AbstractViriditySessionManager} {session : ViriditySession}
    (member : session ∈ manager.sessions) : manager.attachedTo session.id = session.isAttached := by
  unfold AbstractViriditySessionManager.attachedTo
  cases attached : session.isAttached with
  | true =>
      rw [List.any_eq_true]
      exact ⟨session, member, by simp [attached]⟩
  | false =>
      rw [List.any_eq_false]
      intro other among same
      simp only [Bool.and_eq_true, decide_eq_true_eq] at same
      have equal := List.inj_on_of_nodup_map manager.distinct among member same.1
      rw [equal, attached] at same
      exact Bool.false_ne_true same.2

theorem receive_id (message : Bytes) (targetId : Units) (subscribers : List Units)
    (session : ViriditySession) :
    (receive message targetId subscribers session).id = session.id := by
  unfold receive
  split_ifs <;> rfl

theorem receive_attached (message : Bytes) (targetId : Units) (subscribers : List Units)
    (session : ViriditySession) :
    (receive message targetId subscribers session).isAttached = session.isAttached := by
  unfold receive
  split_ifs <;> rfl

theorem Visited.attached {after : Sent} {subscribers : List Units}
    (visited : Visited message subscribers sent after) (id : Units) :
    after.manager.attachedTo id = sent.manager.attachedTo id := by
  unfold AbstractViriditySessionManager.attachedTo
  rw [visited.sessions, List.any_map]
  congr 1
  funext session
  simp [receive_id, receive_attached]

theorem visited_forgotten {sessionId : Units} {manager : AbstractViriditySessionManager}
    (gone : sent.manager.attachedTo sessionId = false)
    (same : manager.sessions = sent.manager.sessions) :
    Visited message [sessionId] sent ⟨false, sent.bridge.unsubscribeSession sessionId, manager⟩ where
  sessions := by
    have untouched : ∀ session ∈ sent.manager.sessions,
        receive message sent.bridge.targetId [sessionId] session = session := by
      intro session member
      apply if_neg
      rintro ⟨here, attached⟩
      rw [← List.mem_singleton.mp here, session_attached member, attached] at gone
      exact Bool.false_ne_true gone.symm
    exact same.trans ((List.map_congr_left untouched).trans (List.map_id _)).symm
  remaining := by
    intro id
    rw [List.mem_singleton]
    show id ∈ sent.bridge.subscriberSessionIds.erase sessionId ↔ _
    rw [sent.bridge.distinct.mem_erase_iff]
    constructor
    · rintro ⟨apart, member⟩
      exact ⟨member, fun here => absurd here apart⟩
    · rintro ⟨member, attached⟩
      refine ⟨fun here => ?_, member⟩
      rw [here, gone] at attached
      exact Bool.false_ne_true (attached rfl)
  targetId := rfl
  responseId := rfl

theorem visited_attached {session : ViriditySession} {manager : AbstractViriditySessionManager}
    (member : session ∈ sent.manager.sessions) (attached : session.isAttached = true)
    (same : manager.sessions = sent.manager.sessions) :
    Visited message [session.id] sent
      ⟨true, sent.bridge, manager.post message sent.bridge.targetId fun other =>
        other.id = session.id⟩ where
  sessions := by
    show manager.sessions.map _ = _
    rw [same]
    apply List.map_congr_left
    intro other among
    by_cases here : other.id = session.id
    · have equal := List.inj_on_of_nodup_map sent.manager.distinct among member here
      simp [receive, equal, attached]
    · simp [receive, here]
  remaining := by
    intro id
    rw [List.mem_singleton]
    constructor
    · intro subscribed
      refine ⟨subscribed, fun here => ?_⟩
      rw [here, session_attached member, attached]
    · exact And.left
  targetId := rfl
  responseId := rfl

theorem get_session_cases (manager : AbstractViriditySessionManager) (id : Units) :
    (∃ session ∈ manager.sessions, ∃ looked : AbstractViriditySessionManager,
        session.id = id ∧ manager.getSession id = (some session, looked) ∧
          looked.sessions = manager.sessions) ∨
      ((∀ session ∈ manager.sessions, session.id ≠ id) ∧
        manager.getSession id = (none, manager)) := by
  unfold AbstractViriditySessionManager.getSession
  cases found : manager.sessions.find? fun session => session.id = id with
  | some session =>
      refine Or.inl ⟨session, List.mem_of_find?_eq_some found, _, ?_, rfl, rfl⟩
      simpa using List.find?_some found
  | none =>
      refine Or.inr ⟨?_, rfl⟩
      intro session member same
      exact List.find?_eq_none.mp found session member (decide_eq_true same)

theorem missing_not_attached {manager : AbstractViriditySessionManager} {id : Units}
    (missing : ∀ session ∈ manager.sessions, session.id ≠ id) : manager.attachedTo id = false := by
  unfold AbstractViriditySessionManager.attachedTo
  rw [List.any_eq_false]
  intro session member same
  simp only [Bool.and_eq_true, decide_eq_true_eq] at same
  exact missing session member same.1

theorem dispatch_posts {manager : AbstractViriditySessionManager} {session : ViriditySession}
    (member : session ∈ manager.sessions) (message : Bytes) (targetId : Units) :
    ∃ looked : AbstractViriditySessionManager, looked.sessions = manager.sessions ∧
      manager.dispatchMessageToClient message session.id targetId =
        (true, looked.post message targetId fun other => other.id = session.id) := by
  unfold AbstractViriditySessionManager.dispatchMessageToClient
  rw [if_neg session.named]
  rcases get_session_cases manager session.id with
    ⟨same, among, looked, named, found, sessions⟩ | ⟨missing, _⟩
  · rw [found, List.inj_on_of_nodup_map manager.distinct among member named]
    exact ⟨looked, sessions, rfl⟩
  · exact absurd rfl (missing session member)

theorem round_visited (sessionId : Units) :
    Visited message [sessionId] sent (sendToSubscriber message sent sessionId) ∧
      (sendToSubscriber message sent sessionId).dispatched = sent.manager.attachedTo sessionId := by
  unfold sendToSubscriber
  rcases get_session_cases sent.manager sessionId with
    ⟨session, member, looked, named, found, same⟩ | ⟨missing, notFound⟩
  · have known := session_attached member
    rw [named] at known
    rw [found]
    cases attached : session.isAttached with
    | false =>
        rw [attached] at known
        simp only [attached, Bool.false_eq_true, if_false]
        exact ⟨visited_forgotten known same, known.symm⟩
    | true =>
        obtain ⟨again, sessions, posted⟩ :=
          dispatch_posts (same.symm ▸ member) message sent.bridge.targetId
        rw [attached] at known
        rw [named] at posted
        simp only [attached, if_true, posted]
        rw [← named] at known ⊢
        exact ⟨visited_attached member attached (sessions.trans same), known.symm⟩
  · have gone := missing_not_attached missing
    rw [notFound]
    exact ⟨visited_forgotten gone rfl, gone.symm⟩

theorem Visited.trans {first second : List Units} {middle after : Sent}
    (former : Visited message first sent middle) (latter : Visited message second middle after)
    (disjoint : first.Disjoint second) : Visited message (first ++ second) sent after where
  sessions := by
    rw [latter.sessions, former.sessions, former.targetId, List.map_map]
    congr 1
    funext session
    rw [Function.comp_apply]
    unfold receive
    have apart : session.id ∈ first → session.id ∉ second := fun here there => disjoint here there
    split_ifs <;> simp_all [ViriditySession.dispatchMessageToClient]
  remaining := by
    intro id
    rw [latter.remaining, former.remaining, former.attached, List.mem_append]
    tauto
  targetId := latter.targetId.trans former.targetId
  responseId := latter.responseId.trans former.responseId

theorem loop_visited (subscribers : List Units) (distinct : subscribers.Nodup) (sent : Sent)
    (message : Bytes) :
    Visited message subscribers sent (subscribers.foldl (sendToSubscriber message) sent) ∧
      (subscribers.foldl (sendToSubscriber message) sent).dispatched =
        (subscribers.map sent.manager.attachedTo).getLast?.getD sent.dispatched := by
  induction subscribers generalizing sent with
  | nil =>
      refine ⟨⟨?_, ?_, rfl, rfl⟩, rfl⟩
      · have untouched : ∀ session : ViriditySession,
            receive message sent.bridge.targetId [] session = session :=
          fun session => if_neg fun among => List.not_mem_nil among.1
        exact (List.map_congr_left fun session _ => untouched session).trans (List.map_id _) |>.symm
      · simp
  | cons sessionId rest induction =>
      rw [List.nodup_cons] at distinct
      have first := @round_visited message sent sessionId
      have later := induction distinct.2 (sendToSubscriber message sent sessionId)
      refine ⟨first.1.trans later.1 (List.singleton_disjoint.mpr distinct.1), ?_⟩
      have same : rest.map (sendToSubscriber message sent sessionId).manager.attachedTo =
          rest.map sent.manager.attachedTo :=
        List.map_congr_left fun id _ => first.1.attached id
      rw [List.foldl_cons, later.2, same, first.2, List.map_cons, List.getLast?_cons]
      rfl

end Rounds

/-- The message went to the attached sessions among the subscribers and to no one else, these
stay subscribed, and the value returned tells whether there was one. -/
structure BroadcastExact (bridge : ViridityNativeDataBridge)
    (manager : AbstractViriditySessionManager) (data : Text)
    (outcome : Variant × ViridityNativeDataBridge × Option AbstractViriditySessionManager) :
    Prop where
  sessions : outcome.2.2.map AbstractViriditySessionManager.sessions =
    some (manager.sessions.map (receive (dataMessage (bridge.responseId + 1) data) bridge.targetId
      bridge.subscriberSessionIds))
  remaining : ∀ id, id ∈ outcome.2.1.subscriberSessionIds ↔
    id ∈ bridge.subscriberSessionIds ∧ manager.attachedTo id = true
  returned : outcome.1 =
    .int (if ∃ id ∈ bridge.subscriberSessionIds, manager.attachedTo id = true then
      bridge.responseId + 1 else 0)

theorem send_data_loop {bridge : ViridityNativeDataBridge} (unowned : bridge.session = none)
    (manager : AbstractViriditySessionManager) (data : Text) (destinationSessionId : Units) :
    ∃ sent : Sent,
      bridge.sendData (some manager) data destinationSessionId =
          (.int (if sent.dispatched then bridge.responseId + 1 else 0), sent.bridge,
            some sent.manager) ∧
        Visited (dataMessage (bridge.responseId + 1) data) bridge.subscriberSessionIds
            ⟨false, bridge.getNewResponseId, manager⟩ sent ∧
          sent.dispatched = lastAnswer (bridge.subscriberSessionIds.map manager.attachedTo) := by
  have loop := loop_visited bridge.subscriberSessionIds bridge.distinct
    ⟨false, bridge.getNewResponseId, manager⟩ (dataMessage (bridge.responseId + 1) data)
  have owner : bridge.getNewResponseId.session = none := unowned
  refine ⟨_, ?_, loop.1, loop.2⟩
  unfold ViridityNativeDataBridge.sendData
  simp only [owner]
  rfl

theorem number_tells {first second : Prop} [Decidable first] [Decidable second] {count : Nat}
    (same : (if first then count + 1 else 0) = if second then count + 1 else 0) :
    first ↔ second := by
  by_cases holds : first
  · rw [if_pos holds] at same
    refine iff_of_true holds ?_
    by_contra fails
    rw [if_neg fails] at same
    omega
  · rw [if_neg holds] at same
    refine iff_of_false holds ?_
    intro other
    rw [if_pos other] at same
    omega

/-- A broadcast is exact exactly if the last subscriber gone through is attached, where one is. -/
theorem broadcast_exact_iff {bridge : ViridityNativeDataBridge} (unowned : bridge.session = none)
    (manager : AbstractViriditySessionManager) (data : Text) (destinationSessionId : Units) :
    BroadcastExact bridge manager data
        (bridge.sendData (some manager) data destinationSessionId) ↔
      EndsPositive (bridge.subscriberSessionIds.map manager.attachedTo) := by
  obtain ⟨sent, result, visited, last⟩ :=
    send_data_loop unowned manager data destinationSessionId
  have mentioned : true ∈ bridge.subscriberSessionIds.map manager.attachedTo ↔
      ∃ id ∈ bridge.subscriberSessionIds, manager.attachedTo id = true := List.mem_map
  rw [← last_answer_truthful_iff, mentioned, ← last, result]
  constructor
  · intro exact
    exact number_tells (Variant.int.inj exact.returned)
  · intro truthful
    exact {
      sessions := congrArg some visited.sessions
      remaining := by
        intro id
        rw [visited.remaining id]
        exact and_congr_right fun subscribed => ⟨fun attached => attached subscribed,
          fun attached _ => attached⟩
      returned := congrArg Variant.int (if_congr truthful rfl rfl) }

def globalBridge : ViridityNativeDataBridge where
  session := none
  targetId := [7]
  responseId := 0
  subscriberSessionIds := [[1], [2]]
  distinct := by decide

/-- The two sessions of the subscribers, the second maybe left by its client. -/
def subscribedManager (attached : Bool) : AbstractViriditySessionManager where
  sessions := [⟨[1], by decide, none, true, []⟩, ⟨[2], by decide, none, attached, []⟩]
  distinct := by
    cases attached <;> decide
  sessionInKillGracePeriod := []
  globalMessages := []

theorem attached_subscribers_exact :
    BroadcastExact globalBridge (subscribedManager true) []
      (globalBridge.sendData (some (subscribedManager true)) [] []) :=
  (broadcast_exact_iff rfl (subscribedManager true) [] []).mpr (by decide)

/-- The first session gets the message, and the bridge says that none did. -/
theorem dispatched_data_denied :
    ¬ ∀ (bridge : ViridityNativeDataBridge) (manager : AbstractViriditySessionManager)
      (data : Text), bridge.session = none →
        BroadcastExact bridge manager data (bridge.sendData (some manager) data []) := by
  intro exact
  have returned := (exact globalBridge (subscribedManager false) [] rfl).returned
  revert returned
  decide

end Viridity.SubscriberBroadcast
