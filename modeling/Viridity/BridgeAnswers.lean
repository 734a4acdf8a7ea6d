import Mathlib.Data.List.Perm.Basic
import Viridity.BridgeMessages
import Viridity.LabelledRuns

/-!
# Answers of data bridges

Every call in progress has its callback under its number until it is answered. An answer
invokes it once with what was returned and removes it: in the browser unless it comes in a
frame of bytes that is too long, on the server when the result is not undefined and the
callback does not throw.
-/

namespace Viridity.BridgeAnswers

open Viridity.LabelledRuns
open Viridity.NumberText
open Viridity.TextEncoding
open Viridity.ClientMessages
open Viridity.ServerMessages
open Viridity.DataBridge
open Viridity.BridgeMessages

set_option autoImplicit false

section Tables

variable {Callback : Type} {bridge : Bridge Callback} {name other : Units}

theorem lookup_assign_other (apart : name ≠ other) (callback : Option Callback) :
    (bridge.assign other callback).lookup name = bridge.lookup name := by
  cases callback with
  | none => rfl
  | some callback =>
      unfold Bridge.assign Bridge.lookup
      simp only
      rw [List.find?_cons_of_neg (by simp [apart.symm]), List.find?_filter]
      congr 2
      funext entry
      by_cases same : entry.1 = name
      · simp [same, apart]
      · simp [same]

theorem lookup_assign_self (callback : Callback) :
    (bridge.assign name (some callback)).lookup name = some callback := by
  simp [Bridge.assign, Bridge.lookup]

theorem lookup_delete_self : (bridge.delete name).lookup name = none := by
  simp [Bridge.delete, Bridge.lookup]

theorem lookup_delete_other (apart : name ≠ other) :
    (bridge.delete other).lookup name = bridge.lookup name := by
  unfold Bridge.delete Bridge.lookup
  simp only
  rw [List.find?_filter]
  congr 2
  funext entry
  by_cases same : entry.1 = name
  · simp [same, apart]
  · simp [same]

end Tables

variable {Value Callback : Type}

section States

def endOf (state : BridgeState Value Callback) : Side → Bridge Callback
  | .browser => state.browser
  | .qml => state.qml

def callsOf (state : BridgeState Value Callback) : Side → List (Option Callback)
  | .browser => state.browserCalls
  | .qml => state.qmlCalls

def callbackOf (state : BridgeState Value Callback) (side : Side) (call : Nat) : Option Callback :=
  ((callsOf state side)[call - 1]?).join

def tokens (state : BridgeState Value Callback) : List (Side × Nat) :=
  (state.toQml ++ state.toBrowser).map fun flight => (flight.caller, flight.call)

/-- Every call in progress has its callback at hand, and no number is used twice. -/
structure Kept (state : BridgeState Value Callback) (progress : List (Side × Nat)) : Prop where
  counted : ∀ side, (endOf state side).responseId = ((callsOf state side).length : Int)
  fresh : ∀ side call, (callsOf state side).length < call →
    (endOf state side).lookup (key call) = none
  registered : ∀ side call, (side, call) ∈ progress → 1 ≤ call ∧
    call ≤ (callsOf state side).length ∧
    (endOf state side).lookup (key call) = callbackOf state side call
  distinct : progress.Nodup

theorem Kept.perm {state : BridgeState Value Callback} {progress others : List (Side × Nat)}
    (kept : Kept state progress) (same : progress.Perm others) : Kept state others where
  counted := kept.counted
  fresh := kept.fresh
  registered side call member := kept.registered side call (same.mem_iff.mpr member)
  distinct := same.nodup_iff.mp kept.distinct

theorem Kept.same_ends {state after : BridgeState Value Callback} {progress : List (Side × Nat)}
    (kept : Kept state progress) (ends : ∀ side, endOf after side = endOf state side)
    (calls : ∀ side, callsOf after side = callsOf state side) : Kept after progress := by
  constructor
  · intro side
    rw [ends, calls]
    exact kept.counted side
  · intro side call beyond
    rw [calls] at beyond
    rw [ends]
    exact kept.fresh side call beyond
  · intro side call member
    unfold callbackOf
    rw [ends, calls]
    exact kept.registered side call member
  · exact kept.distinct

structure Called (side : Side) (callback : Option Callback) (dispatched : Bool)
    (state after : BridgeState Value Callback) : Prop where
  others : ∀ other, other ≠ side → endOf after other = endOf state other ∧
    callsOf after other = callsOf state other
  table : endOf after side =
    { endOf state side with responseId := ((callsOf state side).length + 1 : Nat) }.assign
      (if dispatched then key ((callsOf state side).length + 1) else key 0) callback
  calls : callsOf after side = callsOf state side ++ [callback]

theorem assign_counted (bridge : Bridge Callback) (name : Units) (callback : Option Callback) :
    (bridge.assign name callback).responseId = bridge.responseId := by
  cases callback <;> rfl

theorem callback_of_old {state after : BridgeState Value Callback} {side : Side}
    {callback : Option Callback} (calls : callsOf after side = callsOf state side ++ [callback])
    {call : Nat} (positive : 1 ≤ call) (old : call ≤ (callsOf state side).length) :
    callbackOf after side call = callbackOf state side call := by
  unfold callbackOf
  rw [calls, List.getElem?_append_left (by omega)]

theorem Called.kept {side : Side} {callback : Option Callback} {dispatched : Bool}
    {state after : BridgeState Value Callback} {progress : List (Side × Nat)}
    (called : Called side callback dispatched state after) (kept : Kept state progress) :
    Kept after (if dispatched then (side, (callsOf state side).length + 1) :: progress
      else progress) := by
  have grown : (callsOf after side).length = (callsOf state side).length + 1 := by
    rw [called.calls]
    simp
  have otherwise : ∀ call, 1 ≤ call → call ≠ (callsOf state side).length + 1 →
      (endOf after side).lookup (key call) = (endOf state side).lookup (key call) := by
    intro call positive apart
    rw [called.table, lookup_assign_other]
    · rfl
    · cases dispatched with
      | true => exact fun same => apart (key_injective same)
      | false =>
          intro same
          have zero := key_injective same
          omega
  have old : ∀ other call, (other, call) ∈ progress → 1 ≤ call ∧
      call ≤ (callsOf after other).length ∧
      (endOf after other).lookup (key call) = callbackOf after other call := by
    intro other call member
    have given := kept.registered other call member
    by_cases same : other = side
    · subst same
      rw [otherwise call given.1 (by omega), callback_of_old called.calls given.1 given.2.1]
      exact ⟨given.1, by omega, given.2.2⟩
    · have unchanged := called.others other same
      unfold callbackOf
      rw [unchanged.1, unchanged.2]
      exact given
  constructor
  · intro other
    by_cases same : other = side
    · rw [same, called.table, assign_counted, grown]
    · rw [(called.others other same).1, (called.others other same).2]
      exact kept.counted other
  · intro other call beyond
    by_cases same : other = side
    · rw [same] at beyond ⊢
      rw [otherwise call (by omega) (by omega)]
      exact kept.fresh side call (by omega)
    · rw [(called.others other same).2] at beyond
      rw [(called.others other same).1]
      exact kept.fresh other call beyond
  · intro other call member
    cases dispatched with
    | false => exact old other call (by simpa using member)
    | true =>
        rw [if_pos rfl] at member
        cases List.mem_cons.mp member with
        | inr earlier => exact old other call earlier
        | inl same =>
            have parts := Prod.mk.inj same
            rw [parts.1, parts.2]
            refine ⟨by omega, by omega, ?_⟩
            have registered : callbackOf after side ((callsOf state side).length + 1) = callback := by
              unfold callbackOf
              rw [called.calls, Nat.add_sub_cancel, List.getElem?_concat_length]
              rfl
            rw [registered, called.table]
            cases callback with
            | some callback => exact lookup_assign_self callback
            | none => exact kept.fresh side _ (by omega)
  · cases dispatched with
    | false => exact kept.distinct
    | true =>
        rw [if_pos rfl, List.nodup_cons]
        refine ⟨fun member => ?_, kept.distinct⟩
        have given := kept.registered _ _ member
        omega

def commandOf : Content Value → Text
  | .data _ => dataText
  | .response _ => dataResponseText

/-- How many calls an end numbers without fault: from then on `++` leaves a number of JavaScript
as it is, and overflows an int. -/
def callLimit : Side → Nat
  | .browser => 9007199254740992
  | .qml => 2147483647

def FewCalls (state : BridgeState Value Callback) : Prop :=
  ∀ side, (callsOf state side).length ≤ callLimit side

def Grown (state after : BridgeState Value Callback) : Prop :=
  ∀ side, callsOf state side <+: callsOf after side

theorem Grown.refl (state : BridgeState Value Callback) : Grown state state :=
  fun _ => List.prefix_rfl

theorem Grown.trans {first second third : BridgeState Value Callback} (earlier : Grown first second)
    (later : Grown second third) : Grown first third :=
  fun side => (earlier side).trans (later side)

theorem FewCalls.before {state after : BridgeState Value Callback} (few : FewCalls after)
    (grown : Grown state after) : FewCalls state :=
  fun side => (grown side).length_le.trans (few side)

/-- The call that was made last had a number to take. -/
theorem FewCalls.numbered {state after : BridgeState Value Callback} {side : Side}
    {callback : Option Callback} (few : FewCalls after)
    (calls : callsOf after side = callsOf state side ++ [callback]) :
    (callsOf state side).length < callLimit side := by
  have made := few side
  rw [calls, List.length_append, List.length_singleton] at made
  exact made

end States

section Runs

variable (setting : Setting Value)

def textToQml : Content Value → Text
  | .data value => setting.json.stringify value
  | .response outcome => resultText setting (outcome.getD none)

def textToBrowser : Content Value → Text
  | .data value => setting.json.stringify value
  | .response outcome => (outcome.map (resultText setting)).getD []

/-- Answers go to the end whose call it was, data to the other one. -/
def callerOf (destination other : Side) : Content Value → Side
  | .data _ => other
  | .response _ => destination

/-- The messages on their way are what the ends write. -/
structure Written (state : BridgeState Value Callback) : Prop where
  to_qml : ∀ flight ∈ state.toQml, flight.message = toServer setting (bridgeMessage
    (commandOf flight.content) (number flight.call) (textToQml setting flight.content)) ∧
    flight.caller = callerOf .qml .browser flight.content
  to_browser : ∀ flight ∈ state.toBrowser, flight.message = utf8.encode (addressed setting.targetId
    (bridgeMessage (commandOf flight.content) (number flight.call)
      (textToBrowser setting flight.content))) ∧
    flight.caller = callerOf .browser .qml flight.content

/-- `progress` are calls in the course of being handled. -/
structure Sound (state : BridgeState Value Callback) (progress : List (Side × Nat)) : Prop where
  written : Written setting state
  kept : Kept state (progress ++ tokens state)

theorem to_client_written (message : Text) :
    toClient setting message = [utf8.encode (addressed setting.targetId message)] :=
  text_queued [] message setting.targetId

variable {setting} {state : BridgeState Value Callback} {progress : List (Side × Nat)}

theorem browser_send_grown (data : Value) (callback : Option Callback) :
    Grown state (browserSend setting state data callback) := by
  intro side
  cases side with
  | browser => exact List.prefix_append _ _
  | qml => exact List.prefix_rfl

theorem qml_send_grown (data : Value) (callback : Option Callback) (dispatched : Bool) :
    Grown state (qmlSend setting state data callback dispatched) := by
  intro side
  cases side with
  | browser => exact List.prefix_rfl
  | qml => exact List.prefix_append _ _

theorem browser_send_number {count : Nat} (counted : state.browser.responseId = (count : Int))
    (few : count < 9007199254740992) : nextNumber state.browser.responseId = (count + 1 : Nat) := by
  unfold nextNumber
  rw [counted, if_pos (by omega)]
  rfl

theorem qml_send_number {count : Nat} (counted : state.qml.responseId = (count : Int))
    (few : count < 2147483647) : nextInt state.qml.responseId = (count + 1 : Nat) := by
  unfold nextInt
  rw [counted, wrap_same (by omega) (by omega)]
  rfl

/-- A message that is written carries its call on. -/
theorem sent_to_qml {after : BridgeState Value Callback} {flight : Flight Value}
    (written : Written setting state) (toQml : after.toQml = state.toQml ++ [flight])
    (toBrowser : after.toBrowser = state.toBrowser)
    (kept : Kept after ((flight.caller, flight.call) :: (progress ++ tokens state)))
    (well : flight.message = toServer setting (bridgeMessage (commandOf flight.content)
        (number flight.call) (textToQml setting flight.content)) ∧
      flight.caller = callerOf .qml .browser flight.content) : Sound setting after progress := by
  constructor
  · constructor
    · rw [toQml]
      intro other member
      cases List.mem_append.mp member with
      | inl earlier => exact written.to_qml other earlier
      | inr new => exact List.mem_singleton.mp new ▸ well
    · rw [toBrowser]
      exact written.to_browser
  · have moved : ((flight.caller, flight.call) :: tokens state).Perm (tokens after) := by
      unfold tokens
      rw [toQml, toBrowser, List.append_assoc, List.map_append, List.map_append]
      exact List.perm_middle.symm
    exact kept.perm (List.perm_middle.symm.trans (moved.append_left progress))

theorem sent_to_browser {after : BridgeState Value Callback} {flight : Flight Value}
    (written : Written setting state) (toQml : after.toQml = state.toQml)
    (toBrowser : after.toBrowser = state.toBrowser ++ [flight])
    (kept : Kept after ((flight.caller, flight.call) :: (progress ++ tokens state)))
    (well : flight.message = utf8.encode (addressed setting.targetId
        (bridgeMessage (commandOf flight.content) (number flight.call)
          (textToBrowser setting flight.content))) ∧
      flight.caller = callerOf .browser .qml flight.content) : Sound setting after progress := by
  constructor
  · constructor
    · rw [toQml]
      exact written.to_qml
    · rw [toBrowser]
      intro other member
      cases List.mem_append.mp member with
      | inl earlier => exact written.to_browser other earlier
      | inr new => exact List.mem_singleton.mp new ▸ well
  · have moved : ((flight.caller, flight.call) :: tokens state).Perm (tokens after) := by
      unfold tokens
      rw [toQml, toBrowser, ← List.append_assoc, List.map_append, List.map_append, List.map_append]
      exact (List.perm_append_singleton _ _).symm
    exact kept.perm (List.perm_middle.symm.trans (moved.append_left progress))

theorem browser_send_called (data : Value) (callback : Option Callback)
    (next : nextNumber state.browser.responseId = (state.browserCalls.length + 1 : Nat)) :
    Called .browser callback true state (browserSend setting state data callback) := by
  constructor
  · intro other apart
    cases other with
    | browser => exact absurd rfl apart
    | qml => exact ⟨rfl, rfl⟩
  · show Bridge.assign _ (keyText (nextNumber state.browser.responseId)) callback = _
    rw [next, key_text_nat]
    rfl
  · rfl

theorem qml_send_called (data : Value) (callback : Option Callback) (dispatched : Bool)
    (next : nextInt state.qml.responseId = (state.qmlCalls.length + 1 : Nat)) :
    Called .qml callback dispatched state (qmlSend setting state data callback dispatched) := by
  constructor
  · intro other apart
    cases other with
    | browser => exact ⟨rfl, rfl⟩
    | qml => exact absurd rfl apart
  · show Bridge.assign _ (keyText (if dispatched then nextInt state.qml.responseId else 0))
      callback = _
    rw [next]
    cases dispatched with
    | false =>
        rw [if_neg (by decide), if_neg (by decide), ← key_text_nat]
        rfl
    | true =>
        rw [if_pos rfl, if_pos rfl, key_text_nat]
        rfl
  · rfl

theorem browser_send_sound (sound : Sound setting state progress) (data : Value)
    (callback : Option Callback) (few : FewCalls (browserSend setting state data callback)) :
    Sound setting (browserSend setting state data callback) progress := by
  have next := browser_send_number (sound.kept.counted .browser) (few.numbered rfl)
  have called : Called .browser callback true state (browserSend setting state data callback) :=
    browser_send_called data callback next
  have sent : (browserSend setting state data callback).toQml = state.toQml ++
      [⟨toServer setting (bridgeMessage dataText (number (state.browserCalls.length + 1))
        (setting.json.stringify data)), .browser, state.browserCalls.length + 1, .data data⟩] := by
    unfold browserSend
    simp only [next, number_text_nat]
    rfl
  exact sent_to_qml sound.written sent rfl (called.kept sound.kept) ⟨rfl, rfl⟩

theorem qml_send_sound (sound : Sound setting state progress) (data : Value)
    (callback : Option Callback) (dispatched : Bool)
    (few : FewCalls (qmlSend setting state data callback dispatched)) :
    Sound setting (qmlSend setting state data callback dispatched) progress := by
  have next := qml_send_number (sound.kept.counted .qml) (few.numbered rfl)
  have called : Called .qml callback dispatched state
      (qmlSend setting state data callback dispatched) := qml_send_called data callback dispatched next
  have kept := called.kept sound.kept
  cases dispatched with
  | false =>
      have same : (qmlSend setting state data callback false).toBrowser = state.toBrowser := by
        simp [qmlSend]
      constructor
      · constructor
        · exact sound.written.to_qml
        · rw [same]
          exact sound.written.to_browser
      · have unchanged : tokens (qmlSend setting state data callback false) = tokens state := by
          unfold tokens
          rw [same]
          rfl
        rw [unchanged]
        exact kept
  | true =>
      have grown : (qmlSend setting state data callback true).toBrowser = state.toBrowser ++
          [⟨utf8.encode (addressed setting.targetId (bridgeMessage dataText
            (number (state.qmlCalls.length + 1)) (setting.json.stringify data))), .qml,
            state.qmlCalls.length + 1, .data data⟩] := by
        unfold qmlSend
        simp only [next, number_text_nat, if_true, to_client_written, List.map_singleton]
        rfl
      exact sent_to_browser sound.written rfl grown kept ⟨rfl, rfl⟩

theorem browser_sends_grown (nested : List (Value × Option Callback)) :
    Grown state (browserSends setting state nested) := by
  induction nested generalizing state with
  | nil => exact Grown.refl state
  | cons sent nested induction => exact (browser_send_grown sent.1 sent.2).trans induction

theorem qml_sends_grown (nested : List (Value × Option Callback × Bool)) :
    Grown state (qmlSends setting state nested) := by
  induction nested generalizing state with
  | nil => exact Grown.refl state
  | cons sent nested induction => exact (qml_send_grown sent.1 sent.2.1 sent.2.2).trans induction

theorem browser_sends_sound (nested : List (Value × Option Callback))
    (sound : Sound setting state progress) (few : FewCalls (browserSends setting state nested)) :
    Sound setting (browserSends setting state nested) progress ∧
      (browserSends setting state nested).invoked = state.invoked := by
  induction nested generalizing state with
  | nil => exact ⟨sound, rfl⟩
  | cons sent nested induction =>
      exact induction (browser_send_sound sound sent.1 sent.2
        (few.before (browser_sends_grown nested))) few

theorem qml_sends_sound (nested : List (Value × Option Callback × Bool))
    (sound : Sound setting state progress) (few : FewCalls (qmlSends setting state nested)) :
    Sound setting (qmlSends setting state nested) progress ∧
      (qmlSends setting state nested).invoked = state.invoked := by
  induction nested generalizing state with
  | nil => exact ⟨sound, rfl⟩
  | cons sent nested induction =>
      exact induction (qml_send_sound sound sent.1 sent.2.1 sent.2.2
        (few.before (qml_sends_grown nested))) few

theorem take_from_qml {index : Nat} {flight : Flight Value} (sound : Sound setting state [])
    (found : state.toQml[index]? = some flight) :
    Sound setting { state with toQml := state.toQml.eraseIdx index }
      [(flight.caller, flight.call)] := by
  have within := (List.getElem?_eq_some_iff.mp found)
  constructor
  · constructor
    · intro other member
      exact sound.written.to_qml other ((List.eraseIdx_sublist _ _).mem member)
    · exact sound.written.to_browser
  · have moved : (flight :: state.toQml.eraseIdx index).Perm state.toQml := by
      cases within with
      | intro inside same =>
          rw [← same]
          exact List.getElem_cons_eraseIdx_perm inside
    have same : (tokens state).Perm ((flight.caller, flight.call) ::
        tokens { state with toQml := state.toQml.eraseIdx index }) := by
      have mapped := (moved.append_right state.toBrowser).map fun flight =>
        (flight.caller, flight.call)
      exact mapped.symm
    have kept := sound.kept.perm same
    exact ⟨kept.counted, kept.fresh, kept.registered, kept.distinct⟩

theorem take_from_browser {index : Nat} {flight : Flight Value} (sound : Sound setting state [])
    (found : state.toBrowser[index]? = some flight) :
    Sound setting { state with toBrowser := state.toBrowser.eraseIdx index }
      [(flight.caller, flight.call)] := by
  have within := (List.getElem?_eq_some_iff.mp found)
  constructor
  · constructor
    · exact sound.written.to_qml
    · intro other member
      exact sound.written.to_browser other ((List.eraseIdx_sublist _ _).mem member)
  · have moved : (state.toQml ++ state.toBrowser).Perm
        (flight :: (state.toQml ++ state.toBrowser.eraseIdx index)) := by
      cases within with
      | intro inside same =>
          have front := (List.getElem_cons_eraseIdx_perm inside).symm
          rw [same] at front
          exact (front.append_left state.toQml).trans List.perm_middle
    have same : (tokens state).Perm ((flight.caller, flight.call) ::
        tokens { state with toBrowser := state.toBrowser.eraseIdx index }) := by
      have mapped := moved.map fun flight => (flight.caller, flight.call)
      exact mapped
    have kept := sound.kept.perm same
    exact ⟨kept.counted, kept.fresh, kept.registered, kept.distinct⟩

theorem Sound.drop {token : Side × Nat} (sound : Sound setting state (token :: progress)) :
    Sound setting state progress where
  written := sound.written
  kept :=
    { counted := sound.kept.counted
      fresh := sound.kept.fresh
      registered := fun side call member =>
        sound.kept.registered side call (List.mem_cons_of_mem _ member)
      distinct := (List.nodup_cons.mp sound.kept.distinct).2 }

theorem Sound.record (sound : Sound setting state progress)
    (invoked : List (Side × Callback × Option Value)) :
    Sound setting { state with invoked := invoked } progress := by
  refine ⟨⟨sound.written.to_qml, sound.written.to_browser⟩, sound.kept.same_ends ?_ ?_⟩
  · intro side
    cases side <;> rfl
  · intro side
    cases side <;> rfl

theorem delete_kept {after : BridgeState Value Callback} {side : Side} {call : Nat}
    {others : List (Side × Nat)} (kept : Kept state ((side, call) :: others))
    (deleted : endOf after side = (endOf state side).delete (key call))
    (unchanged : ∀ other, other ≠ side → endOf after other = endOf state other)
    (calls : ∀ other, callsOf after other = callsOf state other) : Kept after others := by
  have lookups : ∀ other count, (other, count) ≠ (side, call) →
      (endOf after other).lookup (key count) = (endOf state other).lookup (key count) := by
    intro other count apart
    by_cases same : other = side
    · rw [same, deleted]
      apply lookup_delete_other
      intro keys
      exact apart (by rw [same, key_injective keys])
    · rw [unchanged other same]
  have distinct := List.nodup_cons.mp kept.distinct
  constructor
  · intro other
    rw [calls, ← kept.counted other]
    by_cases same : other = side
    · rw [same, deleted]
      rfl
    · rw [unchanged other same]
  · intro other count beyond
    rw [calls] at beyond
    by_cases same : (other, count) = (side, call)
    · have parts := Prod.mk.inj same
      rw [parts.1, parts.2, deleted]
      exact lookup_delete_self
    · rw [lookups other count same]
      exact kept.fresh other count beyond
  · intro other count member
    have given := kept.registered other count (List.mem_cons_of_mem _ member)
    have apart : (other, count) ≠ (side, call) := fun same => distinct.1 (same ▸ member)
    rw [lookups other count apart, calls]
    refine ⟨given.1, given.2.1, ?_⟩
    rw [given.2.2]
    unfold callbackOf
    rw [calls]
  · exact distinct.2

theorem result_read (result : Option Value) :
    setting.json.parse (utf16.encode (resultText setting result)) = result := by
  cases result with
  | none => exact setting.json.parse_undefined
  | some value => exact setting.json.parse_stringify value

theorem response_value_read (result : Option Value) :
    responseValue setting (utf16.encode (resultText setting result)) = some result := by
  unfold responseValue
  cases result with
  | none => exact if_pos rfl
  | some value =>
      have json : utf16.encode (resultText setting (some value)) ≠ utf16.encode undefinedText := by
        intro same
        have read := @result_read _ setting (some value)
        rw [same, setting.json.parse_undefined] at read
        exact absurd read (by simp)
      rw [if_neg json, result_read]
      rfl

theorem response_value_empty : responseValue setting [] = none := by
  unfold responseValue
  rw [if_neg (by decide), setting.json.parse_empty]
  rfl

theorem result_text_plain (result : Option Value) :
    resultText setting result ≠ [] ∧
      (∀ letter, (resultText setting result).head? = some letter → Plain letter) ∧
      zero ∉ resultText setting result := by
  cases result with
  | none =>
      refine ⟨by simp [resultText, undefinedText], ?_, show zero ∉ undefinedText by decide⟩
      intro letter head
      simp only [resultText, undefinedText, List.head?_cons, Option.some.injEq] at head
      rw [← head]
      unfold Plain
      decide
  | some value =>
      refine ⟨?_, setting.json.stringify_begins value, setting.json.stringify_ended value⟩
      intro empty
      have read := @result_read _ setting (some value)
      rw [empty] at read
      have nothing : setting.json.parse (utf16.encode []) = none := setting.json.parse_empty
      rw [nothing] at read
      exact absurd read (by simp)

/-- What processing a message may do to the callbacks: an answer that has arrived invokes the
callback of its call, once and with the result, and removes it; nothing else invokes any. -/
def Settled (side : Side) (flight : Flight Value) (arrived : Prop)
    (state after : BridgeState Value Callback) : Prop :=
  match flight.content with
  | .response (some result) =>
      (arrived → after.invoked = state.invoked ++ ((callbackOf state side flight.call).map
          fun callback => (side, callback, result)).toList ∧
        (endOf after side).lookup (key flight.call) = none) ∧
      (¬ arrived → after.invoked = state.invoked)
  | _ => after.invoked = state.invoked

theorem settled_unchanged {side : Side} {flight : Flight Value} {arrived : Prop}
    {after : BridgeState Value Callback} (invoked : after.invoked = state.invoked)
    (answered : arrived → ∀ result, flight.content = .response (some result) →
      callbackOf state side flight.call = none ∧
        (endOf after side).lookup (key flight.call) = none) :
    Settled side flight arrived state after := by
  unfold Settled
  split
  · rename_i result content
    constructor
    · intro given
      have nothing := answered given result content
      rw [nothing.1]
      exact ⟨by simp [invoked], nothing.2⟩
    · intro _
      exact invoked
  · exact invoked

def ArrivedAtBrowser (setting : Setting Value) (binary : Bool) (flight : Flight Value) : Prop :=
  (incoming setting.decoder setting.argumentLimit binary flight.message).targetId =
    some (utf16.encode setting.targetId)

def ArrivedAtQml (setting : Setting Value) (flight : Flight Value) : Prop :=
  (takeTargetFromMessage setting.decoder flight.message).1.getD [] = utf16.encode setting.targetId

theorem Sound.number_short {side : Side} {call : Nat}
    (sound : Sound setting state ((side, call) :: progress)) (few : FewCalls state) :
    call < 10000000000000000 := by
  have given := sound.kept.registered side call List.mem_cons_self
  have bound := given.2.1.trans (few side)
  cases side with
  | browser => exact bound.trans_lt (by decide)
  | qml => exact bound.trans_lt (by decide)

theorem number_read (count : Nat) : decodeUtf16 (key count) = number count :=
  decode_utf16_encoded (number count)

theorem browser_answer_sound {flight : Flight Value} {t : Incoming}
    (sound : Sound setting state [(flight.caller, flight.call)])
    (caller : flight.caller = .qml) (params : t.params = [key flight.call])
    (handler : Outcome Value) (nested : List (Value × Option Callback))
    (few : FewCalls (browserAnswer setting state flight t handler nested)) :
    Sound setting (browserAnswer setting state flight t handler nested) [] ∧
      (browserAnswer setting state flight t handler nested).invoked = state.invoked := by
  -- a payload that is no JSON is answered as well
  have answered : ∀ (handled : BridgeState Value Callback) (outcome : Option (Option Value)),
      Sound setting handled [(flight.caller, flight.call)] →
      Sound setting { handled with
        toQml := handled.toQml ++ [⟨toServer setting (bridgeMessage dataResponseText
          (number flight.call) (resultText setting (outcome.getD none))),
            flight.caller, flight.call, .response outcome⟩] } [] := by
    intro handled outcome given
    exact sent_to_qml given.written rfl rfl (given.kept.same_ends (fun _ => rfl) fun _ => rfl)
      ⟨rfl, caller⟩
  unfold browserAnswer at few ⊢
  cases parsed : setting.json.parse t.dataAsString with
  | none =>
      simp only [params, List.headD_cons, number_read]
      exact ⟨answered state none sound, trivial⟩
  | some input =>
      simp only [parsed] at few
      have handled := browser_sends_sound nested sound few
      simp only [params, List.headD_cons, number_read]
      exact ⟨answered _ _ handled.1, handled.2⟩

theorem message_callback_unarrived {flight : Flight Value} {t : Incoming}
    (missed : t.targetId ≠ some (utf16.encode setting.targetId)) (handler : Option (Outcome Value))
    (nested : List (Value × Option Callback)) :
    messageCallback setting state flight t handler nested = state := by
  unfold messageCallback
  rw [if_neg (fun both => missed both.1)]

theorem browser_delete_sound {call : Nat} (sound : Sound setting state [(.browser, call)]) :
    Sound setting { state with browser := state.browser.delete (key call) } [] := by
  refine ⟨⟨sound.written.to_qml, sound.written.to_browser⟩, ?_⟩
  apply delete_kept sound.kept rfl
  · intro other apart
    cases other with
    | browser => exact absurd rfl apart
    | qml => rfl
  · intro other
    cases other <;> rfl

theorem qml_delete_sound {call : Nat} (sound : Sound setting state [(.qml, call)]) :
    Sound setting { state with qml := state.qml.delete (key call) } [] := by
  refine ⟨⟨sound.written.to_qml, sound.written.to_browser⟩, ?_⟩
  apply delete_kept sound.kept rfl
  · intro other apart
    cases other with
    | browser => rfl
    | qml => exact absurd rfl apart
  · intro other
    cases other <;> rfl

theorem Sound.found {side : Side} {call : Nat} (sound : Sound setting state [(side, call)]) :
    (endOf state side).lookup (key call) = callbackOf state side call :=
  (sound.kept.registered side call List.mem_cons_self).2.2

/-- An answer in the browser: whatever is read off it, the callback is invoked with it. -/
theorem browser_response {call : Nat} {input : Units}
    (sound : Sound setting state [(.browser, call)]) (nested : List (Value × Option Callback))
    (few : FewCalls (browserResponse setting state (key call) input nested)) :
    let after := browserResponse setting state (key call) input nested
    Sound setting after [] ∧ (endOf after .browser).lookup (key call) = none ∧
      after.invoked = state.invoked ++ (match responseValue setting input with
        | none => []
        | some result => ((callbackOf state .browser call).map
            fun callback => (Side.browser, callback, result)).toList) := by
  intro after
  have found : state.browser.lookup (key call) = callbackOf state .browser call := sound.found
  cases given : callbackOf state .browser call with
  | none =>
      have unchanged : after = state := by
        simp only [after, browserResponse, found, given]
      rw [unchanged]
      refine ⟨sound.drop, found.trans given, ?_⟩
      cases responseValue setting input <;> simp
  | some callback =>
      cases read : responseValue setting input with
      | none =>
          have evaluated : after = { state with browser := state.browser.delete (key call) } := by
            simp only [after, browserResponse, found, given, read]
          rw [evaluated]
          exact ⟨browser_delete_sound sound, lookup_delete_self, by simp⟩
      | some result =>
          have recorded := sound.record (state.invoked ++ [(Side.browser, callback, result)])
          simp only [browserResponse, found, given, read] at few
          have called := browser_sends_sound nested recorded few
          simp only [after, browserResponse, found, given, read]
          exact ⟨browser_delete_sound called.1, lookup_delete_self, called.2⟩

theorem response_value_within {limit : Nat} {binary : Bool} (outcome : Option (Option Value)) :
    responseValue setting (if TooLong limit binary (textToBrowser setting (.response outcome)) then []
      else utf16.encode (textToBrowser setting (.response outcome))) =
      if TooLong limit binary (textToBrowser setting (.response outcome)) then none else outcome := by
  split_ifs with long
  · exact response_value_empty
  · cases outcome with
    | none => exact response_value_empty
    | some result => exact response_value_read result

theorem qml_sends_found {call : Nat} (sound : Sound setting state [(.qml, call)])
    (nested : List (Value × Option Callback × Bool)) (few : FewCalls (qmlSends setting state nested)) :
    (endOf (qmlSends setting state nested) .qml).lookup (key call) =
      callbackOf state .qml call := by
  have called := qml_sends_sound nested sound few
  have given := sound.kept.registered .qml call List.mem_cons_self
  rw [called.1.found]
  obtain ⟨more, same⟩ := @qml_sends_grown _ _ setting state nested .qml
  unfold callbackOf
  rw [← same, List.getElem?_append_left (by omega)]

/-- An answer on the server, as far as the callback is concerned. -/
theorem qml_response {call : Nat} {outcome : Option (Option Value)}
    (sound : Sound setting state [(.qml, call)]) (nested : List (Value × Option Callback × Bool))
    (callbackThrows : Bool) (few : FewCalls (qmlResponse setting state (key call)
      (utf16.encode (textToQml setting (.response outcome))) nested callbackThrows)) :
    let after := qmlResponse setting state (key call)
      (utf16.encode (textToQml setting (.response outcome))) nested callbackThrows
    Sound setting after [] ∧
      (endOf after .qml).lookup (key call) =
        (if (outcome.getD none).isSome ∧ callbackThrows = false then none
          else callbackOf state .qml call) ∧
      after.invoked = state.invoked ++ (if (outcome.getD none).isSome then
        ((callbackOf state .qml call).map
          fun callback => (Side.qml, callback, outcome.getD none)).toList else []) := by
  intro after
  have found : state.qml.lookup (key call) = callbackOf state .qml call := sound.found
  have read : setting.json.parse (utf16.encode (textToQml setting (.response outcome))) =
      outcome.getD none := result_read (outcome.getD none)
  cases given : callbackOf state .qml call with
  | none =>
      have unchanged : after = state := by
        simp only [after, qmlResponse, found, given]
      rw [unchanged]
      refine ⟨sound.drop, ?_, ?_⟩
      · rw [ite_self]
        exact found.trans given
      · simp
  | some callback =>
      cases returned : outcome.getD none with
      | none =>
          have unchanged : after = state := by
            simp only [after, qmlResponse, found, given, read, returned]
          rw [unchanged]
          exact ⟨sound.drop, found.trans given, by simp⟩
      | some result =>
          have recorded := sound.record (state.invoked ++ [(Side.qml, callback, some result)])
          cases callbackThrows with
          | true =>
              simp only [qmlResponse, found, given, read, returned, if_true] at few
              have called := qml_sends_sound nested recorded few
              simp only [after, qmlResponse, found, given, read, returned, if_true]
              exact ⟨called.1.drop, (qml_sends_found recorded nested few).trans given, called.2⟩
          | false =>
              simp only [qmlResponse, found, given, read, returned, Bool.false_eq_true,
                if_false] at few
              have called := qml_sends_sound nested recorded few
              simp only [after, qmlResponse, found, given, read, returned, Bool.false_eq_true,
                if_false]
              exact ⟨qml_delete_sound called.1, lookup_delete_self, called.2⟩

theorem qml_answer_sound {flight : Flight Value} {input : Value}
    (sound : Sound setting state [(flight.caller, flight.call)]) (caller : flight.caller = .browser)
    (handler : Outcome Value) (nested : List (Value × Option Callback × Bool))
    (few : FewCalls (qmlAnswer setting state flight (key flight.call)
      (utf16.encode (setting.json.stringify input)) handler nested)) :
    let after := qmlAnswer setting state flight (key flight.call)
      (utf16.encode (setting.json.stringify input)) handler nested
    Sound setting after [] ∧ after.invoked = state.invoked := by
  intro after
  have parsed := setting.json.parse_stringify input
  simp only [qmlAnswer, parsed] at few
  have handled := qml_sends_sound nested sound few
  simp only [after, qmlAnswer, parsed, number_read, to_client_written, List.map_singleton]
  refine ⟨?_, handled.2⟩
  exact sent_to_browser handled.1.written rfl rfl
    (handled.1.kept.same_ends (fun _ => rfl) fun _ => rfl) ⟨rfl, caller⟩

theorem text_to_qml_plain (content : Content Value) :
    textToQml setting content ≠ [] ∧
      (∀ letter, (textToQml setting content).head? = some letter → Plain letter) ∧
      zero ∉ textToQml setting content := by
  cases content with
  | data value => exact result_text_plain (some value)
  | response outcome => exact result_text_plain (outcome.getD none)

theorem command_known (content : Content Value) : IsCommand (commandOf content) := by
  cases content with
  | data value => exact Or.inl rfl
  | response outcome => exact Or.inr rfl

theorem local_handle_arrived {flight : Flight Value}
    (written : flight.message = toServer setting (bridgeMessage (commandOf flight.content)
      (number flight.call) (textToQml setting flight.content)))
    (arrived : ArrivedAtQml setting flight) (handler : Outcome Value)
    (nested : List (Value × Option Callback × Bool)) (callbackThrows : Bool) :
    localHandleMessage setting state flight handler nested callbackThrows =
      match flight.content with
      | .data _ => qmlAnswer setting state flight (key flight.call)
          (utf16.encode (textToQml setting flight.content)) handler nested
      | .response _ => qmlResponse setting state (key flight.call)
          (utf16.encode (textToQml setting flight.content)) nested callbackThrows := by
  have plain := @text_to_qml_plain _ setting flight.content
  have known := command_known flight.content
  have rest : (takeTargetFromMessage setting.decoder flight.message).2 =
      utf8.encode (bridgeMessage (commandOf flight.content) (number flight.call)
        (textToQml setting flight.content)) := by
    unfold ArrivedAtQml at arrived
    rw [written] at arrived ⊢
    exact target_read_off known arrived
  have read := @call_read setting.decoder _ _ known flight.call plain.1 plain.2.1 plain.2.2
  rw [← rest] at read
  unfold localHandleMessage
  unfold ArrivedAtQml at arrived
  simp only [arrived, read.1, read.2.1, read.2.2.1, read.2.2.2.1, read.2.2.2.2,
    List.length_singleton, and_self, if_true, List.headD_cons]
  cases flight.content with
  | data value =>
      have apart : utf16.encode dataText ≠ utf16.encode dataResponseText := by decide
      exact if_neg apart
  | response outcome => exact if_pos rfl

theorem local_handle_unarrived {flight : Flight Value} (missed : ¬ ArrivedAtQml setting flight)
    (handler : Outcome Value) (nested : List (Value × Option Callback × Bool))
    (callbackThrows : Bool) :
    localHandleMessage setting state flight handler nested callbackThrows = state := by
  unfold localHandleMessage
  exact if_neg fun both => missed both.1

/-- An answer is short enough for the browser to read. -/
def Readable (setting : Setting Value) (binary : Bool) (flight : Flight Value) (arrived : Prop)
    (state : BridgeState Value Callback) : Prop :=
  ∀ result, flight.content = .response (some result) → arrived →
    callbackOf state .browser flight.call ≠ none →
    ¬ TooLong setting.argumentLimit binary (resultText setting result)

/-- The outcome of an answer in the browser, compared with what it should be. -/
theorem browser_answer_settled {after : BridgeState Value Callback} {flight : Flight Value}
    {arrived : Prop} {binary : Bool} {result : Option Value} (given : arrived)
    (content : flight.content = .response (some result))
    (table : (endOf after .browser).lookup (key flight.call) = none)
    (invoked : after.invoked = state.invoked ++
      (match if TooLong setting.argumentLimit binary (resultText setting result) then none
          else some result with
        | none => []
        | some result => ((callbackOf state .browser flight.call).map
            fun callback => (Side.browser, callback, result)).toList)) :
    Settled .browser flight arrived state after ↔ Readable setting binary flight arrived state := by
  have settled : Settled .browser flight arrived state after ↔
      after.invoked = state.invoked ++ ((callbackOf state .browser flight.call).map
        fun callback => (Side.browser, callback, result)).toList := by
    unfold Settled
    rw [content]
    simp [given, table]
  have readable : Readable setting binary flight arrived state ↔
      (callbackOf state .browser flight.call ≠ none →
        ¬ TooLong setting.argumentLimit binary (resultText setting result)) := by
    unfold Readable
    rw [content]
    simp [given]
  rw [settled, readable, invoked]
  cases callbackOf state .browser flight.call with
  | none => split_ifs <;> simp
  | some callback =>
      by_cases long : TooLong setting.argumentLimit binary (resultText setting result)
      · rw [if_pos long]
        simp [long]
      · rw [if_neg long]
        simp [long]

theorem browser_delivered {flight : Flight Value} (binary : Bool)
    (sound : Sound setting state [(flight.caller, flight.call)])
    (written : flight.message = utf8.encode (addressed setting.targetId
      (bridgeMessage (commandOf flight.content) (number flight.call)
        (textToBrowser setting flight.content))))
    (caller : flight.caller = callerOf .browser .qml flight.content)
    (handler : Option (Outcome Value)) (nested : List (Value × Option Callback))
    (before : FewCalls state) (few : FewCalls (messageCallback setting state flight
      (incoming setting.decoder setting.argumentLimit binary flight.message) handler nested)) :
    let after := messageCallback setting state flight
      (incoming setting.decoder setting.argumentLimit binary flight.message) handler nested
    Sound setting after [] ∧
      (Settled .browser flight (ArrivedAtBrowser setting binary flight) state after ↔
        Readable setting binary flight (ArrivedAtBrowser setting binary flight) state) := by
  intro after
  by_cases arrived : ArrivedAtBrowser setting binary flight
  · have read := arrived
    unfold ArrivedAtBrowser at read
    rw [written] at read
    have t := incoming_read (command_known flight.content) (sound.number_short before)
      setting.argumentLimit_least read
    rw [← written] at t
    cases content : flight.content with
    | data input =>
        rw [content] at t caller
        have qml : flight.caller = .qml := caller
        have apart : utf16.encode dataText ≠ utf16.encode dataResponseText := by decide
        have readable : Readable setting binary flight (ArrivedAtBrowser setting binary flight)
            state := by
          intro result other
          rw [content] at other
          exact absurd other (by simp)
        have invoked : Settled .browser flight (ArrivedAtBrowser setting binary flight) state after ↔
            after.invoked = state.invoked := by
          simp [Settled, content]
        rw [iff_true_right readable, invoked]
        simp only [t, messageCallback, commandOf, apart, or_false, and_self, if_true,
          if_false, List.headD_cons] at few
        simp only [after, t, messageCallback, commandOf, apart, or_false, and_self, if_true,
          if_false, List.headD_cons]
        cases handler with
        | none => exact ⟨sound.drop, rfl⟩
        | some outcome => exact browser_answer_sound sound qml rfl outcome nested few
    | response outcome =>
        rw [content] at t caller
        have browser : flight.caller = .browser := caller
        rw [browser] at sound
        have evaluated : after = browserResponse setting state (key flight.call)
            (if TooLong setting.argumentLimit binary (textToBrowser setting (.response outcome))
              then [] else utf16.encode (textToBrowser setting (.response outcome))) nested := by
          simp only [after, t, messageCallback, commandOf, or_true, and_self, if_true,
            List.headD_cons]
        have fewAfter : FewCalls after := few
        have response := browser_response sound nested (evaluated ▸ fewAfter)
        rw [← evaluated, response_value_within] at response
        refine ⟨response.1, ?_⟩
        cases outcome with
        | none =>
            rw [ite_self] at response
            apply iff_of_true
            · unfold Settled
              rw [content]
              exact response.2.2.trans (List.append_nil _)
            · intro result other
              rw [content] at other
              exact absurd other (by simp)
        | some result => exact browser_answer_settled arrived content response.2.1 response.2.2
  · have unchanged : after = state := message_callback_unarrived arrived handler nested
    rw [unchanged]
    refine ⟨sound.drop, iff_of_true ?_ ?_⟩
    · exact settled_unchanged rfl fun given => absurd given arrived
    · intro result _ given
      exact absurd given arrived

/-- An answer finds its callback on the server, unless it is undefined or the callback throws. -/
def Answerable (flight : Flight Value) (arrived : Prop) (state : BridgeState Value Callback)
    (callbackThrows : Bool) : Prop :=
  ∀ result, flight.content = .response (some result) → arrived →
    callbackOf state .qml flight.call ≠ none → result ≠ none ∧ callbackThrows = false

theorem qml_answer_settled {after : BridgeState Value Callback} {flight : Flight Value}
    {arrived : Prop} {result : Option Value} {callbackThrows : Bool} (given : arrived)
    (content : flight.content = .response (some result))
    (table : (endOf after .qml).lookup (key flight.call) =
      if result.isSome ∧ callbackThrows = false then none else callbackOf state .qml flight.call)
    (invoked : after.invoked = state.invoked ++ (if result.isSome then
      ((callbackOf state .qml flight.call).map
        fun callback => (Side.qml, callback, result)).toList else [])) :
    Settled .qml flight arrived state after ↔ Answerable flight arrived state callbackThrows := by
  have settled : Settled .qml flight arrived state after ↔
      after.invoked = state.invoked ++ ((callbackOf state .qml flight.call).map
          fun callback => (Side.qml, callback, result)).toList ∧
        (endOf after .qml).lookup (key flight.call) = none := by
    unfold Settled
    rw [content]
    simp [given]
  have answerable : Answerable flight arrived state callbackThrows ↔
      (callbackOf state .qml flight.call ≠ none → result ≠ none ∧ callbackThrows = false) := by
    unfold Answerable
    rw [content]
    simp [given]
  rw [settled, answerable, table, invoked]
  cases callbackOf state .qml flight.call with
  | none => cases result <;> simp
  | some callback =>
      cases result with
      | none => simp
      | some value => simp

theorem qml_delivered {flight : Flight Value}
    (sound : Sound setting state [(flight.caller, flight.call)])
    (written : flight.message = toServer setting (bridgeMessage (commandOf flight.content)
      (number flight.call) (textToQml setting flight.content)))
    (caller : flight.caller = callerOf .qml .browser flight.content) (handler : Outcome Value)
    (nested : List (Value × Option Callback × Bool)) (callbackThrows : Bool)
    (few : FewCalls (localHandleMessage setting state flight handler nested callbackThrows)) :
    let after := localHandleMessage setting state flight handler nested callbackThrows
    Sound setting after [] ∧ (Settled .qml flight (ArrivedAtQml setting flight) state after ↔
      Answerable flight (ArrivedAtQml setting flight) state callbackThrows) := by
  intro after
  by_cases arrived : ArrivedAtQml setting flight
  · have evaluated : after = _ := local_handle_arrived written arrived handler nested callbackThrows
    cases content : flight.content with
    | data input =>
        rw [content] at evaluated caller
        have fewAfter : FewCalls after := few
        rw [evaluated] at fewAfter
        have answered := @qml_answer_sound _ _ _ _ _ input sound caller handler nested
          fewAfter
        rw [evaluated]
        refine ⟨answered.1, iff_of_true ?_ ?_⟩
        · unfold Settled
          rw [content]
          exact answered.2
        · intro result other
          rw [content] at other
          exact absurd other (by simp)
    | response outcome =>
        rw [content] at evaluated caller
        have qml : flight.caller = .qml := caller
        rw [qml] at sound
        have same : after = qmlResponse setting state (key flight.call)
            (utf16.encode (textToQml setting (.response outcome))) nested callbackThrows := evaluated
        have fewAfter : FewCalls after := few
        have response := @qml_response _ _ _ _ _ outcome sound nested callbackThrows
          (same ▸ fewAfter)
        rw [same]
        refine ⟨response.1, ?_⟩
        cases outcome with
        | none =>
            apply iff_of_true
            · unfold Settled
              rw [content]
              exact response.2.2.trans (List.append_nil _)
            · intro result other
              rw [content] at other
              exact absurd other (by simp)
        | some result => exact qml_answer_settled arrived content response.2.1 response.2.2
  · have unchanged : after = state :=
      local_handle_unarrived arrived handler nested callbackThrows
    rw [unchanged]
    refine ⟨sound.drop, iff_of_true ?_ ?_⟩
    · exact settled_unchanged rfl fun given => absurd given arrived
    · intro result _ given
      exact absurd given arrived

theorem start_sound : Sound setting (start : BridgeState Value Callback) [] := by
  refine ⟨⟨?_, ?_⟩, ?_, ?_, ?_, ?_⟩
  · intro flight member
    exact absurd member List.not_mem_nil
  · intro flight member
    exact absurd member List.not_mem_nil
  · intro side
    cases side <;> rfl
  · intro side call _
    cases side <;> rfl
  · intro side call member
    exact absurd member List.not_mem_nil
  · exact List.nodup_nil

variable (setting)

/-- Every answer is given to its callback when it is processed, and nothing else to any. -/
def Answered (state : BridgeState Value Callback) (action : BridgeAction Value Callback)
    (after : BridgeState Value Callback) : Prop :=
  match action with
  | .browserSend _ _ => after.invoked = state.invoked
  | .qmlSend _ _ _ => after.invoked = state.invoked
  | .deliverToBrowser index binary _ _ => ∀ flight, state.toBrowser[index]? = some flight →
      Settled .browser flight (ArrivedAtBrowser setting binary flight) state after
  | .deliverToQml index _ _ _ => ∀ flight, state.toQml[index]? = some flight →
      Settled .qml flight (ArrivedAtQml setting flight) state after

/-- No undefined answer reaches a callback on the server, none of these throws, and no answer
is too long for the browser. -/
def AnswersDue (state : BridgeState Value Callback) (action : BridgeAction Value Callback)
    (_after : BridgeState Value Callback) : Prop :=
  match action with
  | .deliverToBrowser index binary _ _ => ∀ flight, state.toBrowser[index]? = some flight →
      Readable setting binary flight (ArrivedAtBrowser setting binary flight) state
  | .deliverToQml index _ _ callbackThrows => ∀ flight, state.toQml[index]? = some flight →
      Answerable flight (ArrivedAtQml setting flight) state callbackThrows
  | _ => True

variable {setting}

theorem step_sound {action : BridgeAction Value Callback} {after : BridgeState Value Callback}
    (sound : Sound setting state []) (before : FewCalls state)
    (taken : bridgeStep setting state action = some after) (few : FewCalls after) :
    Sound setting after [] ∧
      (Answered setting state action after ↔ AnswersDue setting state action after) := by
  cases action with
  | browserSend data callback =>
      simp only [bridgeStep, Option.some.injEq] at taken
      rw [← taken] at few ⊢
      exact ⟨browser_send_sound sound data callback few, iff_of_true rfl trivial⟩
  | qmlSend data callback dispatched =>
      simp only [bridgeStep, Option.some.injEq] at taken
      rw [← taken] at few ⊢
      exact ⟨qml_send_sound sound data callback dispatched few, iff_of_true rfl trivial⟩
  | deliverToBrowser index binary handler nested =>
      cases found : state.toBrowser[index]? with
      | none => simp [bridgeStep, found] at taken
      | some flight =>
          simp only [bridgeStep, found, Option.some.injEq] at taken
          rw [← taken] at few ⊢
          have written := sound.written.to_browser flight (List.mem_of_getElem? found)
          have delivered := browser_delivered binary (take_from_browser sound found) written.1
            written.2 handler nested before few
          refine ⟨delivered.1, ?_⟩
          simp only [Answered, AnswersDue, found, Option.some.injEq, forall_eq']
          exact delivered.2
  | deliverToQml index handler nested callbackThrows =>
      cases found : state.toQml[index]? with
      | none => simp [bridgeStep, found] at taken
      | some flight =>
          simp only [bridgeStep, found, Option.some.injEq] at taken
          rw [← taken] at few ⊢
          have written := sound.written.to_qml flight (List.mem_of_getElem? found)
          have delivered := qml_delivered (take_from_qml sound found) written.1 written.2 handler
            nested callbackThrows few
          refine ⟨delivered.1, ?_⟩
          simp only [Answered, AnswersDue, found, Option.some.injEq, forall_eq']
          exact delivered.2

end Runs

theorem start_few : FewCalls (start : BridgeState Value Callback) := by
  intro side
  cases side with
  | browser => exact Nat.zero_le _
  | qml => exact Nat.zero_le _

/-- In every run, whatever the order of the messages and whatever user code does, all answers
are given to their callbacks exactly as long as no undefined one is due on the server, no
callback there throws, and none is too long for the browser. -/
theorem answers_settled (setting : Setting Value) (actions : List (BridgeAction Value Callback))
    (few : Along (bridgeStep setting) (fun _ _ after => FewCalls after) start actions) :
    Along (bridgeStep setting) (Answered setting) start actions ↔
      Along (bridgeStep setting) (AnswersDue setting) start actions := by
  have same : ∀ (state : BridgeState Value Callback) action after,
      Sound setting state [] ∧ FewCalls state → bridgeStep setting state action = some after →
      (FewCalls after ∧ Answered setting state action after ↔
        FewCalls after ∧ AnswersDue setting state action after) := by
    intro state action after holds taken
    exact and_congr_right fun after => (step_sound holds.1 holds.2 taken after).2
  have both := along_congr_while (fun state action after holds taken met =>
    ⟨(step_sound holds.1 holds.2 taken met.1).1, met.1⟩) same ⟨start_sound, start_few⟩ actions
  rw [along_and, along_and] at both
  exact (and_congr_right_iff.mp both) few

def trueText : Text := ['t', 'r', 'u', 'e']

def trueJson : Json Unit where
  stringify _ := trueText
  parse input := if input = utf16.encode trueText then some () else none
  parse_stringify _ := if_pos rfl
  parse_undefined := by decide
  parse_empty := by decide
  stringify_begins value letter head := by
    simp only [trueText, List.head?_cons, Option.some.injEq] at head
    rw [← head]
    unfold Plain
    decide
  stringify_ended _ := by decide

def trueSetting : Setting Unit where
  targetId := ['t']
  decoder := strictDecoder
  json := trueJson
  argumentLimit := 65535
  argumentLimit_least := Nat.le_refl _

def calledState : BridgeState Unit Unit := qmlSend trueSetting start () (some ()) true

def callFlight : Flight Unit :=
  ⟨utf8.encode (addressed ['t'] (bridgeMessage dataText (number 1) trueText)), .qml, 1, .data ()⟩

def answerFlight (result : Option Unit) : Flight Unit :=
  ⟨toServer trueSetting (bridgeMessage dataResponseText (number 1) (resultText trueSetting result)),
    .qml, 1, .response (some result)⟩

def answeredState (result : Option Unit) : BridgeState Unit Unit :=
  { calledState with toBrowser := [], toQml := [answerFlight result] }

theorem call_answered (result : Option Unit) :
    bridgeStep trueSetting calledState (.deliverToBrowser 0 true (some (.returns result)) []) =
      some (answeredState result) := by
  have sent : calledState.toBrowser = [callFlight] := by
    simp [calledState, qmlSend, to_client_written, start]
    rfl
  have t : incoming strictDecoder 65535 true callFlight.message =
      { targetId := some (utf16.encode ['t']), command := utf16.encode dataText
        params := [key 1], dataAsString := utf16.encode trueText } := by
    have read := @incoming_read strictDecoder 65535 true ['t'] dataText trueText (Or.inl rfl) 1
      (by decide) (Nat.le_refl _) (by decide)
    rw [if_neg (by decide)] at read
    exact read
  have parsed : trueSetting.json.parse (utf16.encode trueText) = some () :=
    trueJson.parse_stringify ()
  have apart : utf16.encode dataText ≠ utf16.encode dataResponseText := by decide
  have answered : messageCallback trueSetting { calledState with toBrowser := [] } callFlight
      { targetId := some (utf16.encode ['t']), command := utf16.encode dataText
        params := [key 1], dataAsString := utf16.encode trueText }
      (some (.returns result)) [] = answeredState result := by
    unfold messageCallback
    rw [if_pos ⟨rfl, Or.inl rfl⟩]
    simp only [apart, if_false, browserAnswer, parsed, List.headD_cons, number_read]
    rfl
  unfold bridgeStep
  simp only [sent, List.getElem?_cons_zero, List.eraseIdx_zero, List.tail_cons]
  show some (messageCallback trueSetting _ _ (incoming strictDecoder 65535 true callFlight.message)
    _ _) = _
  rw [t, answered]

theorem answer_arrived (result : Option Unit) : ArrivedAtQml trueSetting (answerFlight result) := by
  have taken := @target_taken strictDecoder ['t'] dataResponseText (by decide) (by decide)
    [number 1] (':' :: resultText trueSetting result)
  show (takeTargetFromMessage strictDecoder (utf8.encode (['t'] ++ '>' ::
    (call dataResponseText [number 1] ++ ':' :: resultText trueSetting result)))).1.getD [] = _
  rw [taken]
  rfl

theorem called_few : FewCalls calledState := by
  intro side
  cases side <;> decide

def sendsTrue : BridgeAction Unit Unit := .qmlSend () (some ()) true
def answersWith (result : Option Unit) : BridgeAction Unit Unit :=
  .deliverToBrowser 0 true (some (.returns result)) []
def readsAnswer : BridgeAction Unit Unit := .deliverToQml 0 .throws [] false

def settledState : BridgeState Unit Unit :=
  { answeredState (some ()) with
    qml := { responseId := 1, pendingResponseCallbacks := [] }
    toQml := []
    invoked := [(.qml, (), some ())] }

theorem answer_read : bridgeStep trueSetting (answeredState (some ())) readsAnswer =
    some settledState := by
  have handled := @local_handle_arrived _ _ _ { answeredState (some ()) with toQml := [] }
    (answerFlight (some ())) rfl (answer_arrived _) .throws [] false
  have read : trueSetting.json.parse (utf16.encode trueText) = some () :=
    trueJson.parse_stringify ()
  have found : calledState.qml.lookup (key 1) = some () := by decide
  show some (localHandleMessage trueSetting _ (answerFlight (some ())) _ _ _) = _
  refine congrArg some (handled.trans ?_)
  show qmlResponse trueSetting _ (key 1) (utf16.encode trueText) [] false = _
  unfold qmlResponse
  simp only [answeredState, found, read]
  rfl

theorem true_answer_settled :
    execute (bridgeStep trueSetting) start [sendsTrue, answersWith (some ()), readsAnswer] =
        some settledState ∧
      Along (bridgeStep trueSetting) (Answered trueSetting) start
        [sendsTrue, answersWith (some ()), readsAnswer] := by
  have called : bridgeStep trueSetting start sendsTrue = some calledState := rfl
  have few : FewCalls settledState := called_few
  refine ⟨?_, (answers_settled trueSetting _ ?_).mpr ?_⟩
  · simp only [execute, called, Option.bind_some, answersWith, call_answered, answer_read]
  · exact .cons called called_few (.cons (call_answered (some ())) called_few
      (.cons answer_read few trivial))
  · refine .cons called trivial (.cons (call_answered (some ())) ?_ (.cons answer_read ?_ trivial))
    · intro flight found result content
      rw [show calledState.toBrowser[0]? = some callFlight from rfl, Option.some.injEq] at found
      rw [← found] at content
      exact absurd content (by simp [callFlight])
    · intro flight found result content _ _
      rw [show (answeredState (some ())).toQml[0]? = some (answerFlight (some ())) from rfl,
        Option.some.injEq] at found
      rw [← found] at content
      injection content with content
      injection content with content
      exact ⟨by simp [← content], rfl⟩

theorem undefined_unread : bridgeStep trueSetting (answeredState none) readsAnswer =
    some { answeredState none with toQml := [] } := by
  have handled := @local_handle_arrived _ _ _ { answeredState none with toQml := [] }
    (answerFlight none) rfl (answer_arrived _) .throws [] false
  have unread : trueSetting.json.parse (utf16.encode undefinedText) = none := trueJson.parse_undefined
  have found : calledState.qml.lookup (key 1) = some () := by decide
  show some (localHandleMessage trueSetting _ (answerFlight none) _ _ _) = _
  refine congrArg some (handled.trans ?_)
  show qmlResponse trueSetting _ (key 1) (utf16.encode undefinedText) [] false = _
  unfold qmlResponse
  simp only [answeredState, found, unread]

/-- The server's callback never gets an undefined answer, and stays in the table. -/
theorem undefined_answer_lost :
    ¬ ∀ (setting : Setting Unit) (actions : List (BridgeAction Unit Unit)),
      Along (bridgeStep setting) (Answered setting) start actions := by
  intro all
  have along := all trueSetting ([sendsTrue, answersWith none] ++ [readsAnswer])
  have executed : execute (bridgeStep trueSetting) start [sendsTrue, answersWith none] =
      some (answeredState none) := by
    have first : bridgeStep trueSetting start sendsTrue = some calledState := rfl
    simp only [execute, first, Option.bind_some, answersWith, call_answered]
  have called : Sound trueSetting calledState [] :=
    qml_send_sound start_sound () (some ()) true called_few
  have sound := (step_sound called called_few (call_answered none) called_few).1
  have found : (answeredState none).toQml[0]? = some (answerFlight none) := rfl
  have settled := along.last executed undefined_unread
  have due := (step_sound sound called_few undefined_unread called_few).2.mp settled
  exact (due (answerFlight none) found none rfl (answer_arrived none) (by decide)).1 rfl

end Viridity.BridgeAnswers
