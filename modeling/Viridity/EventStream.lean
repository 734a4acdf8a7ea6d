import Mathlib.Data.List.Basic
import Mathlib.Tactic.Common
import Viridity.TextEncoding

/-!
# Event streams

How an event source reads a text/event-stream: its line ends, its fields, and the data of
the events it hands to the listener for messages.
-/

namespace Viridity.EventStream

open Viridity.TextEncoding

set_option autoImplicit false

def lineFeed : Char := Char.ofNat 10
def carriageReturn : Char := Char.ofNat 13

/-- The ended lines: by a line feed, a carriage return, or both. The flag tells that a
carriage return has just ended a line. -/
def eventLines (returned : Bool) (line : Text) : Text → List Text
  | [] => []
  | letter :: rest =>
      if letter = lineFeed then
        if returned then eventLines false [] rest else line :: eventLines false [] rest
      else if letter = carriageReturn then line :: eventLines true [] rest
      else eventLines false (line ++ [letter]) rest

structure EventBuffers where
  data : Text
  eventType : Text
deriving DecidableEq

def noEvent : EventBuffers := { data := [], eventType := [] }

def fieldName (line : Text) : Text := line.takeWhile fun letter => letter ≠ ':'

def fieldValue (line : Text) : Text :=
  let value := (line.dropWhile fun letter => letter ≠ ':').drop 1
  if value.head? = some ' ' then value.tail else value

/-- Comments have an empty name. Identifiers and retry times change no message. -/
def processField (buffers : EventBuffers) (line : Text) : EventBuffers :=
  if fieldName line = ['d', 'a', 't', 'a'] then
    { buffers with data := buffers.data ++ fieldValue line ++ [lineFeed] }
  else if fieldName line = ['e', 'v', 'e', 'n', 't'] then
    { buffers with eventType := fieldValue line }
  else buffers

/-- The data of the event, when there is some and it is an event for the message listener. -/
def dispatchEvent (buffers : EventBuffers) : List Text :=
  if buffers.data = [] then []
  else if buffers.eventType = [] ∨ buffers.eventType = ['m', 'e', 's', 's', 'a', 'g', 'e'] then
    [if buffers.data.getLast? = some lineFeed then buffers.data.dropLast else buffers.data]
  else []

def processLines (buffers : EventBuffers) : List Text → List Text
  | [] => []
  | line :: rest =>
      if line = [] then dispatchEvent buffers ++ processLines noEvent rest
      else processLines (processField buffers line) rest

def messageEvents (stream : Text) : List Text := processLines noEvent (eventLines false [] stream)

theorem event_line_append {piece : Text} (plain : lineFeed ∉ piece ∧ carriageReturn ∉ piece)
    (returned : Bool) (line rest : Text) (begun : piece ≠ []) :
    eventLines returned line (piece ++ rest) = eventLines false (line ++ piece) rest := by
  induction piece generalizing returned line with
  | nil => exact absurd rfl begun
  | cons letter piece induction =>
      simp only [List.mem_cons, not_or] at plain
      rw [List.cons_append, eventLines, if_neg (fun same => plain.1.1 same.symm),
        if_neg (fun same => plain.2.1 same.symm)]
      cases piece with
      | nil => rfl
      | cons next piece =>
          rw [induction ⟨plain.1.2, plain.2.2⟩ false (line ++ [letter]) (by simp)]
          simp

theorem event_line_feed {piece : Text} (plain : lineFeed ∉ piece ∧ carriageReturn ∉ piece)
    (rest : Text) :
    eventLines false [] (piece ++ lineFeed :: rest) = piece :: eventLines false [] rest := by
  cases piece with
  | nil => simp [eventLines]
  | cons letter piece =>
      rw [event_line_append plain false [] _ (by simp)]
      simp [eventLines]

theorem event_line_plain {line stream piece : Text} {returned : Bool}
    (before : carriageReturn ∉ line) (member : piece ∈ eventLines returned line stream) :
    carriageReturn ∉ piece := by
  induction stream generalizing returned line with
  | nil => simp [eventLines] at member
  | cons letter stream induction =>
      unfold eventLines at member
      split_ifs at member with feed entered other
      · exact induction (by simp) member
      · cases List.mem_cons.mp member with
        | inl same => exact same ▸ before
        | inr later => exact induction (by simp) later
      · cases List.mem_cons.mp member with
        | inl same => exact same ▸ before
        | inr later => exact induction (by simp) later
      · apply induction _ member
        rw [List.mem_append, List.mem_singleton]
        intro inside
        cases inside with
        | inl early => exact before early
        | inr same => exact other same.symm

theorem field_value_mem {line : Text} {letter : Char} (member : letter ∈ fieldValue line) :
    letter ∈ line := by
  have within : ((line.dropWhile fun letter => letter ≠ ':').drop 1).Sublist line :=
    (List.drop_sublist 1 _).trans (List.dropWhile_sublist _)
  unfold fieldValue at member
  simp only at member
  split_ifs at member
  · exact within.mem (List.mem_of_mem_tail member)
  · exact within.mem member

theorem process_field_plain {buffers : EventBuffers} {line : Text}
    (before : carriageReturn ∉ buffers.data) (plain : carriageReturn ∉ line) :
    carriageReturn ∉ (processField buffers line).data := by
  unfold processField
  split_ifs
  · intro member
    simp only [List.mem_append, List.mem_singleton] at member
    cases member with
    | inr same => exact absurd same (by decide)
    | inl inside =>
        cases inside with
        | inl early => exact before early
        | inr value => exact plain (field_value_mem value)
  · exact before
  · exact before

theorem dispatch_event_plain {buffers : EventBuffers} (plain : carriageReturn ∉ buffers.data) :
    ∀ event ∈ dispatchEvent buffers, carriageReturn ∉ event := by
  intro event member
  unfold dispatchEvent at member
  split_ifs at member with empty listened ended
  · simp at member
  · rw [List.mem_singleton.mp member]
    intro inside
    exact plain ((List.dropLast_sublist _).mem inside)
  · rw [List.mem_singleton.mp member]
    exact plain
  · simp at member

theorem process_lines_plain {buffers : EventBuffers} {lines : List Text}
    (before : carriageReturn ∉ buffers.data) (plain : ∀ line ∈ lines, carriageReturn ∉ line) :
    ∀ event ∈ processLines buffers lines, carriageReturn ∉ event := by
  induction lines generalizing buffers with
  | nil => simp [processLines]
  | cons line lines induction =>
      rw [List.forall_mem_cons] at plain
      unfold processLines
      split_ifs
      · intro event member
        cases List.mem_append.mp member with
        | inl now => exact dispatch_event_plain before event now
        | inr later => exact induction (by simp [noEvent]) plain.2 event later
      · exact induction (process_field_plain before plain.1) plain.2

/-- No event carries a carriage return, whatever the stream. -/
theorem message_event_plain (stream : Text) :
    ∀ event ∈ messageEvents stream, carriageReturn ∉ event := by
  apply process_lines_plain
  · simp [noEvent]
  · intro line member
    exact event_line_plain (by simp) member

def dataLine (text : Text) : Text := ['d', 'a', 't', 'a', ':', ' '] ++ text

theorem data_line_field (buffers : EventBuffers) (text : Text) :
    processField buffers (dataLine text) =
      { buffers with data := buffers.data ++ (text ++ [lineFeed]) } := by
  have name : fieldName (dataLine text) = ['d', 'a', 't', 'a'] := by
    simp [fieldName, dataLine]
  have value : fieldValue (dataLine text) = text := by
    simp [fieldValue, dataLine]
  unfold processField
  rw [if_pos name, value, List.append_assoc]

theorem data_lines_read {texts : List Text}
    (plain : ∀ text ∈ texts, lineFeed ∉ text ∧ carriageReturn ∉ text) :
    eventLines false [] (texts.flatMap (fun text => dataLine text ++ [lineFeed]) ++ [lineFeed]) =
      texts.map dataLine ++ [[]] := by
  induction texts with
  | nil => simp [eventLines]
  | cons text texts induction =>
      rw [List.forall_mem_cons] at plain
      have linePlain : lineFeed ∉ dataLine text ∧ carriageReturn ∉ dataLine text := by
        have name : lineFeed ∉ ['d', 'a', 't', 'a', ':', ' '] ∧
            carriageReturn ∉ ['d', 'a', 't', 'a', ':', ' '] := by decide
        unfold dataLine
        rw [List.mem_append, List.mem_append, not_or, not_or]
        exact ⟨⟨name.1, plain.1.1⟩, name.2, plain.1.2⟩
      rw [List.flatMap_cons, List.append_assoc, List.append_assoc, List.singleton_append,
        event_line_feed linePlain, induction plain.2]
      rfl

theorem data_lines_processed (texts : List Text) (buffers : EventBuffers) :
    processLines buffers (texts.map dataLine ++ [[]]) =
      dispatchEvent { buffers with
        data := buffers.data ++ texts.flatMap fun text => text ++ [lineFeed] } := by
  induction texts generalizing buffers with
  | nil => simp [processLines]
  | cons text texts induction =>
      rw [List.map_cons, List.cons_append]
      unfold processLines
      rw [if_neg (by simp [dataLine]), data_line_field, induction]
      simp

theorem lines_joined {texts : List Text} (nonempty : texts ≠ []) :
    texts.flatMap (fun text => text ++ [lineFeed]) = [lineFeed].intercalate texts ++ [lineFeed] := by
  induction texts with
  | nil => exact absurd rfl nonempty
  | cons text texts induction =>
      cases texts with
      | nil => simp
      | cons next texts =>
          rw [List.flatMap_cons, induction (by simp), List.intercalate_cons_cons]
          simp

/-- An event made of one data line for each text carries the texts as its lines. -/
theorem data_event_read {texts : List Text} (nonempty : texts ≠ [])
    (plain : ∀ text ∈ texts, lineFeed ∉ text ∧ carriageReturn ∉ text) :
    messageEvents (texts.flatMap (fun text => dataLine text ++ [lineFeed]) ++ [lineFeed]) =
      [[lineFeed].intercalate texts] := by
  unfold messageEvents
  rw [data_lines_read plain, data_lines_processed, lines_joined nonempty]
  simp [dispatchEvent, noEvent]

end Viridity.EventStream
