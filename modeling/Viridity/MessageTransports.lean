import Viridity.EventStream
import Viridity.TextScanning

/-!
# Message sequences on the transports

Several messages go to the client in one long-polling response or one server-sent event,
or each in a frame of its own; the client's events go to the server in one request body.
-/

namespace Viridity.MessageTransports

open Viridity.TextEncoding
open Viridity.TextScanning
open Viridity.EventStream

set_option autoImplicit false

/-- `LongPollingHandler::handleMessagesAvailable`: the body of the response, if one is sent. -/
def longPollingBody (messages : List Bytes) : Option Bytes :=
  if messages = [] then none
  else some (messages.flatMap fun message => message ++ [utf8.unit lineFeed])

/-- `SSEHandler::handleMessagesAvailable`: what is written to the stream. -/
def eventBytes (messages : List Bytes) : Option Bytes :=
  if messages = [] then none
  else
    some ((messages.flatMap fun message =>
      utf8.encode (dataLine []) ++ message ++ [utf8.unit lineFeed]) ++ [utf8.unit lineFeed])

section Client

variable (decoder : Decoder)

def responseText (body : Bytes) : Text := decoder.decode (withoutMark body)

/-- What the success callback of `_longPollingReceiveOutputMessages` hands to `processMessage`. -/
def longPollingProcessed (messages : List Bytes) : List Text :=
  match longPollingBody messages with
  | none => []
  | some body => (responseText decoder body).splitOn lineFeed

/-- What `_serverSentEventsMessageReceived` hands to `processMessage`. -/
def eventsProcessed (messages : List Bytes) : List Text :=
  match eventBytes messages with
  | none => []
  | some bytes =>
      (messageEvents (decoder.decode bytes)).flatMap fun event => event.splitOn lineFeed

/-- Text frames, one a message; a malformed one fails the connection. -/
def socketProcessed : List Bytes → List Text
  | [] => []
  | message :: rest =>
      match decodeUtf8 message with
      | none => []
      | some text => text :: socketProcessed rest

def nonEmpty (texts : List Text) : List Text := texts.filter fun text => text ≠ []

end Client

/-- The body `_longPollingSendInputEvents` posts, if it posts one. -/
def postBody (inputEvents : List Text) : Option Bytes :=
  if inputEvents = [] then none else some (utf8.encode ([lineFeed].intercalate inputEvents))

/-- What `InputPostHandler::handleRequestEnd` dispatches. -/
def inputDispatched (inputEvents : List Text) : List Bytes :=
  match postBody inputEvents with
  | none => []
  | some data => data.splitOn (utf8.unit lineFeed)

/-- The client processes the messages that were sent, whichever way they went. -/
def SequenceKept (decoder : Decoder) (messages : List Bytes) : Prop :=
  ∃ texts : List Text, messages = texts.map utf8.encode ∧
    nonEmpty (longPollingProcessed decoder messages) = texts ∧
    nonEmpty (eventsProcessed decoder messages) = texts ∧
    nonEmpty (socketProcessed messages) = texts

/-- Well-formed messages without a carriage return, the first without a byte order mark. -/
structure Transportable (messages : List Bytes) : Prop where
  well_formed : ∀ message ∈ messages, (decodeUtf8 message).isSome
  no_return : ∀ message ∈ messages, utf8.unit carriageReturn ∉ message
  no_mark : ∀ first, messages.head? = some first → ¬ [0xEF, 0xBB, 0xBF] <+: first

theorem non_empty_all {texts : List Text} (nonempty : ∀ text ∈ texts, text ≠ []) :
    nonEmpty texts = texts := by
  unfold nonEmpty
  rw [List.filter_eq_self]
  intro text member
  exact decide_eq_true (nonempty text member)

theorem input_dispatched {inputEvents : List Text}
    (plain : ∀ event ∈ inputEvents, lineFeed ∉ event) :
    inputDispatched inputEvents = inputEvents.map utf8.encode := by
  cases given : inputEvents with
  | nil => rfl
  | cons event events =>
      rw [← given]
      unfold inputDispatched postBody
      rw [if_neg (by simp [given])]
      simp only
      rw [utf8.encode_intercalate (by decide)]
      apply List.splitOn_intercalate
      · intro piece member
        rw [List.mem_map] at member
        obtain ⟨text, among, rfl⟩ := member
        rw [utf8.unit_mem_encode (by decide)]
        exact plain text among
      · simp [given]

section Texts

variable {decoder : Decoder} {texts : List Text}

theorem socket_processed : socketProcessed (texts.map utf8.encode) = texts := by
  induction texts with
  | nil => rfl
  | cons text texts induction =>
      simp only [List.map_cons, socketProcessed, decode_encoded, induction]

theorem long_polling_text :
    (texts.map utf8.encode).flatMap (fun message => message ++ [utf8.unit lineFeed]) =
      utf8.encode (texts.flatMap fun text => text ++ [lineFeed]) := by
  induction texts with
  | nil => rfl
  | cons text texts induction =>
      rw [List.map_cons, List.flatMap_cons, List.flatMap_cons, induction]
      simp [utf8.units_ascii lineFeed (by decide)]

theorem event_text :
    (texts.map utf8.encode).flatMap (fun message =>
        utf8.encode (dataLine []) ++ message ++ [utf8.unit lineFeed]) ++ [utf8.unit lineFeed] =
      utf8.encode (texts.flatMap (fun text => dataLine text ++ [lineFeed]) ++ [lineFeed]) := by
  induction texts with
  | nil => simp [utf8.units_ascii lineFeed (by decide)]
  | cons text texts induction =>
      rw [List.map_cons, List.flatMap_cons, List.flatMap_cons, List.append_assoc, induction]
      simp [dataLine, utf8.units_ascii lineFeed (by decide)]

theorem lines_split (plain : ∀ text ∈ texts, lineFeed ∉ text) :
    (texts.flatMap fun text => text ++ [lineFeed]).splitOn lineFeed = texts ++ [[]] := by
  induction texts with
  | nil => rfl
  | cons text texts induction =>
      rw [List.forall_mem_cons] at plain
      rw [List.flatMap_cons, List.append_assoc, List.singleton_append,
        List.splitOn_append_cons_self_of_not_mem plain.1, induction plain.2]
      rfl

theorem long_polling_processed {first : Text} (plain : ∀ text ∈ first :: texts, lineFeed ∉ text)
    (nonempty : first ≠ []) :
    longPollingProcessed decoder ((first :: texts).map utf8.encode) =
      unmarked first :: (texts ++ [[]]) := by
  have rest : (unmarked first :: texts).flatMap (fun text => text ++ [lineFeed]) =
      unmarked ((first :: texts).flatMap fun text => text ++ [lineFeed]) := by
    cases first with
    | nil => exact absurd rfl nonempty
    | cons letter first =>
        unfold unmarked
        by_cases mark : letter = byteOrderMark
        · simp [mark]
        · simp [mark]
  have unmarkedPlain : ∀ text ∈ unmarked first :: texts, lineFeed ∉ text := by
    rw [List.forall_mem_cons] at plain ⊢
    exact ⟨fun member => plain.1 ((unmarked_sublist first).mem member), plain.2⟩
  unfold longPollingProcessed longPollingBody
  rw [if_neg (by simp)]
  simp only
  unfold responseText
  rw [long_polling_text, without_mark_encoded, decoder.decode_encode, ← rest,
    lines_split unmarkedPlain]
  rfl

theorem events_processed (nonempty : texts ≠ [])
    (plain : ∀ text ∈ texts, lineFeed ∉ text ∧ carriageReturn ∉ text) :
    eventsProcessed decoder (texts.map utf8.encode) = texts := by
  unfold eventsProcessed eventBytes
  rw [if_neg (by simp [nonempty])]
  simp only
  rw [event_text, decoder.decode_encode, data_event_read nonempty plain, List.flatMap_singleton]
  exact List.splitOn_intercalate lineFeed (fun text member => (plain text member).1) nonempty

theorem events_processed_plain (messages : List Bytes) :
    ∀ text ∈ eventsProcessed decoder messages, carriageReturn ∉ text := by
  intro text member
  unfold eventsProcessed at member
  split at member
  · simp at member
  · rename_i bytes sent
    obtain ⟨event, among, piece⟩ := List.mem_flatMap.mp member
    have whole := message_event_plain (decoder.decode bytes) event among
    intro inside
    apply whole
    rw [← @List.intercalate_splitOn _ event _ _ lineFeed]
    exact piece_mem_intercalate piece inside

theorem sequence_kept (plain : ∀ text ∈ texts, text ≠ [] ∧ lineFeed ∉ text)
    (unreturned : ∀ text ∈ texts, carriageReturn ∉ text)
    (unmarkedFirst : ∀ first, texts.head? = some first → first.head? ≠ some byteOrderMark) :
    SequenceKept decoder (texts.map utf8.encode) := by
  have nonempty : nonEmpty texts = texts :=
    non_empty_all fun text member => (plain text member).1
  refine ⟨texts, rfl, ?_, ?_, ?_⟩
  · cases texts with
    | nil => rfl
    | cons first rest =>
        rw [long_polling_processed (fun text member => (plain text member).2)
          (plain first List.mem_cons_self).1]
        rw [(unmarked_iff first).mpr (unmarkedFirst first rfl), ← List.cons_append]
        unfold nonEmpty at nonempty ⊢
        rw [List.filter_append, nonempty]
        simp
  · cases given : texts with
    | nil => rfl
    | cons first rest =>
        rw [← given, events_processed (by simp [given])
          (fun text member => ⟨(plain text member).2, unreturned text member⟩)]
        exact nonempty
  · rw [socket_processed]
    exact nonempty

end Texts

theorem texts_plain {texts : List Text}
    (plain : ∀ message ∈ texts.map utf8.encode, message ≠ [] ∧ utf8.unit lineFeed ∉ message) :
    ∀ text ∈ texts, text ≠ [] ∧ lineFeed ∉ text := by
  intro text member
  have bytes := plain (utf8.encode text) (List.mem_map_of_mem member)
  rw [ne_eq, utf8.encode_nil_iff, utf8.unit_mem_encode (by decide)] at bytes
  exact bytes

theorem all_decoded {messages : List Bytes}
    (wellFormed : ∀ message ∈ messages, (decodeUtf8 message).isSome) :
    ∃ texts : List Text, messages = texts.map utf8.encode := by
  induction messages with
  | nil => exact ⟨[], rfl⟩
  | cons message messages induction =>
      rw [List.forall_mem_cons] at wellFormed
      obtain ⟨texts, rest⟩ := induction wellFormed.2
      obtain ⟨text, decoded⟩ := Option.isSome_iff_exists.mp wellFormed.1
      exact ⟨text :: texts, by rw [encoded_decoded decoded, rest]; rfl⟩

theorem transportable_of_kept {decoder : Decoder} {messages : List Bytes}
    (plain : ∀ message ∈ messages, message ≠ [] ∧ utf8.unit lineFeed ∉ message)
    (kept : SequenceKept decoder messages) : Transportable messages := by
  obtain ⟨texts, rfl, polled, events, -⟩ := kept
  have textPlain := texts_plain plain
  constructor
  · intro message member
    obtain ⟨text, -, rfl⟩ := List.mem_map.mp member
    rw [decode_encoded]
    rfl
  · intro message member
    obtain ⟨text, among, rfl⟩ := List.mem_map.mp member
    rw [utf8.unit_mem_encode (by decide)]
    rw [← events] at among
    exact events_processed_plain _ text (List.mem_of_mem_filter among)
  · intro first head marked
    cases texts with
    | nil => simp at head
    | cons text texts =>
        rw [List.map_cons, List.head?_cons, Option.some.injEq] at head
        rw [← head, mark_iff] at marked
        rw [long_polling_processed (fun text member => (textPlain text member).2)
          (textPlain text List.mem_cons_self).1] at polled
        have rest : nonEmpty (texts ++ [[]]) = texts := by
          have nonempty := non_empty_all fun text member =>
            (textPlain text (List.mem_cons_of_mem _ member)).1
          unfold nonEmpty at nonempty ⊢
          rw [List.filter_append, nonempty]
          simp
        unfold nonEmpty at polled rest
        rw [List.filter_cons, rest] at polled
        split_ifs at polled
        · have whole := (List.cons.inj polled).1
          exact (unmarked_iff text).mp whole marked
        · exact absurd polled.symm (List.cons_ne_self _ _)

/-- The sequences that arrive are the transportable ones; the other way all arrive. -/
theorem sequences_kept_iff (decoder : Decoder) (messages : List Bytes) (inputEvents : List Text)
    (plain : ∀ message ∈ messages, message ≠ [] ∧ utf8.unit lineFeed ∉ message)
    (inputPlain : ∀ event ∈ inputEvents, event ≠ [] ∧ lineFeed ∉ event) :
    (SequenceKept decoder messages ∧ inputDispatched inputEvents = inputEvents.map utf8.encode) ↔
      Transportable messages := by
  constructor
  · intro both
    exact transportable_of_kept plain both.1
  · intro transportable
    obtain ⟨texts, rfl⟩ := all_decoded transportable.well_formed
    constructor
    · apply sequence_kept (texts_plain plain)
      · intro text member
        have bytes := transportable.no_return _ (List.mem_map_of_mem member)
        rw [utf8.unit_mem_encode (by decide)] at bytes
        exact bytes
      · intro first head
        have bytes := transportable.no_mark (utf8.encode first) (by rw [List.head?_map, head]; rfl)
        rw [mark_iff] at bytes
        exact bytes
    · exact input_dispatched fun event member => (inputPlain event member).2

/-- A carriage return ends a line of an event stream: the message is cut there. -/
theorem returned_message_cut :
    ¬ ∀ (decoder : Decoder) (messages : List Bytes) (inputEvents : List Text),
      (∀ message ∈ messages, message ≠ [] ∧ utf8.unit lineFeed ∉ message) →
      (∀ event ∈ inputEvents, event ≠ [] ∧ lineFeed ∉ event) →
        SequenceKept decoder messages ∧
          inputDispatched inputEvents = inputEvents.map utf8.encode := by
  intro all
  have plain : ∀ message ∈ [utf8.encode ['a', carriageReturn, 'b']],
      message ≠ [] ∧ utf8.unit lineFeed ∉ message := by decide
  have kept := (all strictDecoder [utf8.encode ['a', carriageReturn, 'b']] [] plain (by simp)).1
  have unreturned := (transportable_of_kept plain kept).no_return
  exact unreturned _ List.mem_cons_self (by decide)

theorem two_sequences_kept :
    (SequenceKept strictDecoder [utf8.encode ['a'], utf8.encode ['b', ':']] ∧
        inputDispatched [['x'], ['y']] = [['x'], ['y']].map utf8.encode) ↔
      Transportable [utf8.encode ['a'], utf8.encode ['b', ':']] :=
  sequences_kept_iff strictDecoder [utf8.encode ['a'], utf8.encode ['b', ':']] [['x'], ['y']]
    (by decide) (by decide)

end Viridity.MessageTransports
