import Viridity.DataBridge

/-!
# The messages of data bridges

Whatever the name of the target is, an end that takes a message for its own reads command,
number and payload from it as they were written.
-/

namespace Viridity.BridgeMessages

open Viridity.NumberText
open Viridity.TextEncoding
open Viridity.TextScanning
open Viridity.ClientMessages
open Viridity.ServerMessages
open Viridity.DataBridge

set_option autoImplicit false

def IsCommand (command : Text) : Prop := command = dataText ∨ command = dataResponseText

theorem plain_header {command : Text} (known : IsCommand command) (count : Nat) :
    PlainHeader command [number count] := by
  constructor
  · cases known with
    | inl same => rw [same]; decide
    | inr same => rw [same]; decide
  · simp
  · intro param member
    rw [List.mem_singleton] at member
    rw [member]
    refine ⟨Nat.toDigits_ne_nil, number_plain (by decide), number_plain (by decide), ?_⟩
    intro letter inside
    have digit := number_letters inside
    simp [isWhiteSpace]
    omega

theorem plain_call {command : Text} (known : IsCommand command) (count : Nat) :
    PlainCall command [number count] := by
  have header := plain_header known count
  refine ⟨⟨header.command_plain.1, header.command_plain.2.1⟩, by simp, ?_⟩
  intro param member
  have plain := header.params_plain param member
  exact ⟨plain.2.1, plain.2.2.1⟩

theorem plain_letters {command : Text} (known : IsCommand command) (count : Nat) :
    ∀ letter ∈ call command [number count], Plain letter := by
  rw [call_letters]
  constructor
  · cases known with
    | inl same => exact same ▸ letters_plain (by decide)
    | inr same => exact same ▸ letters_plain (by decide)
  · intro param member letter inside
    rw [List.mem_singleton] at member
    rw [member] at inside
    have digit := number_letters inside
    constructor
    · unfold IsAscii
      omega
    · intro same
      rw [same] at digit
      exact absurd digit.1 (by decide)

theorem header_written (command : Text) (count : Nat) (payload : Text) :
    bridgeMessage command (number count) payload = header command [number count] ++ payload := by
  simp [bridgeMessage, call, header]

/-- One lemma for both representations: a view that names the target is read as written,
whatever characters the target has. -/
theorem view_read {Unit : Type} [DecidableEq Unit] {coding : Coding Unit}
    {asString : List Unit → Units} {target command payload : Text} (known : IsCommand command)
    {count : Nat}
    (strings : ∀ text ∈ [[], command, number count], asString (coding.encode text) = utf16.encode text)
    (absent : ∀ (part : List Unit) (delimiter : Char), IsAscii delimiter →
      coding.unit delimiter ∉ part → utf16.unit delimiter ∉ asString part)
    (read : (parseView coding asString (coding.encode
      (addressed target (bridgeMessage command (number count) payload)))).targetId =
        some (utf16.encode target)) :
    let t := parseView coding asString (coding.encode
      (addressed target (bridgeMessage command (number count) payload)))
    t.command = utf16.encode command ∧ t.params = [key count] ∧
      t.data none none = coding.encode payload := by
  obtain ⟨part, found⟩ := target_plain read
  have header := plain_header known count
  have plainTarget : '(' ∉ target ∧ '>' ∉ target := by
    constructor
    · intro member
      have unit := (utf16.unit_mem_encode (show IsAscii '(' by decide)).mpr member
      rw [found.1] at unit
      exact absent part '(' (by decide) found.2.1 unit
    · intro member
      have unit := (utf16.unit_mem_encode (show IsAscii '>' by decide)).mpr member
      rw [found.1] at unit
      exact absent part '>' (by decide) found.2.2 unit
  -- a target that is too long to be read is not found either
  have targetString : asString (coding.encode target) = utf16.encode target := by
    by_cases untargeted : target = []
    · rw [untargeted]
      exact strings [] List.mem_cons_self
    · have whole : coding.encode (addressed target (bridgeMessage command (number count) payload)) =
          coding.encode target ++ coding.unit '>' :: (coding.encode command ++ coding.unit '(' ::
            coding.encode (number count ++ (')' :: ':' :: payload))) := by
        rw [encode_addressed, if_neg untargeted]
        unfold bridgeMessage call
        simp [coding.units_ascii '(' (by decide)]
      have opening := fun text : Text => @Coding.unit_mem_encode _ coding '(' (by decide) text
      have marker := fun text : Text => @Coding.unit_mem_encode _ coding '>' (by decide) text
      rw [whole, parse_targeted (by rw [opening]; exact plainTarget.1)
        (by rw [marker]; exact plainTarget.2)
        (by rw [opening]; exact header.command_plain.1)] at read
      exact Option.some.inj read
  have all : ∀ text ∈ [target, command, [','].intercalate [number count]],
      asString (coding.encode text) = utf16.encode text := by
    intro text member
    rw [List.mem_cons] at member
    rcases member with rfl | other
    · exact targetString
    · exact strings text (List.mem_cons_of_mem _ (by simpa using other))
  have view := read_view all header plainTarget (coding.encode payload)
  rw [← coding.encode_append, ← header_written, ← encode_addressed] at view
  refine ⟨view.2.1, view.2.2.1, ?_⟩
  have data := view.2.2.2 none none
  simpa using data

theorem convert_absent (limit : Nat) (part : Bytes) (delimiter : Char) (ascii : IsAscii delimiter)
    (absent : utf8.unit delimiter ∉ part) : utf16.unit delimiter ∉ convertWithin limit part := by
  unfold convertWithin convertToString
  split_ifs
  · cases decoded : decodeUtf8 part with
    | none => simp
    | some text =>
        rw [encoded_decoded decoded, utf8.unit_mem_encode ascii] at absent
        simp only
        rw [utf16.unit_mem_encode ascii]
        exact absent
  · exact List.not_mem_nil

theorem convert_within {limit : Nat} {text : Text} (fits : (utf8.encode text).length ≤ limit) :
    convertWithin limit (utf8.encode text) = utf16.encode text := by
  unfold convertWithin
  rw [if_pos fits, convert_encoded]

def TooLong (limit : Nat) (binary : Bool) (payload : Text) : Prop :=
  binary = true ∧ limit < (utf8.encode payload).length

instance (limit : Nat) (binary : Bool) (payload : Text) : Decidable (TooLong limit binary payload) :=
  inferInstanceAs (Decidable (_ ∧ _))

theorem incoming_read {decoder : Decoder} {limit : Nat} {binary : Bool}
    {target command payload : Text} (known : IsCommand command) {count : Nat}
    (few : count < 10000000000000000) (least : 65535 ≤ limit)
    (arrived : (incoming decoder limit binary (utf8.encode
      (addressed target (bridgeMessage command (number count) payload)))).targetId =
        some (utf16.encode target)) :
    incoming decoder limit binary (utf8.encode
        (addressed target (bridgeMessage command (number count) payload))) =
      { targetId := some (utf16.encode target)
        command := utf16.encode command
        params := [key count]
        dataAsString := if TooLong limit binary payload then [] else utf16.encode payload } := by
  have short : ∀ text ∈ [[], command, number count], (utf8.encode text).length ≤ limit := by
    intro text member
    have digits := number_short few
    have words : (utf8.encode command).length ≤ 16 := by
      rcases known with rfl | rfl <;> decide
    simp only [List.mem_cons, List.not_mem_nil, or_false] at member
    rcases member with rfl | rfl | rfl
    · exact Nat.zero_le _
    · omega
    · omega
  cases binary with
  | true =>
      have read := view_read known (fun text member => convert_within (short text member))
        (convert_absent limit) arrived
      simp only [incoming, if_true] at arrived ⊢
      rw [arrived, read.1, read.2.1, read.2.2]
      unfold TooLong convertWithin
      simp only [true_and, convert_encoded]
      by_cases fits : (utf8.encode payload).length ≤ limit
      · rw [if_pos fits, if_neg (Nat.not_lt.mpr fits)]
      · rw [if_neg fits, if_pos (Nat.not_le.mp fits)]
  | false =>
      have fits : ¬ TooLong limit false payload := fun long => absurd long.1 (by decide)
      simp only [incoming, Bool.false_eq_true, if_false, decoder.decode_encode] at arrived ⊢
      have read := @view_read _ _ utf16 id _ _ _ known _ (fun _ _ => rfl)
        (fun _ _ _ absent => absent) arrived
      unfold parseText at arrived ⊢
      rw [arrived, read.1, read.2.1, read.2.2, if_neg fits]

theorem target_read_off {decoder : Decoder} {target command payload : Text}
    (known : IsCommand command) {count : Nat}
    (arrived : (takeTargetFromMessage decoder (utf8.encode (sendMessage
      (bridgeMessage command (number count) payload) (some target)))).1.getD [] =
        utf16.encode target) :
    (takeTargetFromMessage decoder (utf8.encode (sendMessage
        (bridgeMessage command (number count) payload) (some target)))).2 =
      utf8.encode (bridgeMessage command (number count) payload) := by
  have header := plain_header known count
  by_cases untargeted : target = []
  · have taken := @untargeted_taken decoder command
      ⟨header.command_plain.1, header.command_plain.2.2⟩ [number count] (':' :: payload)
    unfold sendMessage bridgeMessage
    simp only [untargeted, if_true, taken]
  · rw [send_targeted untargeted] at arrived ⊢
    have targetPlain : '(' ∉ target ∧ '>' ∉ target := by
      cases taken : (takeTargetFromMessage decoder (utf8.encode
          (target ++ '>' :: bridgeMessage command (number count) payload))).1 with
      | none =>
          rw [taken] at arrived
          exact absurd (utf16.encode_nil_iff.mp arrived.symm) untargeted
      | some name =>
          rw [taken] at arrived
          have plain := taken_plain taken
          cases plain with
          | intro part plain =>
              have same : target = kept part := by
                apply utf16_injective
                rw [← plain.1]
                exact arrived.symm
              rw [same]
              exact ⟨fun member => plain.2.1 ((kept_sublist part).mem member),
                fun member => plain.2.2 ((kept_sublist part).mem member)⟩
    unfold bridgeMessage
    rw [target_taken targetPlain header.command_plain.1]

theorem call_read {decoder : Decoder} {command payload : Text} (known : IsCommand command)
    (count : Nat) (nonempty : payload ≠ [])
    (begins : ∀ letter, payload.head? = some letter → Plain letter) (ended : zero ∉ payload) :
    let message := utf8.encode (bridgeMessage command (number count) payload)
    let split := splitMessage decoder message [] []
    utf8.encode dataText <+: message ∧ split.params = [key count] ∧
      split.datagramStartIndex > -1 ∧ split.command = utf16.encode command ∧
      toQString decoder (mid message split.datagramStartIndex (-1)) = utf16.encode payload := by
  intro message split
  have read := @plain_call_split decoder command payload [number count] (plain_call known count)
    (plain_letters known count) nonempty
    (fun same => (begins zero same).2 rfl)
  have whole : split = { datagramStartIndex :=
      ((utf8.encode (call command [number count])).length + 1 : Nat)
                         command := utf16.encode command
                         params := [number count].map utf16.encode } := read.1
  rw [whole]
  refine ⟨?_, rfl, by simp only [gt_iff_lt]; omega, rfl, ?_⟩
  · have begin_ : ∃ rest, bridgeMessage command (number count) payload = dataText ++ rest := by
      cases known with
      | inl same => exact ⟨_, by rw [same]; rfl⟩
      | inr same => exact ⟨_, by rw [same]; rfl⟩
    cases begin_ with
    | intro rest same =>
        exact ⟨utf8.encode rest, by rw [← utf8.encode_append, ← same]⟩
  · have payloadRead : mid message ((utf8.encode (call command [number count])).length + 1 : Nat) (-1)
        = utf8.encode payload := read.2
    have all : kept payload = payload := by
      rw [kept_iff]
      refine ⟨ended, fun mark => ?_⟩
      exact absurd (begins byteOrderMark mark).1 (by decide)
    simp only [payloadRead, to_string_encoded, all]

end Viridity.BridgeMessages
