import Mathlib.Data.List.GetD
import Mathlib.Data.List.MinMax
import Viridity.RewriteRules

/-!
# Substitution of captures

A rule's substitution is cut into letters and references, where a reference is the longest
number of a capture that follows a dollar sign. Captures inserted at once are compared with
the rounds of the code, which insert one after the other in a growing text.
-/

namespace Viridity.CaptureSubstitution

open Viridity.NumberText
open Viridity.TextEncoding
open Viridity.TextReplacement
open Viridity.RewriteRules
open RewriteRule

set_option autoImplicit false

def dollar : UInt16 := utf16.unit '$'

theorem reference_eq (index : Nat) : reference index = dollar :: key index :=
  utf16.encode_ascii_cons (by decide) _

theorem reference_nonempty (index : Nat) : reference index ≠ [] := by
  rw [reference_eq]
  exact List.cons_ne_nil _ _

/-- The longest number below the count that a text begins with. -/
def longestNumber (count : Nat) (text : Units) : Option Nat :=
  ((List.range count).filter fun index => (key index).isPrefixOf text).argmax fun index =>
    (key index).length

inductive Piece where
  | letter (unit : UInt16)
  | reference (index : Nat)
deriving DecidableEq

def piecesFrom (count : Nat) : Nat → Units → List Piece
  | _, [] => []
  | skipped + 1, _ :: rest => piecesFrom count skipped rest
  | 0, unit :: rest =>
      match if unit = dollar then longestNumber count rest else none with
      | some index => .reference index :: piecesFrom count (key index).length rest
      | none => .letter unit :: piecesFrom count 0 rest

def pieces (count : Nat) (substitution : Units) : List Piece := piecesFrom count 0 substitution

/-- A piece as it is written, but references below a bound by what was captured. -/
def render (captures : List Units) (bound : Nat) : Piece → Units
  | .letter unit => [unit]
  | .reference index => if index < bound then captures.getD index [] else reference index

def substituteAtOnce (substitution : Units) (captures : List Units) : Units :=
  (pieces captures.length substitution).flatMap (render captures captures.length)

/-- Wherever the text of a reference begins, with the references below it inserted already,
there is that reference. -/
def OnlyReferred (captures : List Units) (index : Nat) : List Piece → Prop
  | [] => True
  | piece :: rest =>
      (piece = .reference index ∨
        ∀ behind ∈ (render captures index piece).tails, behind ≠ [] →
          ¬ reference index <+: behind ++ rest.flatMap (render captures index)) ∧
      OnlyReferred captures index rest

theorem longest_number_spec {count index : Nat} {text : Units}
    (longest : longestNumber count text = some index) :
    index < count ∧ key index <+: text ∧
      ∀ other < count, key other <+: text → (key other).length ≤ (key index).length := by
  have member := List.argmax_mem longest
  rw [List.mem_filter, List.mem_range, List.isPrefixOf_iff_prefix] at member
  refine ⟨member.1, member.2, ?_⟩
  intro other below starts
  apply List.le_of_mem_argmax _ longest
  rw [List.mem_filter, List.mem_range, List.isPrefixOf_iff_prefix]
  exact ⟨below, starts⟩

theorem longest_number_none {count : Nat} {text : Units} (none : longestNumber count text = none)
    {index : Nat} (below : index < count) : ¬ key index <+: text := by
  intro starts
  have member : index ∈ (List.range count).filter fun index => (key index).isPrefixOf text := by
    rw [List.mem_filter, List.mem_range, List.isPrefixOf_iff_prefix]
    exact ⟨below, starts⟩
  rw [List.argmax_eq_none.mp none] at member
  exact List.not_mem_nil member

theorem pieces_from_drop (count skipped : Nat) (text : Units) :
    piecesFrom count skipped text = pieces count (text.drop skipped) := by
  induction skipped generalizing text with
  | zero => rfl
  | succ skipped induction =>
      cases text with
      | nil => rfl
      | cons unit rest => exact induction rest

/-- The cuts of a substitution: a letter that starts no reference, or a reference. -/
theorem pieces_rounds {count : Nat} {holds : Units → List Piece → Prop} (nil : holds [] [])
    (letter : ∀ unit rest, (unit = dollar → longestNumber count rest = none) →
      holds rest (pieces count rest) → holds (unit :: rest) (.letter unit :: pieces count rest))
    (refers : ∀ index rest, longestNumber count (key index ++ rest) = some index →
      holds rest (pieces count rest) →
        holds (reference index ++ rest) (.reference index :: pieces count rest))
    (text : Units) : holds text (pieces count text) := by
  induction size : text.length using Nat.strongRecOn generalizing text with
  | ind size induction =>
      subst size
      cases text with
      | nil => exact nil
      | cons unit rest =>
          cases found : if unit = dollar then longestNumber count rest else none with
          | none =>
              have cut : pieces count (unit :: rest) = .letter unit :: pieces count rest := by
                unfold pieces
                rw [piecesFrom, found]
              rw [cut]
              apply letter unit rest _ (induction rest.length (Nat.lt_succ_self _) rest rfl)
              intro starts
              rwa [if_pos starts] at found
          | some index =>
              rw [Option.ite_none_right_eq_some] at found
              obtain ⟨starts, longest⟩ := found
              obtain ⟨later, rfl⟩ := (longest_number_spec longest).2.1
              have cut : pieces count (unit :: (key index ++ later)) =
                  .reference index :: pieces count later := by
                unfold pieces
                rw [piecesFrom, if_pos starts, longest]
                dsimp only
                rw [pieces_from_drop, List.drop_left]
                rfl
              have whole : unit :: (key index ++ later) = reference index ++ later := by
                rw [reference_eq, starts]
                rfl
              rw [cut, whole]
              apply refers index later longest
              apply induction later.length _ later rfl
              simp only [List.length_cons, List.length_append]
              omega

/-- The pieces are what the substitution is made of. -/
theorem pieces_written (captures : List Units) (count : Nat) (substitution : Units) :
    (pieces count substitution).flatMap (render captures 0) = substitution := by
  apply @pieces_rounds count fun text parts => parts.flatMap (render captures 0) = text
  · rfl
  · intro unit rest _ written
    rw [List.flatMap_cons, written]
    rfl
  · intro index rest _ written
    rw [List.flatMap_cons, written]
    rfl

theorem referred_below {count index : Nat} {substitution : Units}
    (member : Piece.reference index ∈ pieces count substitution) : index < count := by
  revert member
  apply @pieces_rounds count fun _ parts => Piece.reference index ∈ parts → index < count
  · intro member
    exact absurd member List.not_mem_nil
  · intro unit rest _ induction member
    rcases List.mem_cons.mp member with here | later
    · cases here
    · exact induction later
  · intro other rest longest induction member
    rcases List.mem_cons.mp member with here | later
    · cases here
      exact (longest_number_spec longest).1
    · exact induction later

/-- One round inserts what was captured exactly at its references. -/
theorem replace_round {captures : List Units} {index : Nat} {cap : Units}
    (captured : captures[index]? = some cap) {parts : List Piece}
    (only : OnlyReferred captures index parts) :
    replaceAll (reference index) cap (parts.flatMap (render captures index)) =
      parts.flatMap (render captures (index + 1)) := by
  induction parts with
  | nil => rfl
  | cons piece rest induction =>
      rw [List.flatMap_cons, List.flatMap_cons]
      by_cases here : piece = .reference index
      · have before : render captures index piece = reference index := by
          rw [here]
          exact if_neg (Nat.lt_irrefl index)
        have after : render captures (index + 1) piece = cap := by
          rw [here]
          simp [render, captured]
        rw [before, after, replace_all_here cap (reference_nonempty index), induction only.2]
      · have same : render captures (index + 1) piece = render captures index piece := by
          cases piece with
          | letter unit => rfl
          | reference other =>
              have apart : other ≠ index := fun equal => here (congrArg _ equal)
              have bounds : other < index + 1 ↔ other < index := by
                omega
              exact if_congr bounds rfl rfl
        rw [replace_all_free cap, same, induction only.2]
        intro before behind cut nonempty
        apply (only.1.resolve_left here) behind _ nonempty
        rw [List.mem_tails]
        exact ⟨before, cut⟩

/-- The rounds insert all captures at once, as long as each finds its own references only. -/
theorem rounds_at_once {captures : List Units} {substitution : Units}
    (only : ∀ index < captures.length,
      OnlyReferred captures index (pieces captures.length substitution))
    {bound : Nat} (within : bound ≤ captures.length) :
    substitute substitution (captures.take bound) =
      (pieces captures.length substitution).flatMap (render captures bound) := by
  induction bound with
  | zero =>
      rw [pieces_written]
      rfl
  | succ bound induction =>
      have captured : captures[bound]? = some captures[bound] :=
        List.getElem?_eq_getElem (by omega)
      have before := induction (by omega)
      unfold substitute at before ⊢
      rw [List.take_add_one, captured, Option.toList_some, List.zipIdx_append, List.foldl_append, before]
      have length : (captures.take bound).length = bound := by
        rw [List.length_take]
        omega
      rw [length]
      simpa using replace_round captured (only bound (by omega))

theorem substitute_at_once {captures : List Units} {substitution : Units}
    (only : ∀ index < captures.length,
      OnlyReferred captures index (pieces captures.length substitution)) :
    substitute substitution captures = substituteAtOnce substitution captures := by
  have rounds := rounds_at_once only (Nat.le_refl _)
  rwa [List.take_length] at rounds

/-- The substitution refers to nothing but the last capture, by a single digit. -/
def RefersToLastDigit (last : Nat) (substitution : Units) : Prop :=
  ∀ index, Piece.reference index ∈ pieces (last + 1) substitution → index = last ∧ last ≤ 9

theorem dollar_not_mem_key (index : Nat) : dollar ∉ key index := by
  intro member
  have letter : '$' ∈ number index := (utf16.unit_mem_encode (by decide)).mp member
  exact number_plain (by decide) letter

theorem key_digit {index : Nat} (digit : index ≤ 9) : ∃ unit, key index = [unit] := by
  have number : number index = [Nat.digitChar index] := Nat.toDigits_of_lt_base (by omega)
  have ascii : IsAscii (Nat.digitChar index) := by
    have letter := (number_letters (number ▸ List.mem_singleton_self _)).2
    unfold IsAscii
    omega
  refine ⟨utf16.unit (Nat.digitChar index), ?_⟩
  unfold key
  rw [number]
  exact utf16.encode_ascii_cons ascii []

theorem key_prefix_digit {index digit : Nat} (below : index ≤ digit) (single : digit ≤ 9)
    {rest : Units} (starts : key index <+: key digit ++ rest) : index = digit := by
  obtain ⟨first, one⟩ := key_digit (below.trans single)
  obtain ⟨second, other⟩ := key_digit single
  rw [one, other] at starts
  apply key_injective
  rw [one, other, (List.cons_prefix_cons.mp starts).1]

theorem reference_within {index other : Nat} {behind rest : Units}
    (suffix : behind <:+ reference other) (nonempty : behind ≠ [])
    (starts : reference index <+: behind ++ rest) : key index <+: key other ++ rest := by
  rw [reference_eq] at suffix starts
  rcases List.suffix_cons_iff.mp suffix with whole | within
  · rw [whole, List.cons_append, List.cons_prefix_cons] at starts
    exact starts.2
  · obtain ⟨first, others, rfl⟩ := List.exists_cons_of_ne_nil nonempty
    rw [List.cons_append, List.cons_prefix_cons] at starts
    have member := within.subset List.mem_cons_self
    rw [← starts.1] at member
    exact absurd member (dollar_not_mem_key other)

theorem only_referred_last {captures : List Units} {last : Nat} {substitution : Units}
    (refers : RefersToLastDigit last substitution) {index : Nat} (within : index ≤ last) :
    OnlyReferred captures index (pieces (last + 1) substitution) := by
  suffices both : (∀ other, Piece.reference other ∈ pieces (last + 1) substitution →
      other = last ∧ last ≤ 9) → OnlyReferred captures index (pieces (last + 1) substitution) ∧
        (pieces (last + 1) substitution).flatMap (render captures index) = substitution from
    (both refers).1
  apply @pieces_rounds (last + 1) fun text parts =>
    (∀ other, Piece.reference other ∈ parts → other = last ∧ last ≤ 9) →
      OnlyReferred captures index parts ∧ parts.flatMap (render captures index) = text
  · intro _
    exact ⟨trivial, rfl⟩
  · intro unit rest unreferred induction refers
    have later := induction fun other member => refers other (List.mem_cons_of_mem _ member)
    refine ⟨⟨Or.inr ?_, later.1⟩, congrArg (List.cons unit) later.2⟩
    intro behind suffix nonempty starts
    have alone : behind = [unit] := by
      have cases := List.suffix_cons_iff.mp ((List.mem_tails _ _).mp suffix)
      exact cases.resolve_right fun empty => nonempty (List.suffix_nil.mp empty)
    rw [alone, later.2, reference_eq, List.singleton_append, List.cons_prefix_cons] at starts
    exact longest_number_none (unreferred starts.1.symm) (by omega) starts.2
  · intro other rest _ induction refers
    have later := induction fun other member => refers other (List.mem_cons_of_mem _ member)
    obtain ⟨same, digit⟩ := refers other List.mem_cons_self
    subst same
    have written : render captures index (.reference other) = reference other :=
      if_neg (by omega)
    refine ⟨⟨?_, later.1⟩, by rw [List.flatMap_cons, written, later.2]⟩
    rw [written]
    by_cases here : index = other
    · exact Or.inl (congrArg Piece.reference here.symm)
    · refine Or.inr ?_
      intro behind suffix nonempty starts
      rw [later.2] at starts
      have begins := reference_within ((List.mem_tails _ _).mp suffix) nonempty starts
      exact here (key_prefix_digit within digit begins)

/-- The captures that show a reference to be rewritten: an unreferred mark. -/
def mark : UInt16 := utf16.unit 'x'

theorem mark_not_mem_reference (index : Nat) : mark ∉ reference index := by
  rw [reference_eq, List.mem_cons, not_or]
  refine ⟨by decide, ?_⟩
  intro member
  have letter : 'x' ∈ number index := (utf16.unit_mem_encode (by decide)).mp member
  exact number_plain (by decide) letter

theorem captured_inserted {captures : List Units} {index : Nat} {substitution : Units}
    (refers : Piece.reference index ∈ pieces captures.length substitution) :
    captures.getD index [] <:+: substituteAtOnce substitution captures := by
  obtain ⟨before, after, parts⟩ := List.append_of_mem refers
  unfold substituteAtOnce
  rw [parts, List.flatMap_append, List.flatMap_cons]
  have inserted : render captures captures.length (.reference index) = captures.getD index [] :=
    if_pos (referred_below refers)
  rw [inserted]
  exact List.infix_append' _ _ _

/-- A capture that reads like the last reference is rewritten in the last round. -/
theorem earlier_reference_rewritten {last index : Nat} {substitution : Units}
    (refers : Piece.reference index ∈ pieces (last + 1) substitution) (earlier : index < last) :
    ∃ captures : List Units, captures.length = last + 1 ∧
      substitute substitution captures ≠ substituteAtOnce substitution captures := by
  let front : List Units := (List.replicate last []).set index (reference last)
  have length : front.length = last := by
    simp [front]
  refine ⟨front ++ [[mark]], by simp [length], ?_⟩
  have captured : (front ++ [[mark]]).getD index [] = reference last := by
    rw [List.getD_append _ _ _ _ (by omega)]
    simp [front, earlier]
  have inserted := @captured_inserted (front ++ [[mark]]) index substitution
    (by simpa [length] using refers)
  rw [captured] at inserted
  have gone := (replaced_marked (reference_nonempty last) (mark_not_mem_reference last)
    (substitute substitution front)).gone
  have round : substitute substitution (front ++ [[mark]]) =
      replaceAll (reference last) [mark] (substitute substitution front) := by
    unfold substitute
    rw [List.zipIdx_append, List.foldl_append, length]
    simp
  intro same
  rw [← same, round] at inserted
  exact gone inserted

theorem marks_keep_absent {index : Nat} (rounds : List (Units × Nat))
    (marks : ∀ round ∈ rounds, round.1 = [mark]) {text : Units}
    (absent : ¬ reference index <:+: text) :
    ¬ reference index <:+: rounds.foldl
      (fun ruleRewrite (cap, i) => replaceAll (reference i) cap ruleRewrite) text := by
  induction rounds generalizing text with
  | nil => exact absent
  | cons round rest induction =>
      rw [List.forall_mem_cons] at marks
      rw [List.foldl_cons]
      apply induction marks.2
      intro occurs
      dsimp only at occurs
      rw [marks.1] at occurs
      exact absent ((replaced_marked (reference_nonempty round.2) (mark_not_mem_reference round.2)
        text).occurs _ (mark_not_mem_reference index) occurs)

theorem marked_absent {count index : Nat} (below : index < count) (substitution : Units) :
    ¬ reference index <:+: substitute substitution (List.replicate count [mark]) := by
  have split : List.replicate count [mark] =
      List.replicate index [mark] ++ [mark] :: List.replicate (count - index - 1) [mark] := by
    rw [← List.replicate_succ, List.replicate_append_replicate]
    congr 1
    omega
  unfold substitute
  rw [split, List.zipIdx_append, List.foldl_append, List.zipIdx_cons, List.foldl_cons]
  apply marks_keep_absent
  · intro round member
    exact List.eq_of_mem_replicate (List.fst_mem_of_mem_zipIdx member)
  · simp only [List.length_replicate, Nat.zero_add]
    exact (replaced_marked (reference_nonempty index) (mark_not_mem_reference index) _).gone

theorem reference_longer {index : Nat} (long : 10 ≤ index) :
    reference (index / 10) <+: reference index := by
  rw [reference_eq, reference_eq, List.cons_prefix_cons]
  refine ⟨rfl, ?_⟩
  unfold key number
  rw [Nat.toDigits_of_base_le (by decide) long, utf16.encode_append]
  exact List.prefix_append _ _

theorem long_reference_rewritten {last : Nat} {substitution : Units}
    (refers : Piece.reference last ∈ pieces (last + 1) substitution) (long : 10 ≤ last) :
    ∃ captures : List Units, captures.length = last + 1 ∧
      substitute substitution captures ≠ substituteAtOnce substitution captures := by
  have length : (List.replicate last [mark]).length = last := List.length_replicate
  refine ⟨List.replicate last [mark] ++ [reference last], by simp, ?_⟩
  have captured : (List.replicate last [mark] ++ [reference last]).getD last [] =
      reference last := by
    simp
  have inserted := @captured_inserted (List.replicate last [mark] ++ [reference last]) last
    substitution (by simpa using refers)
  rw [captured] at inserted
  have shorter : last / 10 < last := Nat.div_lt_self (by omega) (by decide)
  have beginning := marked_absent shorter substitution
  have absent : ¬ reference last <:+:
      substitute substitution (List.replicate last [mark]) := by
    intro occurs
    exact beginning ((reference_longer long).isInfix.trans occurs)
  have round : substitute substitution (List.replicate last [mark] ++ [reference last]) =
      substitute substitution (List.replicate last [mark]) := by
    rw [← replace_all_absent (reference last) absent]
    unfold substitute
    rw [List.zipIdx_append, List.foldl_append, length]
    simp
  intro same
  rw [← same, round] at inserted
  exact absent inserted

/-- The captures are inserted at once where each round finds its own references only. Whatever
is captured, this is so exactly if the substitution refers to nothing but the last capture by
its single digit. -/
theorem captures_inserted_at_once (rule : RewriteRule) :
    (∀ (capture : Units → Units → Option (List Units)) (input : Units) (captures : List Units),
      capture rule.pattern input = some captures →
        (∀ index < captures.length,
          OnlyReferred captures index (pieces captures.length rule.substitution)) →
          rule.doesMatchAndSubstitute capture input =
            some (substituteAtOnce rule.substitution captures)) ∧
    ∀ last : Nat,
      (∀ (capture : Units → Units → Option (List Units)) (input : Units)
        (captures : List Units),
        capture rule.pattern input = some captures → captures.length = last + 1 →
          rule.doesMatchAndSubstitute capture input =
            some (substituteAtOnce rule.substitution captures)) ↔
        RefersToLastDigit last rule.substitution := by
  have matched : ∀ {capture : Units → Units → Option (List Units)} {input : Units}
      {captures : List Units}, capture rule.pattern input = some captures →
        rule.doesMatchAndSubstitute capture input =
          some (substitute rule.substitution captures) := by
    intro capture input captures captured
    unfold RewriteRule.doesMatchAndSubstitute
    rw [captured]
    rfl
  constructor
  · intro capture input captures captured only
    rw [matched captured, substitute_at_once only]
  · intro last
    constructor
    · intro atOnce index refers
      have always : ∀ captures : List Units, captures.length = last + 1 →
          substitute rule.substitution captures = substituteAtOnce rule.substitution captures := by
        intro captures length
        have same := atOnce (fun _ _ => some captures) [] captures rfl length
        rw [matched rfl] at same
        exact Option.some.inj same
      have below := referred_below refers
      have final : index = last := by
        by_contra apart
        obtain ⟨captures, length, differs⟩ := earlier_reference_rewritten refers (by omega)
        exact differs (always captures length)
      refine ⟨final, ?_⟩
      by_contra long
      obtain ⟨captures, length, differs⟩ :=
        long_reference_rewritten (final ▸ refers) (by omega)
      exact differs (always captures length)
    · intro refers capture input captures captured length
      rw [matched captured, substitute_at_once]
      intro index below
      rw [length] at below ⊢
      exact only_referred_last refers (by omega)

/-- The first of two parts of a path is captured as `$2`. -/
theorem inserted_text_replaced :
    ¬ ∀ (rule : RewriteRule) (capture : Units → Units → Option (List Units)) (input : Units)
      (captures : List Units), capture rule.pattern input = some captures →
        rule.doesMatchAndSubstitute capture input =
          some (substituteAtOnce rule.substitution captures) := by
  intro atOnce
  have same := atOnce ⟨[], utf16.encode ['/', '$', '1', '/', '$', '2'], none, 0⟩
    (fun _ _ => some [utf16.encode ['/', '$', '2', '/', 'b'], utf16.encode ['$', '2'],
      utf16.encode ['b']]) [] _ rfl
  revert same
  decide

end Viridity.CaptureSubstitution
