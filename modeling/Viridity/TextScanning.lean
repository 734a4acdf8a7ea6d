import Mathlib.Data.List.Basic
import Mathlib.Data.List.TakeWhile
import Mathlib.Tactic.Common

/-!
# Positions and parts of texts

Searches that answer -1, parts cut by signed positions, and splitting at runs of
separators, over texts of any kind of unit.
-/

namespace Viridity.TextScanning

set_option autoImplicit false

variable {Unit : Type}

section Positions

variable [DecidableEq Unit]

def position (unit : Unit) (text : List Unit) : Int :=
  if unit ∈ text then (text.idxOf unit : Int) else -1

/-- The first position from the given one on; a negative one counts from the end. -/
def positionFrom (unit : Unit) (text : List Unit) (start : Int) : Int :=
  let offset := (if start < 0 then start + text.length else start).toNat
  let found := position unit (text.drop offset)
  if found < 0 then -1 else found + offset

theorem position_append {unit : Unit} {front : List Unit} (absent : unit ∉ front)
    (rest : List Unit) : position unit (front ++ unit :: rest) = front.length := by
  have member : unit ∈ front ++ unit :: rest := by simp
  unfold position
  rw [if_pos member, List.idxOf_append_of_notMem absent, List.idxOf_cons_self]
  rfl

theorem position_absent {unit : Unit} {text : List Unit} (absent : unit ∉ text) :
    position unit text = -1 := by
  unfold position
  rw [if_neg absent]

theorem position_from_append {unit : Unit} {front middle : List Unit} (absent : unit ∉ middle)
    (rest : List Unit) :
    positionFrom unit (front ++ (middle ++ unit :: rest)) front.length =
      (front ++ middle).length := by
  unfold positionFrom
  have start : ¬ (front.length : Int) < 0 := by omega
  have found : ¬ (middle.length : Int) < 0 := by omega
  simp only [start, if_false, Int.toNat_natCast, List.drop_left, position_append absent, found]
  rw [List.length_append]
  omega

theorem position_from_absent {unit : Unit} {text : List Unit} (absent : unit ∉ text) (start : Int) :
    positionFrom unit text start = -1 := by
  unfold positionFrom
  have later : position unit (text.drop (if start < 0 then start + text.length else start).toNat)
      = -1 := by
    apply position_absent
    intro member
    exact absent (List.mem_of_mem_drop member)
  simp [later]

end Positions

def left (text : List Unit) (count : Int) : List Unit := text.take count.toNat

def before [DecidableEq Unit] (unit : Unit) (text : List Unit) : List Unit :=
  if unit ∈ text then text.takeWhile fun other => other ≠ unit else []

theorem before_sublist [DecidableEq Unit] (unit : Unit) (text : List Unit) :
    (before unit text).Sublist text := by
  unfold before
  split_ifs
  · exact List.takeWhile_sublist _
  · exact List.nil_sublist _

theorem before_absent [DecidableEq Unit] (unit : Unit) (text : List Unit) :
    unit ∉ before unit text := by
  unfold before
  split_ifs
  · intro member
    have other := List.mem_takeWhile_imp member
    simp at other
  · simp

theorem before_append [DecidableEq Unit] {unit : Unit} {front : List Unit} (absent : unit ∉ front)
    (rest : List Unit) : before unit (front ++ unit :: rest) = front := by
  have others : ∀ other ∈ front, decide (other ≠ unit) = true := by
    intro other member
    rw [decide_eq_true_iff]
    intro same
    exact absent (same ▸ member)
  unfold before
  rw [if_pos (by simp), List.takeWhile_append_of_pos others]
  simp

theorem left_position [DecidableEq Unit] (unit : Unit) (text : List Unit) :
    left text (position unit text) = before unit text := by
  unfold before
  by_cases member : unit ∈ text
  · have split : text = (text.takeWhile fun other => other ≠ unit) ++
        text.dropWhile fun other => other ≠ unit := List.takeWhile_append_dropWhile.symm
    have absent : unit ∉ text.takeWhile fun other => other ≠ unit := by
      intro inside
      have other := List.mem_takeWhile_imp inside
      simp at other
    cases behind : text.dropWhile fun other => other ≠ unit with
    | nil =>
        rw [behind, List.append_nil] at split
        rw [split] at member
        exact absurd member absent
    | cons first rest =>
        have stops : first = unit := by
          have head := List.head?_dropWhile_not (fun other => decide (other ≠ unit)) text
          rw [behind] at head
          simpa using head
        rw [behind, stops] at split
        have found := position_append absent rest
        rw [← split] at found
        rw [if_pos member, found]
        unfold left
        rw [Int.toNat_natCast]
        exact (List.prefix_iff_eq_take.mp (List.takeWhile_prefix _)).symm
  · unfold left
    rw [position_absent member, if_neg member]
    rfl

/-- A position counted from the end when it is negative, held within the text. -/
def clampIndex (length : Nat) (index : Int) : Nat :=
  if index < 0 then (length + index).toNat else min index.toNat length

/-- The part between two positions, up to the end when the second is missing. -/
def slice (text : List Unit) (start : Int) (stop : Option Int) : List Unit :=
  (text.take (clampIndex text.length (stop.getD text.length))).drop (clampIndex text.length start)

theorem clamp_natural (length index : Nat) : clampIndex length index = min index length := by
  unfold clampIndex
  rw [if_neg (by omega)]
  rfl

@[simp]
theorem slice_natural (text : List Unit) (start stop : Nat) :
    slice text start (some stop) = (text.take stop).drop start := by
  unfold slice
  rw [Option.getD_some, clamp_natural, clamp_natural, ← List.take_take, List.take_length]
  cases Nat.le_total start text.length with
  | inl within => rw [Nat.min_eq_left within]
  | inr beyond =>
      rw [Nat.min_eq_right beyond]
      rw [List.drop_of_length_le (by rw [List.length_take]; omega),
        List.drop_of_length_le (by rw [List.length_take]; omega)]

@[simp]
theorem slice_from (text : List Unit) (start : Nat) : slice text start none = text.drop start := by
  have whole := slice_natural text start text.length
  rw [List.take_length] at whole
  exact whole

theorem slice_start (text : List Unit) (stop : Int) :
    slice text 0 (some stop) = text.take (clampIndex text.length stop) := by
  have start : clampIndex text.length 0 = 0 := by
    have natural := clamp_natural text.length 0
    simpa using natural
  unfold slice
  rw [start, Option.getD_some, List.drop_zero]

theorem slice_middle (front middle rest : List Unit) :
    slice (front ++ (middle ++ rest)) front.length (some (front.length + middle.length : Nat)) =
      middle := by
  rw [slice_natural, ← List.append_assoc, ← List.length_append, List.take_left, List.drop_left]

theorem slice_front (front rest : List Unit) :
    slice (front ++ rest) 0 (some (front.length : Int)) = front := by
  have middle := slice_middle [] front rest
  simpa using middle

theorem slice_rest (front rest : List Unit) :
    slice (front ++ rest) (front.length : Nat) none = rest := by
  rw [slice_from, List.drop_left]

/-- At most `count` units from a position on, all of them when the count is negative. -/
def mid (text : List Unit) (start count : Int) : List Unit :=
  if start < 0 then if count < 0 then text else text.take (count + start).toNat
  else if count < 0 then text.drop start.toNat
  else (text.drop start.toNat).take count.toNat

@[simp]
theorem mid_natural (text : List Unit) (start count : Nat) :
    mid text start count = (text.drop start).take count := by
  unfold mid
  rw [if_neg (by omega), if_neg (by omega)]
  rfl

theorem mid_middle (front middle rest : List Unit) :
    mid (front ++ (middle ++ rest)) front.length middle.length = middle := by
  rw [mid_natural, List.drop_left, List.take_left]

theorem mid_rest (front rest : List Unit) : mid (front ++ rest) front.length (-1) = rest := by
  unfold mid
  rw [if_neg (by omega), if_pos (by omega), Int.toNat_natCast, List.drop_left]

theorem mem_intercalate {unit separator : Unit} {pieces : List (List Unit)}
    (member : unit ∈ [separator].intercalate pieces) :
    unit = separator ∨ ∃ piece ∈ pieces, unit ∈ piece := by
  induction pieces with
  | nil => simp at member
  | cons piece pieces induction =>
      cases pieces with
      | nil => exact Or.inr ⟨piece, by simp, by simpa using member⟩
      | cons next pieces =>
          rw [List.intercalate_cons_cons, List.append_assoc, List.mem_append,
            List.mem_append, List.mem_singleton] at member
          cases member with
          | inl first => exact Or.inr ⟨piece, by simp, first⟩
          | inr later =>
              cases later with
              | inl same => exact Or.inl same
              | inr later =>
                  cases induction later with
                  | inl same => exact Or.inl same
                  | inr found =>
                      cases found with
                      | intro other found => exact Or.inr ⟨other, by simp [found.1], found.2⟩

theorem piece_mem_intercalate {unit separator : Unit} {pieces : List (List Unit)}
    {piece : List Unit} (among : piece ∈ pieces) (member : unit ∈ piece) :
    unit ∈ [separator].intercalate pieces := by
  induction pieces with
  | nil => simp at among
  | cons first pieces induction =>
      cases pieces with
      | nil =>
          simp only [List.mem_singleton] at among
          simpa [among] using member
      | cons next pieces =>
          rw [List.intercalate_cons_cons, List.append_assoc, List.mem_append, List.mem_append]
          rw [List.mem_cons] at among
          cases among with
          | inl same => exact Or.inl (same ▸ member)
          | inr later => exact Or.inr (Or.inr (induction later))

def consHead (unit : Unit) : List (List Unit) → List (List Unit)
  | [] => [[unit]]
  | first :: rest => (unit :: first) :: rest

/-- The pieces between runs of separators; the flag tells that a run has been entered. -/
def splitRuns (separator : Unit → Bool) (entered : Bool) : List Unit → List (List Unit)
  | [] => [[]]
  | unit :: rest =>
      if separator unit then
        if entered then splitRuns separator true rest else [] :: splitRuns separator true rest
      else consHead unit (splitRuns separator false rest)

theorem split_run_plain {separator : Unit → Bool} {piece : List Unit}
    (plain : ∀ unit ∈ piece, separator unit = false) : splitRuns separator false piece = [piece] := by
  induction piece with
  | nil => rfl
  | cons unit piece induction =>
      rw [List.forall_mem_cons] at plain
      simp [splitRuns, plain.1, induction plain.2, consHead]

/-- Once a piece has begun it no longer matters whether a run of separators came before it. -/
theorem split_run_entered {separator : Unit → Bool} {piece : List Unit} (nonempty : piece ≠ [])
    (plain : ∀ unit ∈ piece, separator unit = false) (rest : List Unit) :
    splitRuns separator true (piece ++ rest) = splitRuns separator false (piece ++ rest) := by
  cases piece with
  | nil => exact absurd rfl nonempty
  | cons unit piece => simp [splitRuns, plain unit (by simp)]

theorem split_run_append {separator : Unit → Bool} {piece : List Unit} {mark : Unit}
    (plain : ∀ unit ∈ piece, separator unit = false) (separates : separator mark = true)
    (rest : List Unit) :
    splitRuns separator false (piece ++ mark :: rest) = piece :: splitRuns separator true rest := by
  induction piece with
  | nil => simp [splitRuns, separates]
  | cons unit piece induction =>
      rw [List.forall_mem_cons] at plain
      simp [splitRuns, plain.1, induction plain.2, consHead]

theorem split_run_intercalate {separator : Unit → Bool} {mark : Unit}
    (separates : separator mark = true) {pieces : List (List Unit)} (nonempty : pieces ≠ [])
    (plain : ∀ piece ∈ pieces, piece ≠ [] ∧ ∀ unit ∈ piece, separator unit = false) :
    splitRuns separator false ([mark].intercalate pieces) = pieces := by
  induction pieces with
  | nil => exact absurd rfl nonempty
  | cons piece pieces induction =>
      have first := plain piece (by simp)
      cases pieces with
      | nil =>
          rw [List.intercalate_singleton]
          exact split_run_plain first.2
      | cons next pieces =>
          have second := plain next (by simp)
          have later := induction (by simp) (by intro other member; exact plain other (by simp [member]))
          rw [List.intercalate_cons_cons, List.append_assoc, List.singleton_append,
            split_run_append first.2 separates]
          have begins : ∃ rest, [mark].intercalate (next :: pieces) = next ++ rest := by
            cases pieces with
            | nil => exact ⟨[], by simp⟩
            | cons last pieces => exact ⟨_, by rw [List.intercalate_cons_cons, List.append_assoc]⟩
          obtain ⟨rest, whole⟩ := begins
          rw [whole] at later ⊢
          rw [split_run_entered second.1 second.2, later]

end Viridity.TextScanning
