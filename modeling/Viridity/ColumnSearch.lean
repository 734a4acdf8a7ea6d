import Viridity.FingerPrintSearch
import Viridity.LeastIndex

/-!
# Searching a column of hashes

`AreaFingerPrint::indexOf` compares a needle of hashes with the rows of a column. With
`VIRIDITY_USE_NSN` it skips rows and compares all rows of the needle but the last two;
without it the whole needle is compared at every index.
-/

namespace Viridity.ColumnSearch

open Viridity.FingerPrintSearch
open Viridity.LeastIndex

set_option autoImplicit false

/-- The loop over `memcmp` that is compiled without `VIRIDITY_USE_NSN`. -/
def naive (haystack needle : AreaFingerPrint) (endIndex : Nat) : Nat → Nat → Option Nat
  | 0, _ => none
  | fuel + 1, index =>
      if index ≤ endIndex then
        if (List.range needle.length).all fun row =>
            needle.getD row AreaFingerPrintHash.zero ==
              haystack.getD (index + row) AreaFingerPrintHash.zero then
          some index
        else naive haystack needle endIndex fuel (index + 1)
      else none

/-- The bound `indexOf` puts in the place of `endIndex`. -/
def effectiveEnd (haystack needle : AreaFingerPrint) (endIndex : Int) : Int :=
  let maxIndex : Int := haystack.length - needle.length
  if endIndex ≤ 0 ∨ endIndex > maxIndex then maxIndex else endIndex

/-- `indexOf` as it is compiled without `VIRIDITY_USE_NSN`. -/
def indexOfNaive (haystack needle : AreaFingerPrint) (startIndex : Nat) (endIndex : Int) :
    Option Nat :=
  let haystackSize := haystack.length
  let needleSize := needle.length
  if needleSize > haystackSize ∨ needleSize = 0 ∨ haystackSize = 0 then none
  else if startIndex > haystackSize then none
  else
    let maxIndex : Int := haystackSize - needleSize
    let lastIndex := if endIndex ≤ 0 ∨ endIndex > maxIndex then maxIndex else endIndex
    if lastIndex < startIndex then none
    else if needleSize > 1 then naive haystack needle lastIndex.toNat (haystackSize + 1) startIndex
    else
      singleRow haystack (needle.getD 0 AreaFingerPrintHash.zero) lastIndex.toNat
        (haystackSize + 1) startIndex

/-- The first `count` rows of the needle are those of the haystack at `index`. -/
def RowsAgree (haystack needle : AreaFingerPrint) (count index : Nat) : Prop :=
  ∀ row < count, needle.getD row AreaFingerPrintHash.zero =
    haystack.getD (index + row) AreaFingerPrintHash.zero

/-- What the compiled search takes for an occurrence. -/
def Resembles (haystack needle : AreaFingerPrint) (index : Nat) : Prop :=
  (needle.length = 1 ∧ RowsAgree haystack needle 1 index) ∨
    (4 ≤ needle.length ∧ RowsAgree haystack needle (needle.length - 2) index)

section Loops

variable {haystack needle : AreaFingerPrint} {endIndex : Nat}

theorem matched_up_to_iff {index needleSize2 fuel i : Nat} (enough : needleSize2 ≤ i + fuel) :
    matchedUpTo haystack needle index needleSize2 fuel i = needleSize2 ↔
      i ≤ needleSize2 ∧ ∀ row, i ≤ row → row < needleSize2 →
        needle.getD row AreaFingerPrintHash.zero =
          haystack.getD (index + row) AreaFingerPrintHash.zero := by
  induction fuel generalizing i with
  | zero =>
      unfold matchedUpTo
      constructor
      · rintro rfl
        exact ⟨Nat.le_refl _, fun row after before => absurd before (by omega)⟩
      · rintro ⟨within, _⟩
        omega
  | succ fuel induction =>
      unfold matchedUpTo
      split_ifs with continues
      · rw [induction (by omega)]
        constructor
        · rintro ⟨within, agree⟩
          refine ⟨by omega, ?_⟩
          intro row after before
          rcases Nat.eq_or_lt_of_le after with same | later
          · rw [← same]
            exact continues.2
          · exact agree row later before
        · rintro ⟨_, agree⟩
          exact ⟨continues.1, fun row after before => agree row (by omega) before⟩
      · constructor
        · intro same
          exact ⟨by omega, fun row after before => absurd before (by omega)⟩
        · rintro ⟨within, agree⟩
          by_contra apart
          have inside : i < needleSize2 := by omega
          exact continues ⟨inside, agree i (Nat.le_refl _) inside⟩

theorem resembles_iff {index : Nat} (several : 1 < needle.length) :
    Resembles haystack needle index ↔
      needle.getD 1 AreaFingerPrintHash.zero = haystack.getD (index + 1) AreaFingerPrintHash.zero ∧
        needle.getD 0 AreaFingerPrintHash.zero = haystack.getD index AreaFingerPrintHash.zero ∧
          matchedUpTo haystack needle index (needle.length - 2) needle.length 2 =
            needle.length - 2 := by
  rw [matched_up_to_iff (by omega)]
  unfold Resembles RowsAgree
  constructor
  · rintro (⟨single, _⟩ | ⟨long, agree⟩)
    · omega
    · exact ⟨agree 1 (by omega), agree 0 (by omega), by omega,
        fun row _ before => agree row before⟩
  · rintro ⟨second, first, long, agree⟩
    right
    refine ⟨by omega, ?_⟩
    intro row before
    match row with
    | 0 => exact first
    | 1 => exact second
    | row + 2 => exact agree (row + 2) (by omega) before

/-- An index that is skipped begins with the row that the second row was compared with. -/
theorem skip_unlike {index k : Nat} (several : 1 < needle.length)
    (skips : k = 1 ∨ (k = 2 ∧ needle.getD 0 AreaFingerPrintHash.zero ≠
      haystack.getD (index + 1) AreaFingerPrintHash.zero))
    (unlike : ¬ Resembles haystack needle index) :
    ∀ skipped, index ≤ skipped → skipped < index + k → ¬ Resembles haystack needle skipped := by
  intro skipped after before
  rcases Nat.eq_or_lt_of_le after with same | later
  · rw [← same]
    exact unlike
  · rcases skips with single | ⟨double, differs⟩
    · omega
    · have next : skipped = index + 1 := by omega
      rw [next, resembles_iff several]
      rintro ⟨_, first, _⟩
      exact differs first

theorem not_so_naive_least {k l fuel index : Nat} (several : 1 < needle.length)
    (steps : (needle.getD 0 AreaFingerPrintHash.zero = needle.getD 1 AreaFingerPrintHash.zero ∧
        k = 2 ∧ l = 1) ∨
      (needle.getD 0 AreaFingerPrintHash.zero ≠ needle.getD 1 AreaFingerPrintHash.zero ∧
        k = 1 ∧ l = 2))
    (enough : endIndex < index + fuel) :
    LeastIn (Resembles haystack needle) index endIndex
      (notSoNaive haystack needle k l endIndex fuel index) := by
  induction fuel generalizing index with
  | zero => exact least_in_empty (by omega)
  | succ fuel induction =>
      unfold notSoNaive
      split_ifs with inside second first
      · have unlike : ¬ Resembles haystack needle index := by
          rw [resembles_iff several]
          rintro ⟨agrees, _⟩
          exact second agrees
        refine (induction (by omega)).skip (Nat.le_add_right _ _) (skip_unlike several ?_ unlike)
        rcases steps with ⟨same, double, _⟩ | ⟨_, single, _⟩
        · rw [same]
          exact Or.inr ⟨double, second⟩
        · exact Or.inl single
      · rw [not_not] at second
        exact least_in_here (by omega) ((resembles_iff several).mpr ⟨second, first⟩)
      · rw [not_not] at second
        have unlike : ¬ Resembles haystack needle index := by
          rw [resembles_iff several]
          rintro ⟨_, agrees⟩
          exact first agrees
        refine (induction (by omega)).skip (Nat.le_add_right _ _) (skip_unlike several ?_ unlike)
        rcases steps with ⟨_, _, single⟩ | ⟨differs, _, double⟩
        · exact Or.inl single
        · rw [← second]
          exact Or.inr ⟨double, differs⟩
      · exact least_in_empty (by omega)

theorem naive_least {fuel index : Nat} (enough : endIndex < index + fuel) :
    LeastIn (RowsAgree haystack needle needle.length) index endIndex
      (naive haystack needle endIndex fuel index) := by
  induction fuel generalizing index with
  | zero => exact least_in_empty (by omega)
  | succ fuel induction =>
      unfold naive
      split_ifs with inside agrees
      · apply least_in_here (by omega)
        simpa [RowsAgree] using agrees
      · apply (induction (by omega)).skip (Nat.le_succ index)
        intro skipped after before
        have same : skipped = index := by omega
        rw [same]
        simpa [RowsAgree] using agrees
      · exact least_in_empty (by omega)

theorem single_row_least {fuel index : Nat} (enough : endIndex < index + fuel) :
    LeastIn (RowsAgree haystack needle 1) index endIndex
      (singleRow haystack (needle.getD 0 AreaFingerPrintHash.zero) endIndex fuel index) := by
  have one : ∀ place, RowsAgree haystack needle 1 place ↔
      haystack.getD place AreaFingerPrintHash.zero = needle.getD 0 AreaFingerPrintHash.zero := by
    intro place
    simp [RowsAgree, eq_comm]
  induction fuel generalizing index with
  | zero => exact least_in_empty (by omega)
  | succ fuel induction =>
      unfold singleRow
      split_ifs with inside agrees
      · exact least_in_here (by omega) ((one index).mpr agrees)
      · apply (induction (by omega)).skip (Nat.le_succ index)
        intro skipped after before
        have same : skipped = index := by omega
        rw [same, one]
        exact agrees
      · exact least_in_empty (by omega)

end Loops

section Columns

variable (haystack needle : AreaFingerPrint) (startIndex : Nat) (endIndex : Int)

/-- The naive search finds the first occurrence in the interval. -/
theorem index_of_naive_least (nonempty : needle ≠ []) :
    LeastIn (RowsAgree haystack needle needle.length) startIndex
      (effectiveEnd haystack needle endIndex) (indexOfNaive haystack needle startIndex endIndex) := by
  have positive := List.length_pos_iff.mpr nonempty
  unfold effectiveEnd indexOfNaive
  dsimp only
  generalize last : (if endIndex ≤ 0 ∨ endIndex > (haystack.length : Int) - needle.length then
    (haystack.length : Int) - needle.length else endIndex) = lastIndex
  have bounded : lastIndex ≤ (haystack.length : Int) - needle.length := by
    rw [← last]
    split_ifs <;> omega
  split_ifs with sizes beyond empty several
  · exact least_in_empty (by omega)
  · exact least_in_empty (by omega)
  · exact least_in_empty empty
  · have found := @naive_least haystack needle lastIndex.toNat (haystack.length + 1) startIndex
      (by omega)
    rwa [Int.toNat_of_nonneg (by omega)] at found
  · have found := @single_row_least haystack needle lastIndex.toNat (haystack.length + 1) startIndex
      (by omega)
    rw [Int.toNat_of_nonneg (by omega)] at found
    have single : needle.length = 1 := by omega
    rwa [single]

/-- The compiled search finds the first index in the interval where the rows it compares
agree. -/
theorem index_of_least :
    LeastIn (Resembles haystack needle) startIndex (effectiveEnd haystack needle endIndex)
      (indexOf haystack needle startIndex endIndex) := by
  unfold effectiveEnd indexOf
  dsimp only
  generalize last : (if endIndex ≤ 0 ∨ endIndex > (haystack.length : Int) - needle.length then
    (haystack.length : Int) - needle.length else endIndex) = lastIndex
  have bounded : lastIndex ≤ (haystack.length : Int) - needle.length := by
    rw [← last]
    split_ifs <;> omega
  split_ifs with sizes beyond empty several same
  · by_cases nothing : needle.length = 0
    · constructor
      · intro index impossible
        cases impossible
      · rintro index _ _ (⟨single, _⟩ | ⟨long, _⟩)
        · omega
        · omega
    · exact least_in_empty (by omega)
  · by_cases nothing : needle.length = 0
    · omega
    · exact least_in_empty (by omega)
  · exact least_in_empty empty
  · have found := @not_so_naive_least haystack needle lastIndex.toNat 2 1 (haystack.length + 1)
      startIndex several (Or.inl ⟨same, rfl, rfl⟩) (by omega)
    rwa [Int.toNat_of_nonneg (by omega)] at found
  · have found := @not_so_naive_least haystack needle lastIndex.toNat 1 2 (haystack.length + 1)
      startIndex several (Or.inr ⟨same, rfl, rfl⟩) (by omega)
    rwa [Int.toNat_of_nonneg (by omega)] at found
  · have found := @single_row_least haystack needle lastIndex.toNat (haystack.length + 1) startIndex
      (by omega)
    rw [Int.toNat_of_nonneg (by omega)] at found
    apply found.congr
    intro index _ _
    unfold Resembles
    constructor
    · intro agree
      exact Or.inl ⟨by omega, agree⟩
    · rintro (⟨_, agree⟩ | ⟨long, _⟩)
      · exact agree
      · omega

/-- The compiled search and the naive one have the same result, which for a needle with rows
is the first index of the interval where all rows agree. -/
def SearchesAgree : Prop :=
  indexOf haystack needle startIndex endIndex = indexOfNaive haystack needle startIndex endIndex ∧
    (needle ≠ [] → LeastIn (RowsAgree haystack needle needle.length) startIndex
      (effectiveEnd haystack needle endIndex) (indexOf haystack needle startIndex endIndex))

/-- A needle of two or three rows does not occur in the interval. Where all rows of a longer
one but the last two agree for the first time, the last two agree as well. -/
def FirstResemblanceGenuine : Prop :=
  (needle.length = 2 ∨ needle.length = 3 → ∀ index, startIndex ≤ index →
    (index : Int) ≤ effectiveEnd haystack needle endIndex →
      ¬ RowsAgree haystack needle needle.length index) ∧
  (4 ≤ needle.length → ∀ index,
    First (RowsAgree haystack needle (needle.length - 2)) startIndex
      (effectiveEnd haystack needle endIndex) index →
        RowsAgree haystack needle needle.length index)

/-- The searches agree exactly if the first resemblance is an occurrence. -/
theorem searches_agree_iff :
    SearchesAgree haystack needle startIndex endIndex ↔
      FirstResemblanceGenuine haystack needle startIndex endIndex := by
  have compiled := index_of_least haystack needle startIndex endIndex
  by_cases nonempty : needle = []
  · subst nonempty
    apply iff_of_true
    · exact ⟨by simp [indexOf, indexOfNaive], fun rows => absurd rfl rows⟩
    · exact ⟨by simp, by simp⟩
  have naive := index_of_naive_least haystack needle startIndex endIndex nonempty
  have whole : SearchesAgree haystack needle startIndex endIndex ↔
      indexOf haystack needle startIndex endIndex =
        indexOfNaive haystack needle startIndex endIndex := by
    constructor
    · exact And.left
    · intro same
      exact ⟨same, fun _ => same ▸ naive⟩
  have positive := List.length_pos_iff.mpr nonempty
  rw [whole]
  unfold FirstResemblanceGenuine
  rcases Nat.lt_or_ge needle.length 4 with short | long
  · by_cases single : needle.length = 1
    · apply iff_of_true
      · apply (compiled.congr _).unique naive
        intro index _ _
        unfold Resembles
        rw [single]
        constructor
        · rintro (⟨_, agree⟩ | ⟨wrong, _⟩)
          · exact agree
          · omega
        · intro agree
          exact Or.inl ⟨rfl, agree⟩
      · exact ⟨by omega, by omega⟩
    · have missed : indexOf haystack needle startIndex endIndex = none := by
        apply compiled.none_iff.mpr
        rintro index _ _ (⟨wrong, _⟩ | ⟨wrong, _⟩)
        · exact single wrong
        · omega
      rw [missed, eq_comm, naive.none_iff]
      constructor
      · intro nothing
        exact ⟨fun _ => nothing, by omega⟩
      · intro genuine
        exact genuine.1 (by omega)
  · have resembles : ∀ index, Resembles haystack needle index ↔
        RowsAgree haystack needle (needle.length - 2) index := by
      intro index
      unfold Resembles
      constructor
      · rintro (⟨wrong, _⟩ | ⟨_, agree⟩)
        · omega
        · exact agree
      · intro agree
        exact Or.inr ⟨long, agree⟩
    have weaker := compiled.congr fun index _ _ => resembles index
    rw [least_in_weaker naive weaker fun index agree row before => agree row (by omega)]
    constructor
    · intro genuine
      exact ⟨by omega, fun _ => genuine⟩
    · intro genuine
      exact genuine.2 long

end Columns

def sampleRows : AreaFingerPrint := [⟨1, 0⟩, ⟨2, 1⟩]

/-- A column is not found in itself. -/
theorem two_rows_not_found :
    ¬ ∀ (haystack needle : AreaFingerPrint) (startIndex : Nat) (endIndex : Int),
      SearchesAgree haystack needle startIndex endIndex := by
  intro agree
  have same := (agree sampleRows sampleRows 0 (-1)).1
  revert same
  decide

/-- The last two rows of a longer needle are not compared. -/
example : indexOf [⟨1, 0⟩, ⟨2, 1⟩, ⟨3, 1⟩, ⟨4, 2⟩] [⟨1, 0⟩, ⟨2, 1⟩, ⟨5, 2⟩, ⟨6, 3⟩] 0 (-1) = some 0 := by
  decide

end Viridity.ColumnSearch
