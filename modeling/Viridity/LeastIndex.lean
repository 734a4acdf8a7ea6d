import Mathlib.Tactic.Common

/-!
# The first index of an interval

What a search from the left for an index with a given property finds. A search may leave
out indices as long as none of them has the property.
-/

namespace Viridity.LeastIndex

set_option autoImplicit false

/-- The result of searching the indices from `first` to `last` for one that is accepted. -/
structure LeastIn (accepts : Nat → Prop) (first : Nat) (last : Int) (found : Option Nat) : Prop where
  hit : ∀ index, found = some index → first ≤ index ∧ (index : Int) ≤ last ∧ accepts index
  least : ∀ index, first ≤ index → (index : Int) ≤ last → accepts index →
    ∃ earlier, found = some earlier ∧ earlier ≤ index

variable {accepts other : Nat → Prop} {first : Nat} {last : Int} {found : Option Nat}

theorem least_in_empty (beyond : last < first) : LeastIn accepts first last none where
  hit := by
    intro index impossible
    cases impossible
  least := by
    intro index after before
    omega

theorem least_in_here (inside : (first : Int) ≤ last) (accepted : accepts first) :
    LeastIn accepts first last (some first) where
  hit := by
    intro index same
    cases same
    exact ⟨Nat.le_refl _, inside, accepted⟩
  least := by
    intro index after _ _
    exact ⟨first, rfl, after⟩

/-- A search may start later when nothing in front of its start is accepted. -/
theorem LeastIn.skip {start : Nat} (later : LeastIn accepts start last found) (forward : first ≤ start)
    (nothing : ∀ index, first ≤ index → index < start → ¬ accepts index) :
    LeastIn accepts first last found where
  hit := by
    intro index same
    obtain ⟨after, before, accepted⟩ := later.hit index same
    exact ⟨Nat.le_trans forward after, before, accepted⟩
  least := by
    intro index after before accepted
    rcases Nat.lt_or_ge index start with skipped | reached
    · exact absurd accepted (nothing index after skipped)
    · exact later.least index reached before accepted

theorem LeastIn.unique {result : Option Nat} (left : LeastIn accepts first last found)
    (right : LeastIn accepts first last result) : found = result := by
  cases found with
  | none =>
      cases result with
      | none => rfl
      | some index =>
          obtain ⟨after, before, accepted⟩ := right.hit index rfl
          obtain ⟨earlier, same, _⟩ := left.least index after before accepted
          cases same
  | some index =>
      obtain ⟨after, before, accepted⟩ := left.hit index rfl
      obtain ⟨earlier, same, early⟩ := right.least index after before accepted
      obtain ⟨earlierAfter, earlierBefore, earlierAccepted⟩ := right.hit earlier same
      obtain ⟨index', same', late⟩ := left.least earlier earlierAfter earlierBefore earlierAccepted
      cases same'
      rw [same, Nat.le_antisymm early late]

theorem LeastIn.congr (search : LeastIn accepts first last found)
    (same : ∀ index, first ≤ index → (index : Int) ≤ last → (accepts index ↔ other index)) :
    LeastIn other first last found where
  hit := by
    intro index result
    obtain ⟨after, before, accepted⟩ := search.hit index result
    exact ⟨after, before, (same index after before).mp accepted⟩
  least := by
    intro index after before accepted
    exact search.least index after before ((same index after before).mpr accepted)

theorem LeastIn.none_iff (search : LeastIn accepts first last found) :
    found = none ↔ ∀ index, first ≤ index → (index : Int) ≤ last → ¬ accepts index := by
  constructor
  · intro missing index after before accepted
    obtain ⟨earlier, same, _⟩ := search.least index after before accepted
    rw [missing] at same
    cases same
  · intro nothing
    cases found with
    | none => rfl
    | some index =>
        obtain ⟨after, before, accepted⟩ := search.hit index rfl
        exact absurd accepted (nothing index after before)

/-- Of all accepted indices the one that is found comes first. -/
def First (accepts : Nat → Prop) (first : Nat) (last : Int) (index : Nat) : Prop :=
  (first ≤ index ∧ (index : Int) ≤ last ∧ accepts index) ∧
    ∀ earlier, first ≤ earlier → earlier < index → ¬ accepts earlier

theorem LeastIn.some_iff (search : LeastIn accepts first last found) (index : Nat) :
    found = some index ↔ First accepts first last index := by
  constructor
  · intro same
    obtain ⟨after, before, accepted⟩ := search.hit index same
    refine ⟨⟨after, before, accepted⟩, ?_⟩
    intro earlier fromFirst early earlierAccepted
    obtain ⟨least, result, bound⟩ := search.least earlier fromFirst (by omega) earlierAccepted
    rw [same] at result
    cases result
    omega
  · rintro ⟨⟨after, before, accepted⟩, nothing⟩
    obtain ⟨earlier, same, early⟩ := search.least index after before accepted
    obtain ⟨fromFirst, _, earlierAccepted⟩ := search.hit earlier same
    rcases Nat.lt_or_ge earlier index with strictly | reached
    · exact absurd earlierAccepted (nothing earlier fromFirst strictly)
    · rw [same, Nat.le_antisymm early reached]

/-- Searching for something weaker finds the same exactly if what is found first is accepted
by the stronger property as well. -/
theorem least_in_weaker (search : LeastIn accepts first last found)
    {result : Option Nat} (weaker : LeastIn other first last result)
    (implied : ∀ index, accepts index → other index) :
    result = found ↔ ∀ index, First other first last index → accepts index := by
  constructor
  · intro same index leading
    have reached := (weaker.some_iff index).mpr leading
    exact (search.hit index (same.symm.trans reached)).2.2
  · intro leads
    cases result with
    | none =>
        have nothing := weaker.none_iff.mp rfl
        exact (search.none_iff.mpr fun index after before accepted =>
          nothing index after before (implied index accepted)).symm
    | some index =>
        have leading := (weaker.some_iff index).mp rfl
        have accepted := leads index leading
        apply ((search.some_iff index).mpr ?_).symm
        refine ⟨⟨leading.1.1, leading.1.2.1, accepted⟩, ?_⟩
        intro earlier after early earlierAccepted
        exact leading.2 earlier after early (implied earlier earlierAccepted)

/-- Trying the indices below `count` one after the other gives the value of the first that
has one. -/
theorem find_some_range_iff {Value : Type*} {tried : Nat → Option Value} {count : Nat}
    {value : Value} : (List.range count).findSome? tried = some value ↔
      ∃ index < count, tried index = some value ∧ ∀ earlier < index, tried earlier = none := by
  induction count with
  | zero => simp
  | succ count induction =>
      rw [List.range_succ, List.findSome?_append]
      cases before : (List.range count).findSome? tried with
      | some found =>
          rw [before] at induction
          rw [Option.some_or, induction]
          constructor
          · rintro ⟨index, below, rest⟩
            exact ⟨index, by omega, rest⟩
          · rintro ⟨index, below, hit, nothing⟩
            refine ⟨index, ?_, hit, nothing⟩
            by_contra last
            obtain ⟨earlier, member, some⟩ := List.exists_of_findSome?_eq_some before
            have none := nothing earlier (by rw [List.mem_range] at member; omega)
            rw [none] at some
            cases some
      | none =>
          have nothing : ∀ index < count, tried index = none := by
            intro index below
            exact List.findSome?_eq_none_iff.mp before index (List.mem_range.mpr below)
          rw [Option.none_or, List.findSome?_singleton]
          constructor
          · intro hit
            exact ⟨count, by omega, hit, nothing⟩
          · rintro ⟨index, below, hit, _⟩
            by_cases inner : index < count
            · rw [nothing index inner] at hit
              cases hit
            · have last : index = count := by omega
              rw [← last]
              exact hit

end Viridity.LeastIndex
