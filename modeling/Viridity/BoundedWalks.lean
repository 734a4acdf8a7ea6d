import Mathlib.Data.Int.Interval
import Mathlib.Order.Preorder.Finite
import Mathlib.Data.Set.Finite.Lattice

/-!
# Walks that stay in a range

A position is moved on by a function until it reaches a limit. It never gets below some bound,
but a step may lead backwards. Such a walk ends exactly if no position from which it falls back
is come to again.
-/

namespace Viridity.BoundedWalks

set_option autoImplicit false

variable (next : Int → Int) (start : Int)

def position (count : Nat) : Int := next^[count] start

@[simp] theorem position_zero : position next start 0 = start := rfl

theorem position_succ (count : Nat) :
    position next start (count + 1) = next (position next start count) :=
  Function.iterate_succ_apply' next count start

theorem position_add (first count : Nat) :
    position next start (first + count) = position next (position next start first) count := by
  unfold position
  rw [Nat.add_comm, Function.iterate_add_apply]

def Ends (limit : Int) : Prop := ∃ count, limit ≤ position next start count

variable {next start} {limit low : Int}

/-- A walk that comes to a position again goes round for ever. -/
theorem not_ends_of_return {first second : Nat} (before : first < second)
    (same : position next start first = position next start second)
    (inside : ∀ count ≤ second, position next start count < limit) :
    ¬ Ends next start limit := by
  have always : ∀ count, position next start count < limit := by
    intro count
    induction count using Nat.strongRecOn with
    | ind count induction =>
        by_cases early : count ≤ second
        · exact inside count early
        · have back : position next start count =
              position next start (first + (count - second)) := by
            rw [position_add, same, ← position_add]
            congr 1
            omega
          rw [back]
          exact induction _ (by omega)
  rintro ⟨count, reached⟩
  exact absurd (always count) (not_lt.mpr reached)

/-- The walk falls back infinitely often, or passes any limit. -/
theorem ends_of_rising {since : Nat}
    (rising : ∀ count ≥ since, position next start count < position next start (count + 1)) :
    Ends next start limit := by
  have climbed : ∀ count : Nat, position next start since + count ≤
      position next start (since + count) := by
    intro count
    induction count with
    | zero => simp
    | succ count induction =>
        have step := rising (since + count) (Nat.le_add_right _ _)
        rw [Nat.add_assoc] at step
        push_cast
        omega
  refine ⟨since + (limit - position next start since).toNat, ?_⟩
  have reached := climbed (limit - position next start since).toNat
  omega

theorem ends_of_no_return (bounded : ∀ count, low ≤ position next start count)
    (falls_once : ∀ first second, first < second →
      (∀ count ≤ second, position next start count < limit) →
        next (position next start first) ≤ position next start first →
          position next start first ≠ position next start second) :
    Ends next start limit := by
  by_contra endless
  have inside : ∀ count, position next start count < limit := by
    intro count
    by_contra reached
    exact endless ⟨count, not_lt.mp reached⟩
  let falls : Set Nat :=
    {count | next (position next start count) ≤ position next start count}
  by_cases finite : falls.Finite
  · obtain ⟨bound, above⟩ := finite.bddAbove
    apply endless
    apply @ends_of_rising next start limit (bound + 1)
    intro count late
    rw [position_succ]
    by_contra fall
    have member := above (show count ∈ falls from not_lt.mp fall)
    omega
  · have range : Set.MapsTo (position next start) falls (Set.Ico low limit) :=
      fun count _ => ⟨bounded count, inside count⟩
    obtain ⟨first, fall, second, _, before, same⟩ :=
      Set.Infinite.exists_lt_map_eq_of_mapsTo finite range (Set.finite_Ico low limit)
    exact falls_once first second before (fun count _ => inside count) fall same

/-- The walk ends exactly if it comes only once to each position it falls back from. -/
theorem ends_iff (bounded : ∀ count, low ≤ position next start count) :
    Ends next start limit ↔
      ∀ first second, first < second →
        (∀ count ≤ second, position next start count < limit) →
          next (position next start first) ≤ position next start first →
            position next start first ≠ position next start second := by
  constructor
  · intro ends first second before inside _ same
    exact not_ends_of_return before same inside ends
  · exact ends_of_no_return bounded

end Viridity.BoundedWalks
