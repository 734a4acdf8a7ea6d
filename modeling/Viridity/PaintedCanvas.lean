import Mathlib.Data.List.Perm.Basic

/-!
# Painting patches on a canvas

A patch colours the points of its region and leaves the others alone. When every
patch agrees with one target picture, the order of painting is immaterial and a
point is right as soon as it was right before or lies in some patch.
-/

namespace Viridity.PaintedCanvas

set_option autoImplicit false

variable {Point Colour : Type*}

structure Patch (Point Colour : Type*) where
  covers : Point → Bool
  colour : Point → Colour

def paint (canvas : Point → Colour) (patch : Patch Point Colour) : Point → Colour :=
  fun point => if patch.covers point then patch.colour point else canvas point

def paintAll (canvas : Point → Colour) (patches : List (Patch Point Colour)) : Point → Colour :=
  patches.foldl paint canvas

theorem paint_all_cons (canvas : Point → Colour) (patch : Patch Point Colour)
    (patches : List (Patch Point Colour)) :
    paintAll canvas (patch :: patches) = paintAll (paint canvas patch) patches := rfl

/-- A point no patch covers keeps its colour. -/
theorem paint_all_uncovered (canvas : Point → Colour) (patches : List (Patch Point Colour))
    (point : Point) (uncovered : ∀ patch ∈ patches, patch.covers point = false) :
    paintAll canvas patches point = canvas point := by
  induction patches generalizing canvas with
  | nil => rfl
  | cons patch patches induction =>
      rw [paint_all_cons, induction _ (fun other member => uncovered other (by simp [member]))]
      simp [paint, uncovered patch (by simp)]

/-- Every patch paints the target's colour at `point`, so the last one that
covers it does, whatever the order. -/
theorem paint_all_target (canvas target : Point → Colour) (patches : List (Patch Point Colour))
    (point : Point)
    (agrees : ∀ patch ∈ patches, patch.covers point = true → patch.colour point = target point)
    (right : canvas point = target point ∨ ∃ patch ∈ patches, patch.covers point = true) :
    paintAll canvas patches point = target point := by
  induction patches generalizing canvas with
  | nil => simpa [paintAll] using right
  | cons patch patches induction =>
      rw [paint_all_cons]
      apply induction
      · intro other member covered
        exact agrees other (by simp [member]) covered
      · by_cases covered : patch.covers point = true
        · left
          simp [paint, covered, agrees patch (by simp) covered]
        · rcases right with already | ⟨other, member, hit⟩
          · left
            simp [paint, covered, already]
          · right
            rcases List.mem_cons.mp member with same | later
            · exact absurd (same ▸ hit) covered
            · exact ⟨other, later, hit⟩

end Viridity.PaintedCanvas
