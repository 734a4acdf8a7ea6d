import Viridity.ImageAux

/-!
# The bounding box of a change

`findChangedRect32` starts from its region of interest turned round. That rectangle counts as
valid when the region has at most one column and at most one row.
-/

namespace Viridity.ChangedRect

open Viridity.QtRectangle
open Viridity.ImageAux

set_option autoImplicit false

def regionOfInterest (buffer1 buffer2 : QImage) (searchArea : QRect) : QRect :=
  (searchArea.intersected buffer1.rect).intersected buffer2.rect

/-- The pixels that differ have a smallest rectangle around them, and it is `result`; without
such pixels `result` is empty. -/
structure Bounds (changed : QPoint → Prop) (result : QRect) : Prop where
  empty : result.isEmpty = true ↔ ∀ point, ¬ changed point
  covers : ∀ point, changed point → point ∈ result
  smallest : ∀ box : QRect, (∀ point, changed point → point ∈ box) → ∀ point ∈ result, point ∈ box

section Search

variable (buffer1 buffer2 : QImage) (searchArea : QRect)

def Changed (point : QPoint) : Prop :=
  point ∈ regionOfInterest buffer1 buffer2 searchArea ∧
    buffer1.pixel point ≠ buffer2.pixel point

def turnedRound : QRect :=
  QRect.ofCorners (regionOfInterest buffer1 buffer2 searchArea).bottomRight
    (regionOfInterest buffer1 buffer2 searchArea).topLeft

def extended : QRect :=
  (QRect.rowMajor (regionOfInterest buffer1 buffer2 searchArea)).foldl
    (extendChanged buffer1 buffer2) (turnedRound buffer1 buffer2 searchArea)

theorem find_changed_eq : findChangedRect32 buffer1 buffer2 searchArea =
    if (extended buffer1 buffer2 searchArea).isValid then extended buffer1 buffer2 searchArea
    else QRect.null := rfl

theorem extended_unchanged (same : ∀ point, ¬ Changed buffer1 buffer2 searchArea point) :
    extended buffer1 buffer2 searchArea = turnedRound buffer1 buffer2 searchArea := by
  have fixed : ∀ points : List QPoint, (∀ point ∈ points, buffer1.pixel point = buffer2.pixel point) →
      ∀ result, points.foldl (extendChanged buffer1 buffer2) result = result := by
    intro points
    induction points with
    | nil =>
        intro _ result
        rfl
    | cons head points induction =>
        intro equal result
        have kept : extendChanged buffer1 buffer2 result head = result := by
          unfold extendChanged
          rw [if_neg (not_not.mpr (equal head (by simp)))]
        rw [List.foldl_cons, kept]
        exact induction (fun point member => equal point (by simp [member])) result
  apply fixed
  intro point member
  by_contra differs
  exact same point ⟨QRect.mem_row_major.mp member, differs⟩

theorem extended_bounds {changed : QPoint} (found : Changed buffer1 buffer2 searchArea changed) :
    Bounds (Changed buffer1 buffer2 searchArea) (extended buffer1 buffer2 searchArea) := by
  have covers : ∀ point, Changed buffer1 buffer2 searchArea point →
      point ∈ extended buffer1 buffer2 searchArea := by
    rintro point ⟨inside, differs⟩
    exact (extend_changed_fold buffer1 buffer2 _ _).2.2.2.2 point (QRect.mem_row_major.mpr inside)
      differs
  constructor
  · have filled := QRect.not_empty_of_mem (covers changed found)
    rw [filled]
    constructor
    · intro impossible
      cases impossible
    · intro nothing
      exact absurd found (nothing changed)
  · exact covers
  · intro box around point member
    have inside := found.1
    have boxed := around changed found
    rw [QRect.mem_iff] at inside boxed member ⊢
    have bounded := extend_changed_bounded buffer1 buffer2 box
      (QRect.rowMajor (regionOfInterest buffer1 buffer2 searchArea))
      (turnedRound buffer1 buffer2 searchArea)
      (fun other among differs => around other ⟨QRect.mem_row_major.mp among, differs⟩)
      (by simp only [turnedRound, QRect.ofCorners, QRect.bottomRight, QRect.topLeft]; omega)
    unfold extended at member
    omega

theorem turned_round_valid : (turnedRound buffer1 buffer2 searchArea).isValid = true ↔
    (regionOfInterest buffer1 buffer2 searchArea).width ≤ 1 ∧
      (regionOfInterest buffer1 buffer2 searchArea).height ≤ 1 := by
  rw [QRect.is_valid_iff]
  simp only [turnedRound, QRect.ofCorners, QRect.bottomRight, QRect.topLeft, QRect.width,
    QRect.height]
  omega

/-- The result is the smallest rectangle around the changed pixels exactly if the region of
interest has more than one column, more than one row or a changed pixel. -/
theorem find_changed_rect_tight_iff :
    Bounds (Changed buffer1 buffer2 searchArea) (findChangedRect32 buffer1 buffer2 searchArea) ↔
      1 < (regionOfInterest buffer1 buffer2 searchArea).width ∨
        1 < (regionOfInterest buffer1 buffer2 searchArea).height ∨
          ∃ point, Changed buffer1 buffer2 searchArea point := by
  rw [find_changed_eq]
  by_cases found : ∃ point, Changed buffer1 buffer2 searchArea point
  · apply iff_of_true _ (Or.inr (Or.inr found))
    obtain ⟨changed, differs⟩ := found
    have bounds := extended_bounds buffer1 buffer2 searchArea differs
    have filled := QRect.not_empty_of_mem (bounds.covers changed differs)
    rw [if_pos (QRect.is_valid_iff.mpr (QRect.not_is_empty_iff.mp filled))]
    exact bounds
  · have nothing : ∀ point, ¬ Changed buffer1 buffer2 searchArea point := not_exists.mp found
    rw [extended_unchanged buffer1 buffer2 searchArea nothing]
    have valid := turned_round_valid buffer1 buffer2 searchArea
    by_cases turned : (turnedRound buffer1 buffer2 searchArea).isValid = true
    · rw [if_pos turned]
      have small := valid.mp turned
      constructor
      · intro bounds
        have empty := bounds.empty.mpr nothing
        rw [QRect.not_is_empty_iff.mpr (QRect.is_valid_iff.mp turned)] at empty
        cases empty
      · rintro (wide | high | some')
        · omega
        · omega
        · exact absurd some' found
    · rw [if_neg turned]
      apply iff_of_true
      · constructor
        · exact iff_of_true rfl nothing
        · intro point changed
          exact absurd changed (nothing point)
        · intro box _ point member
          exact absurd member (QRect.not_mem_null point)
      · rw [valid] at turned
        omega

end Search

/-- For an area and images that have pixels the region of interest is their intersection. -/
theorem mem_region_of_interest {buffer1 buffer2 : QImage} {searchArea : QRect} {point : QPoint}
    (area : searchArea.isEmpty = false) (first : buffer1.rect.isEmpty = false)
    (second : buffer2.rect.isEmpty = false) :
    point ∈ regionOfInterest buffer1 buffer2 searchArea ↔
      point ∈ searchArea ∧ point ∈ buffer1.rect ∧ point ∈ buffer2.rect := by
  unfold regionOfInterest
  rcases QRect.intersected_cases area first with ⟨same, apart⟩ | ⟨filled, _⟩
  · rw [same]
    constructor
    · intro member
      have alone : QRect.null.intersected buffer2.rect = QRect.null := by
        simp [QRect.intersected, QRect.isNull, QRect.null]
      rw [alone] at member
      exact absurd member (QRect.not_mem_null point)
    · rintro ⟨inArea, inFirst, _⟩
      exact absurd ⟨inArea, inFirst⟩ (apart point)
  · rw [QRect.mem_intersected filled second, QRect.mem_intersected area first, and_assoc]

/-- Two equal images of one pixel. -/
theorem single_pixel_reported :
    ¬ ∀ (buffer1 buffer2 : QImage) (searchArea : QRect),
      Bounds (Changed buffer1 buffer2 searchArea) (findChangedRect32 buffer1 buffer2 searchArea) := by
  intro tight
  have bounds := tight ⟨1, 1, fun _ => 0⟩ ⟨1, 1, fun _ => 0⟩ ⟨0, 0, 0, 0⟩
  have empty := bounds.empty.mpr fun point changed => changed.2 rfl
  revert empty
  decide

end Viridity.ChangedRect
