import Mathlib.Data.List.Monad
import Viridity.MoveSearches

/-!
# The exhaustive search in memory

`findMovedRectExhaustive` reads its images by pointers. Here these are addresses in the pixels
of an image, row after row, and a read outside of them has no result.
-/

namespace Viridity.ExhaustiveSearch

open Viridity.QtRectangle
open Viridity.ImageAux
open Viridity.FingerPrintUpdates
open Viridity.MoveAnalysis
open Viridity.MoveAnalysis.MoveAnalyzer
open Viridity.MoveSearches

set_option autoImplicit false

/-- A pixel of 32 bits, `none` outside of the image. -/
def readPixel (image : QImage) (address : Int) : Option QRgb :=
  if 0 ≤ address ∧ address < image.width * image.height then
    some (image.pixel ⟨address % image.width, address / image.width⟩)
  else none

def readPixels (image : QImage) (address : Int) : Nat → Option (List QRgb)
  | 0 => some []
  | count + 1 => do
      let first ← readPixel image address
      let others ← readPixels image (address + 1) count
      some (first :: others)

/-- `bytesPerLine() / sizeof(QRgb)`. -/
def stride (image : QImage) : Int := image.width

def scanLine (image : QImage) (y : Int) : Int := y * stride image

/-- `&&`, which reads its second operand only if the first is true. -/
def andThen (first second : Option Bool) : Option Bool := do
  if ← first then second else some false

def pixelsEqual (image1 image2 : QImage) (pBuf1 pBuf2 : Int) : Option Bool := do
  let first ← readPixel image1 pBuf1
  let second ← readPixel image2 pBuf2
  some (decide (first = second))

def linesEqual (image1 image2 : QImage) (pBuf1 pBuf2 : Int) (width : Nat) : Option Bool := do
  let first ← readPixels image1 pBuf1 width
  let second ← readPixels image2 pBuf2 width
  some (decide (first = second))

/-- `contentMatches<QRgb>(pBuf1, pBuf2, stride, bytes, height)`. -/
def contentMatchesIn (image1 image2 : QImage) (stride : Int) (width : Nat) :
    Nat → Int → Int → Option Bool
  | 0, _, _ => some true
  | height + 1, pBuf1, pBuf2 =>
      andThen (pixelsEqual image1 image2 pBuf1 pBuf2)
        (andThen (linesEqual image1 image2 pBuf1 pBuf2 width)
          (contentMatchesIn image1 image2 stride width height (pBuf1 + stride) (pBuf2 + stride)))

/-- The columns of a row from `x` on: the first that passes the test. -/
def scanColumns (test : Int → Option Bool) : Nat → Nat → Int → Option (Option Nat)
  | 0, _, _ => some none
  | remaining + 1, x, pBuf1 => do
      if ← test pBuf1 then some (some x) else scanColumns test remaining (x + 1) (pBuf1 + 1)

def scanRows (test : Int → Option Bool) (stride pBufStart1 : Int) (roiRight : Nat) :
    Nat → Nat → Option (Option (Nat × Nat))
  | 0, _ => some none
  | remaining + 1, y => do
      match ← scanColumns test roiRight 0 (pBufStart1 + y * stride) with
      | some x => some (some (x, y))
      | none => scanRows test stride pBufStart1 roiRight remaining (y + 1)

def templateStart (analyzer : MoveAnalyzer) (templateRect : QRect) : Int :=
  scanLine analyzer.imageAfter templateRect.y1 + templateRect.x1

def contentMatchesAtBuf (analyzer : MoveAnalyzer) (templateRect : QRect) (pBuf1 : Int) :
    Option Bool :=
  contentMatchesIn analyzer.imageBefore analyzer.imageAfter (stride analyzer.imageBefore)
    templateRect.width.toNat templateRect.height.toNat pBuf1 (templateStart analyzer templateRect)

/-- The condition of the loop for templates of four columns or more. -/
def wideMatches (analyzer : MoveAnalyzer) (templateRect : QRect) (pBuf1 : Int) : Option Bool :=
  let equal (column : Int) := pixelsEqual analyzer.imageBefore analyzer.imageAfter
    (pBuf1 + column) (templateStart analyzer templateRect + column)
  andThen (equal 0) (andThen (equal 1) (andThen (equal 2) (andThen (equal 3)
    (contentMatchesAtBuf analyzer templateRect pBuf1))))

def narrowMatches (analyzer : MoveAnalyzer) (templateRect : QRect) (pBuf1 : Int) : Option Bool :=
  andThen (pixelsEqual analyzer.imageBefore analyzer.imageAfter pBuf1
    (templateStart analyzer templateRect)) (contentMatchesAtBuf analyzer templateRect pBuf1)

/-- `findMovedRectExhaustive`, `none` if it reads outside of an image. -/
def findMovedRectExhaustiveIn (analyzer : MoveAnalyzer) (searchArea templateRect : QRect) :
    Option QRect :=
  let roi := analyzer.exhaustiveRoi searchArea
  if roi.isEmpty then some QRect.null
  else
    let templateWidth := templateRect.width
    let templateHeight := templateRect.height
    let roiBottom := roi.height - templateHeight + 1
    let roiRight := roi.width - templateWidth + 1
    if roiBottom < 1 ∨ roiRight < 1 then some QRect.null
    else do
      let stride := stride analyzer.imageBefore
      let pBufStart1 := scanLine analyzer.imageBefore roi.y1 + roi.x1
      let found ←
        if templateWidth ≥ 4 then
          scanRows (wideMatches analyzer templateRect) stride pBufStart1 roiRight.toNat
            roiBottom.toNat 0
        else
          scanRows (narrowMatches analyzer templateRect) stride pBufStart1 roiRight.toNat
            roiBottom.toNat 0
      match found with
      | some (x, y) => some (QRect.ofSize (roi.x1 + x) (roi.y1 + y) templateWidth templateHeight)
      | none => some QRect.null

/-- A read that has a result, which tells whether something holds. -/
def Decides (value : Option Bool) (holds : Prop) : Prop :=
  ∃ answer, value = some answer ∧ (answer = true ↔ holds)

theorem decides_and_then {first second : Option Bool} {left right : Prop}
    (former : Decides first left) (latter : left → Decides second right) :
    Decides (andThen first second) (left ∧ right) := by
  obtain ⟨answer, value, holds⟩ := former
  rw [value]
  cases answer with
  | false =>
      refine ⟨false, rfl, ?_⟩
      simp only [Bool.false_eq_true, false_iff] at holds ⊢
      exact fun both => holds both.1
  | true =>
      obtain ⟨other, after, also⟩ := latter (holds.mp rfl)
      refine ⟨other, after, ?_⟩
      rw [also]
      exact (and_iff_right (holds.mp rfl)).symm

/-- A test before the decisive one that cannot fail where the decisive one succeeds. -/
theorem decides_and_implied {first second : Option Bool} {left right : Prop}
    (former : Decides first left) (latter : Decides second right) (implied : right → left) :
    Decides (andThen first second) right := by
  obtain ⟨answer, value, holds⟩ := decides_and_then former fun _ => latter
  exact ⟨answer, value, holds.trans (and_iff_right_of_imp implied)⟩

theorem decides_eq {value : Option Bool} {holds : Prop} {answer : Bool}
    (decides : Decides value holds) (same : answer = true ↔ holds) : value = some answer := by
  obtain ⟨other, decided, means⟩ := decides
  rw [decided, Bool.eq_iff_iff.mpr (means.trans same.symm)]

section Reads

variable {image : QImage}

theorem read_pixel {x y : Int} (left : 0 ≤ x) (right : x < image.width) (top : 0 ≤ y)
    (bottom : y < image.height) :
    readPixel image (scanLine image y + x) = some (image.pixel ⟨x, y⟩) := by
  unfold readPixel scanLine stride
  have first : 0 ≤ y * (image.width : Int) := Int.mul_nonneg top (by omega)
  have last : (y + 1) * (image.width : Int) ≤ image.height * image.width :=
    Int.mul_le_mul_of_nonneg_right (by omega) (by omega)
  rw [Int.add_mul, Int.one_mul, Int.mul_comm (image.height : Int)] at last
  rw [if_pos ⟨by omega, by omega⟩, Int.add_comm, Int.add_mul_emod_self_right,
    Int.add_mul_ediv_right _ _ (by omega), Int.emod_eq_of_lt left right,
    Int.ediv_eq_zero_of_lt left right, Int.zero_add]

theorem read_pixels {x y : Int} {count : Nat} (left : 0 ≤ x) (right : x + count ≤ image.width)
    (top : 0 ≤ y) (bottom : y < image.height) :
    readPixels image (scanLine image y + x) count =
      some ((List.range count).map fun column : Nat => image.pixel ⟨x + column, y⟩) := by
  induction count generalizing x with
  | zero => rfl
  | succ count induction =>
      have others := @induction (x + 1) (by omega) (by omega)
      rw [← Int.add_assoc] at others
      rw [readPixels, read_pixel left (by omega) top bottom, others, List.range_succ_eq_map]
      simp only [Option.bind_eq_bind, Option.bind_some, List.map_cons, List.map_map,
        Int.natCast_zero, Int.add_zero, Option.some.injEq, List.cons.injEq, true_and]
      apply List.map_congr_left
      intro column _
      rw [Function.comp_apply]
      congr 2
      push_cast
      omega

end Reads

section Blocks

variable {before after : QImage}

theorem pixels_equal {x1 y1 x2 y2 : Int} (inside1 : ⟨x1, y1⟩ ∈ before.rect)
    (inside2 : ⟨x2, y2⟩ ∈ after.rect) :
    Decides (pixelsEqual before after (scanLine before y1 + x1) (scanLine after y2 + x2))
      (before.pixel ⟨x1, y1⟩ = after.pixel ⟨x2, y2⟩) := by
  obtain ⟨left1, right1, top1, bottom1⟩ := QImage.mem_rect.mp inside1
  obtain ⟨left2, right2, top2, bottom2⟩ := QImage.mem_rect.mp inside2
  unfold pixelsEqual
  rw [read_pixel left1 right1 top1 bottom1, read_pixel left2 right2 top2 bottom2]
  exact ⟨_, rfl, decide_eq_true_iff⟩

theorem lines_equal {x1 y1 x2 y2 : Int} {width : Nat} (left1 : 0 ≤ x1)
    (right1 : x1 + width ≤ before.width) (top1 : 0 ≤ y1) (bottom1 : y1 < before.height)
    (left2 : 0 ≤ x2) (right2 : x2 + width ≤ after.width) (top2 : 0 ≤ y2)
    (bottom2 : y2 < after.height) :
    Decides (linesEqual before after (scanLine before y1 + x1) (scanLine after y2 + x2) width)
      (∀ column : Nat, column < width →
        before.pixel ⟨x1 + column, y1⟩ = after.pixel ⟨x2 + column, y2⟩) := by
  unfold linesEqual
  rw [read_pixels left1 right1 top1 bottom1, read_pixels left2 right2 top2 bottom2]
  refine ⟨_, rfl, ?_⟩
  rw [decide_eq_true_iff]
  simp [List.map_inj_left]

/-- The block comparison reads inside the images, and tells whether all pixels are the same. -/
theorem content_matches_in {x1 y1 x2 y2 : Int} {width height : Nat}
    (sameSize : QImage.SameSize before after) (wide : 1 ≤ width) (left1 : 0 ≤ x1)
    (right1 : x1 + width ≤ before.width) (top1 : 0 ≤ y1) (bottom1 : y1 + height ≤ before.height)
    (left2 : 0 ≤ x2) (right2 : x2 + width ≤ after.width) (top2 : 0 ≤ y2)
    (bottom2 : y2 + height ≤ after.height) :
    Decides (contentMatchesIn before after (stride before) width height
        (scanLine before y1 + x1) (scanLine after y2 + x2))
      (∀ row : Nat, row < height → ∀ column : Nat, column < width →
        before.pixel ⟨x1 + column, y1 + row⟩ = after.pixel ⟨x2 + column, y2 + row⟩) := by
  induction height generalizing y1 y2 with
  | zero => exact ⟨true, rfl, iff_of_true rfl fun row below => absurd below (Nat.not_lt_zero row)⟩
  | succ height induction =>
      have later := @induction (y1 + 1) (y2 + 1) (by omega) (by omega) (by omega) (by omega)
      have next1 : scanLine before (y1 + 1) + x1 = scanLine before y1 + x1 + stride before := by
        unfold scanLine
        rw [Int.add_mul, Int.one_mul]
        omega
      have next2 : scanLine after (y2 + 1) + x2 = scanLine after y2 + x2 + stride before := by
        have strides : stride after = stride before := congrArg Nat.cast sameSize.1.symm
        unfold scanLine
        rw [Int.add_mul, Int.one_mul, strides]
        omega
      rw [next1, next2] at later
      have first := @pixels_equal before after x1 y1 x2 y2
        (QImage.mem_rect.mpr (by dsimp only; omega)) (QImage.mem_rect.mpr (by dsimp only; omega))
      have line := @lines_equal before after x1 y1 x2 y2 width left1 right1 top1 (by omega) left2
        right2 top2 (by omega)
      have next (y : Int) (row : Nat) : y + ((row : Int) + 1) = y + 1 + row := by omega
      obtain ⟨answer, value, holds⟩ :=
        decides_and_then first fun _ => decides_and_then line fun _ => later
      refine ⟨answer, value, holds.trans ?_⟩
      constructor
      · rintro ⟨_, here, below⟩ row within column inside
        cases row with
        | zero => simpa using here column inside
        | succ row =>
            have pixels := below row (by omega) column inside
            rw [Int.natCast_succ, next y1, next y2]
            exact pixels
      · intro all
        refine ⟨by simpa using all 0 (by omega) 0 (by omega),
          fun column inside => by simpa using all 0 (by omega) column inside, ?_⟩
        intro row within column inside
        have pixels := all (row + 1) (by omega) column inside
        rw [Int.natCast_succ, next y1, next y2] at pixels
        exact pixels

end Blocks

section Scans

variable {test : Int → Option Bool}

theorem scan_columns {accepts : Nat → Bool} {pBuf1 : Int} {remaining x : Nat}
    (tested : ∀ column : Nat, column < remaining →
      test (pBuf1 + column) = some (accepts (x + column))) :
    scanColumns test remaining x pBuf1 = some ((List.range' x remaining).find? accepts) := by
  induction remaining generalizing x pBuf1 with
  | zero => rfl
  | succ remaining induction =>
      have here := tested 0 (Nat.zero_lt_succ remaining)
      rw [Int.natCast_zero, Int.add_zero, Nat.add_zero] at here
      have others := @induction (pBuf1 + 1) (x + 1) (by
        intro column below
        have there := tested (column + 1) (by omega)
        rw [Int.natCast_succ, ← Int.add_assoc, Int.add_right_comm, ← Nat.add_assoc,
          Nat.add_right_comm] at there
        exact there)
      rw [scanColumns, here, List.range'_succ, List.find?_cons]
      cases accepts x with
      | true => rfl
      | false => exact others

theorem scan_rows {accepts : Nat × Nat → Bool} {stride pBufStart1 : Int}
    {roiRight remaining y : Nat}
    (tested : ∀ row : Nat, row < remaining → ∀ column : Nat, column < roiRight →
      test (pBufStart1 + (y + row : Nat) * stride + column) = some (accepts (column, y + row))) :
    scanRows test stride pBufStart1 roiRight remaining y =
      some (((List.range' y remaining).flatMap fun row =>
        (List.range roiRight).map fun column => (column, row)).find? accepts) := by
  induction remaining generalizing y with
  | zero => rfl
  | succ remaining induction =>
      have line := @scan_columns test (fun column => accepts (column, y))
        (pBufStart1 + y * stride) roiRight 0 (by
          intro column below
          rw [Nat.zero_add]
          exact tested 0 (Nat.zero_lt_succ remaining) column below)
      rw [← List.range_eq_range'] at line
      have others := @induction (y + 1) (by
        intro row within column below
        have there := tested (row + 1) (by omega) column below
        rw [← Nat.add_assoc, Nat.add_right_comm] at there
        exact there)
      rw [scanRows, line, List.range'_succ, List.flatMap_cons, List.find?_append, List.find?_map,
        others]
      change (match (List.range roiRight).find? fun column => accepts (column, y) with
        | some x => some (some (x, y))
        | none => some _) = some ((Option.map _
          ((List.range roiRight).find? fun column => accepts (column, y))).or _)
      cases (List.range roiRight).find? fun column => accepts (column, y) with
      | none => rfl
      | some column => rfl

end Scans

section Search

variable {analyzer : MoveAnalyzer} {searchArea templateRect : QRect}
variable (comparable : Comparable analyzer templateRect)

include comparable

theorem fits_inside {position : QPoint} (fits : Fits analyzer searchArea templateRect position) :
    (0 ≤ position.x ∧ position.x + templateRect.width ≤ analyzer.imageBefore.width) ∧
      0 ≤ position.y ∧ position.y + templateRect.height ≤ analyzer.imageBefore.height := by
  have corners := template_corners comparable
  have extent := roi_extent analyzer searchArea
  unfold Fits QRect.width QRect.height at fits
  unfold QRect.width QRect.height
  rcases extent with null | bounds
  · rw [null] at fits
    simp only [QRect.null] at fits
    omega
  · omega

theorem first_line_pixel {position : QPoint} {column : Nat}
    (fits : Fits analyzer searchArea templateRect position)
    (inside : (column : Int) < templateRect.width) :
    Decides (pixelsEqual analyzer.imageBefore analyzer.imageAfter
        (scanLine analyzer.imageBefore position.y + position.x + column)
        (templateStart analyzer templateRect + column))
      (analyzer.imageBefore.pixel ⟨position.x + column, position.y⟩ =
        analyzer.imageAfter.pixel ⟨templateRect.x1 + column, templateRect.y1⟩) := by
  have corners := template_corners comparable
  have place := fits_inside comparable fits
  have sizes := comparable.sameSize
  unfold QImage.SameSize at sizes
  unfold QRect.width at inside place
  unfold QRect.height at place
  unfold templateStart
  rw [Int.add_assoc, Int.add_assoc]
  exact pixels_equal (QImage.mem_rect.mpr (by dsimp only; omega))
    (QImage.mem_rect.mpr (by dsimp only; omega))

theorem template_pixel {position : QPoint} {column : Nat}
    (inside : (column : Int) < templateRect.width)
    (content : TemplateAt analyzer templateRect position) :
    analyzer.imageBefore.pixel ⟨position.x + column, position.y⟩ =
      analyzer.imageAfter.pixel ⟨templateRect.x1 + column, templateRect.y1⟩ := by
  have corners := template_corners comparable
  have pixels := (template_at_iff comparable).mp content column 0 (by omega) inside (by omega)
    (by unfold QRect.height; omega)
  rw [Int.add_zero, Int.add_zero] at pixels
  exact pixels

theorem block_decides {position : QPoint}
    (fits : Fits analyzer searchArea templateRect position) :
    Decides (contentMatchesAtBuf analyzer templateRect
        (scanLine analyzer.imageBefore position.y + position.x))
      (TemplateAt analyzer templateRect position) := by
  have corners := template_corners comparable
  have place := fits_inside comparable fits
  have sizes := comparable.sameSize
  have wide : (templateRect.width.toNat : Int) = templateRect.width :=
    Int.toNat_of_nonneg (by unfold QRect.width; omega)
  have high : (templateRect.height.toNat : Int) = templateRect.height :=
    Int.toNat_of_nonneg (by unfold QRect.height; omega)
  have width : templateRect.width = templateRect.x2 - templateRect.x1 + 1 := by
    unfold QRect.width
    omega
  have height : templateRect.height = templateRect.y2 - templateRect.y1 + 1 := by
    unfold QRect.height
    omega
  obtain ⟨answer, value, holds⟩ := content_matches_in comparable.sameSize
    (show 1 ≤ templateRect.width.toNat by omega) place.1.1
    (show position.x + templateRect.width.toNat ≤ analyzer.imageBefore.width by omega) place.2.1
    (show position.y + templateRect.height.toNat ≤ analyzer.imageBefore.height by omega)
    corners.1.1
    (show templateRect.x1 + templateRect.width.toNat ≤ analyzer.imageAfter.width by
      have same := sizes.1
      omega)
    corners.2.1
    (show templateRect.y1 + templateRect.height.toNat ≤ analyzer.imageAfter.height by
      have same := sizes.2
      omega)
  refine ⟨answer, value, holds.trans ((Iff.intro ?_ ?_).trans (template_at_iff comparable).symm)⟩
  · intro all x y left right top bottom
    have pixels := all y.toNat (by omega) x.toNat (by omega)
    rw [Int.toNat_of_nonneg left, Int.toNat_of_nonneg top] at pixels
    exact pixels
  · intro all row within column inside
    exact all column row (by omega) (by omega) (by omega) (by omega)

theorem wide_matches {position : QPoint} (fits : Fits analyzer searchArea templateRect position)
    (wide : templateRect.width ≥ 4) :
    Decides (wideMatches analyzer templateRect
        (scanLine analyzer.imageBefore position.y + position.x))
      (TemplateAt analyzer templateRect position) := by
  have pixel (column : Nat) (inside : (column : Int) < templateRect.width) :=
    first_line_pixel comparable fits inside
  have implied (column : Nat) (inside : (column : Int) < templateRect.width) :=
    @template_pixel analyzer templateRect comparable position column inside
  have block := block_decides comparable fits
  have fourth := decides_and_implied (pixel 3 (by omega)) block (implied 3 (by omega))
  have third := decides_and_implied (pixel 2 (by omega)) fourth (implied 2 (by omega))
  have second := decides_and_implied (pixel 1 (by omega)) third (implied 1 (by omega))
  exact decides_and_implied (pixel 0 (by omega)) second (implied 0 (by omega))

theorem narrow_matches {position : QPoint}
    (fits : Fits analyzer searchArea templateRect position) :
    Decides (narrowMatches analyzer templateRect
        (scanLine analyzer.imageBefore position.y + position.x))
      (TemplateAt analyzer templateRect position) := by
  have corners := template_corners comparable
  have inside : ((0 : Nat) : Int) < templateRect.width := by
    unfold QRect.width
    omega
  have first := first_line_pixel comparable fits inside
  rw [Int.natCast_zero, Int.add_zero, Int.add_zero] at first
  exact decides_and_implied first (block_decides comparable fits)
    (template_pixel comparable inside)

omit comparable in
theorem first_block_unique {one other : QPoint}
    (first : FirstBlock analyzer searchArea templateRect one)
    (otherFirst : FirstBlock analyzer searchArea templateRect other) : one = other := by
  have before := first.first other otherFirst.fits otherFirst.content
  have behind := otherFirst.first one first.fits first.content
  unfold QRect.Precedes at before behind
  apply QPoint.ext_coordinates
  · omega
  · omega

/-- Both loops go through the places at which the template fits, line by line. -/
theorem scan_search {test : Int → Option Bool}
    (decides : ∀ position, Fits analyzer searchArea templateRect position →
      Decides (test (scanLine analyzer.imageBefore position.y + position.x))
        (TemplateAt analyzer templateRect position)) :
    scanRows test (stride analyzer.imageBefore)
        (scanLine analyzer.imageBefore (roi analyzer searchArea).y1 + (roi analyzer searchArea).x1)
        ((roi analyzer searchArea).width - templateRect.width + 1).toNat
        ((roi analyzer searchArea).height - templateRect.height + 1).toNat 0 =
      some (((List.range ((roi analyzer searchArea).height - templateRect.height + 1).toNat).flatMap
        fun row => (List.range ((roi analyzer searchArea).width -
          templateRect.width + 1).toNat).map fun column => (column, row)).find? fun place =>
            analyzer.templateMatches templateRect (comparedFirst templateRect)
              ⟨(roi analyzer searchArea).x1 + (place.1 : Nat),
                (roi analyzer searchArea).y1 + (place.2 : Nat)⟩) := by
  rw [List.range_eq_range' (n := (((roi analyzer searchArea).height - templateRect.height + 1).toNat))]
  apply scan_rows
  intro row within column inside
  rw [Nat.zero_add]
  have address : scanLine analyzer.imageBefore (roi analyzer searchArea).y1 +
        (roi analyzer searchArea).x1 + (row : Int) * stride analyzer.imageBefore + column =
      scanLine analyzer.imageBefore ((roi analyzer searchArea).y1 + row) +
        ((roi analyzer searchArea).x1 + column) := by
    unfold scanLine
    rw [Int.add_mul]
    omega
  have fits : Fits analyzer searchArea templateRect
      ⟨(roi analyzer searchArea).x1 + column, (roi analyzer searchArea).y1 + row⟩ := by
    unfold QRect.width at inside
    unfold QRect.height at within
    unfold Fits QRect.width QRect.height
    dsimp only
    omega
  rw [address]
  exact decides_eq (decides _ fits) (template_matches_iff comparable)

omit comparable in
theorem row_major_places (x y width height : Int) : QRect.rowMajor (QRect.ofSize x y width height) =
    ((List.range height.toNat).flatMap fun row =>
      (List.range width.toNat).map fun column => (column, row)).map fun place : Nat × Nat =>
        (⟨x + place.1, y + place.2⟩ : QPoint) := by
  unfold QRect.rowMajor
  rw [List.map_flatMap, QRect.of_size_width, QRect.of_size_height]
  congr 1
  funext row
  rw [List.map_map]
  rfl

omit comparable in
theorem found_block (x y width height templateWidth templateHeight : Int)
    (accepts : QPoint → Bool) :
    (match ((List.range height.toNat).flatMap fun row =>
        (List.range width.toNat).map fun column => (column, row)).find? fun place : Nat × Nat =>
          accepts ⟨x + place.1, y + place.2⟩ with
      | some (column, row) =>
          some (QRect.ofSize (x + column) (y + row) templateWidth templateHeight)
      | none => some QRect.null) =
      some (match (QRect.rowMajor (QRect.ofSize x y width height)).find? accepts with
        | some position => QRect.ofSize position.x position.y templateWidth templateHeight
        | none => QRect.null) := by
  have places : (QRect.rowMajor (QRect.ofSize x y width height)).find? accepts =
      (((List.range height.toNat).flatMap fun row =>
        (List.range width.toNat).map fun column => (column, row)).find? fun place : Nat × Nat =>
          accepts ⟨x + place.1, y + place.2⟩).map fun place => ⟨x + place.1, y + place.2⟩ := by
    rw [row_major_places, List.find?_map]
    rfl
  rw [places]
  cases List.find? (fun place : Nat × Nat => accepts ⟨x + place.1, y + place.2⟩)
      ((List.range height.toNat).flatMap fun row =>
        (List.range width.toNat).map fun column => (column, row)) with
  | none => rfl
  | some place => rfl

/-- The search in memory reads inside the images and is the search by positions. -/
theorem memory_search : findMovedRectExhaustiveIn analyzer searchArea templateRect =
    some (analyzer.findMovedRectExhaustive searchArea templateRect) := by
  unfold findMovedRectExhaustiveIn findMovedRectExhaustive
  dsimp only
  cases empty : (roi analyzer searchArea).isEmpty with
  | true =>
      rw [if_pos (exhaustive_roi_empty empty), if_pos (exhaustive_roi_empty empty)]
  | false =>
      rw [exhaustive_roi_filled comparable empty]
      split_ifs with unfilled small wide
      · rfl
      · rfl
      · rw [scan_search comparable fun position fits => wide_matches comparable fits wide]
        exact found_block _ _ _ _ _ _ _
      · rw [scan_search comparable fun position fits => narrow_matches comparable fits]
        exact found_block _ _ _ _ _ _ _

/-- The search returns the first block of the search area with the template's pixels, and null
exactly if there is none, whatever the template's width; it reads no pixel outside of the images. -/
theorem exhaustive_search_exact :
    ∃ found, findMovedRectExhaustiveIn analyzer searchArea templateRect = some found ∧
      (∀ position, found =
          QRect.ofSize position.x position.y templateRect.width templateRect.height ↔
        FirstBlock analyzer searchArea templateRect position) ∧
      (found = QRect.null ↔ ∀ position, Fits analyzer searchArea templateRect position →
        ¬ TemplateAt analyzer templateRect position) := by
  have corners := template_corners comparable
  have notNull (position : QPoint) :
      QRect.null ≠ QRect.ofSize position.x position.y templateRect.width templateRect.height := by
    intro same
    have columns := congrArg QRect.width same
    simp only [QRect.null, QRect.ofSize, QRect.width] at columns
    omega
  refine ⟨_, memory_search comparable, ?_⟩
  rcases @exhaustive_spec analyzer searchArea templateRect comparable with
    ⟨position, first, found⟩ | ⟨none, missed⟩
  · rw [found]
    constructor
    · intro other
      constructor
      · intro same
        have left := congrArg QRect.x1 same
        have top := congrArg QRect.y1 same
        rwa [← QPoint.ext_coordinates left top]
      · intro otherFirst
        rw [first_block_unique first otherFirst]
    · apply iff_of_false (notNull position).symm
      intro none
      exact none position first.fits first.content
  · rw [missed]
    constructor
    · intro position
      apply iff_of_false (notNull position)
      intro first
      exact none position first.fits first.content
    · exact iff_of_true rfl none

end Search

/-- A search area that sticks out of the image on all sides. -/
theorem clipped_area_exact :
    ∃ found, findMovedRectExhaustiveIn (sampleAnalyzer 2 2) ⟨-1, -1, 2, 2⟩ ⟨0, 0, 1, 1⟩ =
        some found ∧
      (∀ position : QPoint, found = QRect.ofSize position.x position.y 2 2 ↔
        FirstBlock (sampleAnalyzer 2 2) ⟨-1, -1, 2, 2⟩ ⟨0, 0, 1, 1⟩ position) ∧
      (found = QRect.null ↔ ∀ position,
        Fits (sampleAnalyzer 2 2) ⟨-1, -1, 2, 2⟩ ⟨0, 0, 1, 1⟩ position →
          ¬ TemplateAt (sampleAnalyzer 2 2) ⟨0, 0, 1, 1⟩ position) :=
  @exhaustive_search_exact (sampleAnalyzer 2 2) ⟨-1, -1, 2, 2⟩ ⟨0, 0, 1, 1⟩
    ⟨⟨rfl, rfl⟩, by decide, fun _ member => member⟩

/-- A block that begins in the search area and ends outside of it is not found, though the image
has all of it. -/
theorem block_beyond_area_missed :
    ¬ ∀ (analyzer : MoveAnalyzer) (searchArea templateRect : QRect),
      Comparable analyzer templateRect →
        (findMovedRectExhaustiveIn analyzer searchArea templateRect = some QRect.null ↔
          ¬ ∃ position ∈ roi analyzer searchArea,
            (∀ point ∈ QRect.ofSize position.x position.y templateRect.width templateRect.height,
              point ∈ analyzer.imageBefore.rect) ∧ TemplateAt analyzer templateRect position) := by
  intro exact
  have both := exact (sampleAnalyzer 2 2) ⟨0, 0, 0, 0⟩ ⟨0, 0, 1, 1⟩
    ⟨⟨rfl, rfl⟩, by decide, fun _ member => member⟩
  have missed : findMovedRectExhaustiveIn (sampleAnalyzer 2 2) ⟨0, 0, 0, 0⟩ ⟨0, 0, 1, 1⟩ =
      some QRect.null := by
    decide
  have begins : (⟨0, 0⟩ : QPoint) ∈ roi (sampleAnalyzer 2 2) ⟨0, 0, 0, 0⟩ := by
    decide
  exact both.mp missed ⟨⟨0, 0⟩, begins, fun _ member => member, fun _ _ => rfl⟩

end Viridity.ExhaustiveSearch
