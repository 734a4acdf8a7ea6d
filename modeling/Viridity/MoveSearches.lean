import Viridity.MoveAnalysis
import Viridity.ColumnSearch
import Viridity.FingerPrintUpdates

/-!
# The two searches for a moved block

The exhaustive search compares the template with every block of its size in the search area.
The fingerprint search looks in each column for the first rows whose hashes agree and
compares the pixels there only.
-/

namespace Viridity.MoveSearches

open Viridity.QtRectangle
open Viridity.ImageAux
open Viridity.LeastIndex
open Viridity.FingerPrintSearch
open Viridity.FingerPrintUpdates
open Viridity.ColumnSearch
open Viridity.MoveAnalysis
open Viridity.MoveAnalysis.MoveAnalyzer

set_option autoImplicit false

section Places

variable (analyzer : MoveAnalyzer) (searchArea templateRect : QRect)

def roi : QRect := searchArea.intersected analyzer.imageBefore.rect

def TemplateAt (position : QPoint) : Prop :=
  ∀ point ∈ templateRect, analyzer.imageBefore.pixel
    (point.add (position.sub templateRect.topLeft)) = analyzer.imageAfter.pixel point

/-- A block at `position` does not stick out of the search area. -/
def Fits (position : QPoint) : Prop :=
  ((roi analyzer searchArea).x1 ≤ position.x ∧
      position.x + templateRect.width ≤ (roi analyzer searchArea).x2 + 1) ∧
    (roi analyzer searchArea).y1 ≤ position.y ∧
      position.y + templateRect.height ≤ (roi analyzer searchArea).y2 + 1

/-- The first block of the search area with the template's pixels. -/
structure FirstBlock (position : QPoint) : Prop where
  fits : Fits analyzer searchArea templateRect position
  content : TemplateAt analyzer templateRect position
  first : ∀ other, Fits analyzer searchArea templateRect other →
    TemplateAt analyzer templateRect other → ¬ QRect.Precedes other position

/-- The first `count` rows of the block at `position` have the hashes of the template's. -/
def HashesAgree (count : Int) (position : QPoint) : Prop :=
  ∀ row : Nat, row < count →
    hashLine analyzer.imageAfter templateRect.x1 (templateRect.y1 + row) templateRect.width =
      hashLine analyzer.imageBefore position.x (position.y + row) templateRect.width

/-- The rows whose hashes are compared: all but the last two, the one of a template of one row,
and no block at all passes for a template of two or three rows. -/
def HashMatch (position : QPoint) : Prop :=
  (templateRect.height = 1 ∧ HashesAgree analyzer templateRect 1 position) ∨
    (4 ≤ templateRect.height ∧
      HashesAgree analyzer templateRect (templateRect.height - 2) position)

/-- The last row at which the columns are searched. An area of the template's height at the top
of the image is searched down to the bottom of the image. -/
def lastRow : Int :=
  if (roi analyzer searchArea).y2 + 1 = templateRect.height then
    analyzer.imageBefore.height - templateRect.height
  else (roi analyzer searchArea).y2 + 1 - templateRect.height

/-- The first hash match of a column of the search area, which is a block with the template's
pixels. -/
structure Reached (position : QPoint) : Prop where
  high : templateRect.height ≤ (roi analyzer searchArea).height
  columns : (roi analyzer searchArea).x1 ≤ position.x ∧
    position.x + templateRect.width ≤ (roi analyzer searchArea).x2 + 1
  rows : (roi analyzer searchArea).y1 ≤ position.y ∧
    position.y ≤ lastRow analyzer searchArea templateRect
  matching : HashMatch analyzer templateRect position
  first : ∀ row, (roi analyzer searchArea).y1 ≤ row → row < position.y →
    ¬ HashMatch analyzer templateRect ⟨position.x, row⟩
  content : TemplateAt analyzer templateRect position

/-- The fingerprint search has a result when the exhaustive one has, and its result is a block
of the search area with the template's pixels. -/
def SearchesAgree (templateWidth : Nat) : Prop :=
  let found := analyzer.findMovedRectAreaFingerPrint (rebuilt analyzer.imageBefore templateWidth)
    searchArea templateRect
  (found.isNull = false ↔
      (analyzer.findMovedRectExhaustive searchArea templateRect).isNull = false) ∧
    (found.isNull = false →
      (found.width = templateRect.width ∧ found.height = templateRect.height) ∧
        (∀ point ∈ found, point ∈ roi analyzer searchArea) ∧
          TemplateAt analyzer templateRect found.topLeft)

/-- A match in the search area comes with one the columns lead to, and the left-most of those
lies in the search area. -/
def MatchesReached : Prop :=
  ((∃ position, Fits analyzer searchArea templateRect position ∧
      TemplateAt analyzer templateRect position) →
    ∃ position, Reached analyzer searchArea templateRect position) ∧
  ∀ position, Reached analyzer searchArea templateRect position →
    (∀ other, Reached analyzer searchArea templateRect other → position.x ≤ other.x) →
      Fits analyzer searchArea templateRect position

end Places

/-- A template of the fingerprints' width, in images of one size. -/
structure Template (analyzer : MoveAnalyzer) (templateRect : QRect) (templateWidth : Nat) : Prop where
  sameSize : QImage.SameSize analyzer.imageBefore analyzer.imageAfter
  wide : 2 ≤ templateWidth
  width : templateRect.width = templateWidth
  filled : templateRect.isEmpty = false
  inside : ∀ point ∈ templateRect, point ∈ analyzer.imageAfter.rect

structure Comparable (analyzer : MoveAnalyzer) (templateRect : QRect) : Prop where
  sameSize : QImage.SameSize analyzer.imageBefore analyzer.imageAfter
  filled : templateRect.isEmpty = false
  inside : ∀ point ∈ templateRect, point ∈ analyzer.imageAfter.rect

theorem Template.comparable {analyzer : MoveAnalyzer} {templateRect : QRect} {templateWidth : Nat}
    (template : Template analyzer templateRect templateWidth) :
    Comparable analyzer templateRect :=
  ⟨template.sameSize, template.filled, template.inside⟩

theorem roi_extent (analyzer : MoveAnalyzer) (searchArea : QRect) :
    roi analyzer searchArea = QRect.null ∨
      (0 ≤ (roi analyzer searchArea).x1 ∧
        (roi analyzer searchArea).x2 < analyzer.imageBefore.width ∧
        0 ≤ (roi analyzer searchArea).y1 ∧
        (roi analyzer searchArea).y2 < analyzer.imageBefore.height ∧
        (roi analyzer searchArea).x1 ≤ (roi analyzer searchArea).x2 + 1 ∧
        (roi analyzer searchArea).y1 ≤ (roi analyzer searchArea).y2 + 1) :=
  common_extent analyzer.imageBefore searchArea

theorem exhaustive_roi_empty {analyzer : MoveAnalyzer} {searchArea : QRect}
    (empty : (roi analyzer searchArea).isEmpty = true) :
    (analyzer.exhaustiveRoi searchArea).isEmpty = true := by
  have extent := roi_extent analyzer searchArea
  have ordered : (roi analyzer searchArea).x1 ≤ (roi analyzer searchArea).x2 + 1 ∧
      (roi analyzer searchArea).y1 ≤ (roi analyzer searchArea).y2 + 1 := by
    rcases extent with null | bounds
    · rw [null]
      decide
    · exact bounds.2.2.2.2
  have thin : (roi analyzer searchArea).x1 > (roi analyzer searchArea).x2 ∨
      (roi analyzer searchArea).y1 > (roi analyzer searchArea).y2 := by
    simpa [QRect.isEmpty] using empty
  have within := @QRect.intersected_within analyzer.imageAfter.rect (roi analyzer searchArea)
    ordered.1 ordered.2
  rw [QRect.intersected_comm] at within
  change analyzer.exhaustiveRoi searchArea = QRect.null ∨ _ at within
  rcases within with null | bounds
  · rw [null]
    rfl
  · change _ ≤ (analyzer.exhaustiveRoi searchArea).x1 ∧ (analyzer.exhaustiveRoi searchArea).x2 ≤ _ ∧
      _ ≤ (analyzer.exhaustiveRoi searchArea).y1 ∧ (analyzer.exhaustiveRoi searchArea).y2 ≤ _ ∧ _
      at bounds
    simp only [QRect.isEmpty, Bool.or_eq_true, decide_eq_true_eq]
    omega

section Blocks

variable {analyzer : MoveAnalyzer} {searchArea templateRect : QRect}
variable (comparable : Comparable analyzer templateRect)

include comparable

theorem template_corners : (0 ≤ templateRect.x1 ∧ templateRect.x2 < analyzer.imageBefore.width) ∧
    0 ≤ templateRect.y1 ∧ templateRect.y2 < analyzer.imageBefore.height ∧
      templateRect.x1 ≤ templateRect.x2 ∧ templateRect.y1 ≤ templateRect.y2 := by
  have ordered := QRect.not_is_empty_iff.mp comparable.filled
  have first := QImage.mem_rect.mp (comparable.inside _ (QRect.top_left_mem comparable.filled))
  have last := QImage.mem_rect.mp (comparable.inside _ (QRect.bottom_right_mem comparable.filled))
  have sameSize := comparable.sameSize
  unfold QImage.SameSize at sameSize
  simp only [QRect.topLeft, QRect.bottomRight] at first last
  omega

theorem template_at_iff {position : QPoint} : TemplateAt analyzer templateRect position ↔
    ∀ x y : Int, 0 ≤ x → x < templateRect.width → 0 ≤ y → y < templateRect.height →
      analyzer.imageBefore.pixel ⟨position.x + x, position.y + y⟩ =
        analyzer.imageAfter.pixel ⟨templateRect.x1 + x, templateRect.y1 + y⟩ := by
  have corners := template_corners comparable
  constructor
  · intro content x y left right top bottom
    unfold QRect.width at right
    unfold QRect.height at bottom
    have pixels := content ⟨templateRect.x1 + x, templateRect.y1 + y⟩ (by
      rw [QRect.mem_iff]
      dsimp only
      omega)
    rw [← pixels]
    congr 1
    apply QPoint.ext_coordinates
    · simp only [QPoint.add, QPoint.sub, QRect.topLeft]
      omega
    · simp only [QPoint.add, QPoint.sub, QRect.topLeft]
      omega
  · intro content point member
    have bounds := QRect.mem_iff.mp member
    have pixels := content (point.x - templateRect.x1) (point.y - templateRect.y1) (by omega)
      (by unfold QRect.width; omega) (by omega) (by unfold QRect.height; omega)
    have source : point.add (position.sub templateRect.topLeft) =
        ⟨position.x + (point.x - templateRect.x1), position.y + (point.y - templateRect.y1)⟩ := by
      apply QPoint.ext_coordinates
      · simp only [QPoint.add, QPoint.sub, QRect.topLeft]
        omega
      · simp only [QPoint.add, QPoint.sub, QRect.topLeft]
        omega
    have target : (⟨templateRect.x1 + (point.x - templateRect.x1),
        templateRect.y1 + (point.y - templateRect.y1)⟩ : QPoint) = point := by
      apply QPoint.ext_coordinates
      · dsimp only
        omega
      · dsimp only
        omega
    rw [source, pixels, target]

theorem content_at_iff {position : QPoint} :
    contentMatchesAt analyzer.imageBefore position analyzer.imageAfter templateRect.topLeft
        templateRect.width templateRect.height = true ↔
      TemplateAt analyzer templateRect position := by
  have corners := template_corners comparable
  rw [template_at_iff comparable]
  constructor
  · intro matching x y left right top bottom
    exact content_matches_at_sound matching x y left right top bottom
  · intro content
    exact content_matches_at_complete (by unfold QRect.width; omega) content

theorem content_matches_iff {position : QPoint} (left : 0 ≤ position.x)
    (right : position.x + templateRect.width ≤ analyzer.imageBefore.width) (top : 0 ≤ position.y)
    (bottom : position.y + templateRect.height ≤ analyzer.imageBefore.height) :
    contentMatches analyzer.imageBefore analyzer.imageAfter position templateRect = true ↔
      TemplateAt analyzer templateRect position := by
  have corners := template_corners comparable
  have imageCorners := image_rect_corners analyzer.imageBefore
  have rects := QImage.same_size_rect comparable.sameSize
  have whole : templateRect.intersected analyzer.imageAfter.rect = templateRect := by
    rw [← rects]
    exact QRect.intersected_inside comparable.filled (by omega) (by omega)
  have block : (QRect.ofSize position.x position.y templateRect.width
      templateRect.height).intersected analyzer.imageBefore.rect =
        QRect.ofSize position.x position.y templateRect.width templateRect.height := by
    apply QRect.intersected_inside
    · rw [QRect.not_is_empty_iff_extent, QRect.of_size_width, QRect.of_size_height]
      exact QRect.not_is_empty_iff_extent.mp comparable.filled
    · simp only [QRect.ofSize]
      omega
    · simp only [QRect.ofSize]
      omega
  unfold contentMatches
  dsimp only
  rw [whole, block, QRect.of_size_width, QRect.of_size_height, if_neg (by omega)]
  exact content_at_iff comparable

/-- The test of the exhaustive search; the pixels it looks at first are the template's too. -/
theorem template_matches_iff {position : QPoint} :
    analyzer.templateMatches templateRect (comparedFirst templateRect) position = true ↔
      TemplateAt analyzer templateRect position := by
  have corners := template_corners comparable
  unfold templateMatches
  rw [Bool.and_eq_true, content_at_iff comparable]
  constructor
  · rintro ⟨_, content⟩
    exact content
  · intro content
    refine ⟨?_, content⟩
    rw [List.all_eq_true]
    intro column member
    have below := List.mem_range.mp member
    have narrow : (column : Int) < templateRect.width := by
      unfold comparedFirst at below
      unfold QRect.width at below ⊢
      split_ifs at below <;> omega
    have pixels := (template_at_iff comparable).mp content column 0 (by omega) narrow (by omega)
      (by unfold QRect.height; omega)
    rw [Int.add_zero, Int.add_zero] at pixels
    rw [beq_iff_eq]
    exact pixels

theorem image_filled : analyzer.imageBefore.rect.isEmpty = false := by
  have corners := template_corners comparable
  have imageCorners := image_rect_corners analyzer.imageBefore
  rw [QRect.not_is_empty_iff]
  omega

theorem exhaustive_roi_filled (filled : (roi analyzer searchArea).isEmpty = false) :
    analyzer.exhaustiveRoi searchArea = roi analyzer searchArea := by
  have rects := QImage.same_size_rect comparable.sameSize
  unfold exhaustiveRoi
  rw [← rects]
  exact clipped_again filled

omit comparable in
/-- The positions the exhaustive search goes through are those at which a block fits. -/
theorem searched_iff (position : QPoint) :
    position ∈ QRect.rowMajor (QRect.ofSize (roi analyzer searchArea).x1
        (roi analyzer searchArea).y1 ((roi analyzer searchArea).width - templateRect.width + 1)
        ((roi analyzer searchArea).height - templateRect.height + 1)) ↔
      Fits analyzer searchArea templateRect position := by
  rw [QRect.mem_row_major, QRect.mem_of_size]
  unfold Fits
  simp only [QRect.width, QRect.height]
  omega

/-- The exhaustive search finds the first block of the search area, line by line. -/
theorem exhaustive_spec :
    (∃ position, FirstBlock analyzer searchArea templateRect position ∧
        analyzer.findMovedRectExhaustive searchArea templateRect =
          QRect.ofSize position.x position.y templateRect.width templateRect.height) ∨
      ((∀ position, Fits analyzer searchArea templateRect position →
          ¬ TemplateAt analyzer templateRect position) ∧
        analyzer.findMovedRectExhaustive searchArea templateRect = QRect.null) := by
  have corners := template_corners comparable
  unfold findMovedRectExhaustive
  dsimp only
  cases empty : (roi analyzer searchArea).isEmpty with
  | true =>
      rw [if_pos (exhaustive_roi_empty empty)]
      refine Or.inr ⟨?_, rfl⟩
      intro position fits _
      have thin : (roi analyzer searchArea).x1 > (roi analyzer searchArea).x2 ∨
          (roi analyzer searchArea).y1 > (roi analyzer searchArea).y2 := by
        simpa [QRect.isEmpty] using empty
      unfold Fits QRect.width QRect.height at fits
      omega
  | false =>
      rw [exhaustive_roi_filled comparable empty, if_neg (by rw [empty]; decide)]
      split_ifs with small
      · refine Or.inr ⟨?_, rfl⟩
        intro position fits _
        unfold Fits QRect.width QRect.height at fits
        unfold QRect.width QRect.height at small
        omega
      · split
        · rename_i position found
          obtain ⟨accepted, before, behind, places, refused⟩ :=
            List.find?_eq_some_iff_append.mp found
          refine Or.inl ⟨position, ⟨?_, (template_matches_iff comparable).mp accepted, ?_⟩, rfl⟩
          · exact (searched_iff position).mp (List.mem_of_find?_eq_some found)
          · intro other fits content precedes
            have among := (searched_iff other).mpr fits
            have sorted := QRect.row_major_sorted (QRect.ofSize (roi analyzer searchArea).x1
              (roi analyzer searchArea).y1
              ((roi analyzer searchArea).width - templateRect.width + 1)
              ((roi analyzer searchArea).height - templateRect.height + 1))
            rw [places, List.pairwise_append, List.pairwise_cons] at sorted
            rw [places] at among
            rcases List.mem_append.mp among with early | late
            · have accepts := (template_matches_iff comparable).mpr content
              have refuses := refused other early
              rw [accepts] at refuses
              exact Bool.false_ne_true refuses
            · unfold QRect.Precedes at precedes
              rcases List.mem_cons.mp late with here | after
              · rw [here] at precedes
                omega
              · have follows := sorted.2.1.1 other after
                unfold QRect.Precedes at follows
                omega
        · rename_i missed
          refine Or.inr ⟨?_, rfl⟩
          intro position fits content
          exact List.find?_eq_none.mp missed position
            ((searched_iff position).mpr fits)
            ((template_matches_iff comparable).mpr content)

/-- The exhaustive search misses no block of the search area. -/
theorem exhaustive_iff :
    (analyzer.findMovedRectExhaustive searchArea templateRect).isNull = false ↔
      ∃ position, Fits analyzer searchArea templateRect position ∧
        TemplateAt analyzer templateRect position := by
  have corners := template_corners comparable
  rcases @exhaustive_spec analyzer searchArea templateRect comparable with
    ⟨position, first, found⟩ | ⟨none, missed⟩
  · rw [found]
    apply iff_of_true
    · simp only [QRect.isNull, QRect.ofSize, QRect.width, Bool.and_eq_false_iff,
        beq_eq_false_iff_ne]
      left
      omega
    · exact ⟨position, first.fits, first.content⟩
  · rw [missed]
    apply iff_of_false
    · decide
    · rintro ⟨position, fits, content⟩
      exact none position fits content

end Blocks

section Templates

variable {analyzer : MoveAnalyzer} {searchArea templateRect : QRect} {templateWidth : Nat}
variable (template : Template analyzer templateRect templateWidth)

include template

theorem rebuilt_column {column : Nat}
    (fits : column + templateWidth ≤ analyzer.imageBefore.width) :
    ((rebuilt analyzer.imageBefore templateWidth).fingerPrints.getD column []).length =
        analyzer.imageBefore.height ∧
      ∀ row < analyzer.imageBefore.height,
        ((rebuilt analyzer.imageBefore templateWidth).fingerPrints.getD column []).getD row
          AreaFingerPrintHash.zero = hashLine analyzer.imageBefore column row templateWidth := by
  have wide := template.wide
  have whole := rebuilt_whole (image_filled template.comparable) (show 1 ≤ templateWidth by omega)
    (show templateWidth ≤ analyzer.imageBefore.width by omega)
  have tableWidth := whole.width
  have inside : column < (rebuilt analyzer.imageBefore templateWidth).fingerPrints.length := by
    rw [whole.hashing.table.columns]
    omega
  rw [List.getD_eq_getElem _ _ inside]
  have height := whole.hashing.table.rows _ (List.getElem_mem inside)
  rw [height, whole.height]
  refine ⟨rfl, ?_⟩
  intro row inHeight
  have stored := @stored_rebuilt analyzer.imageBefore templateWidth (by omega) column row fits
    inHeight
  rw [if_pos (by omega)] at stored
  unfold storedHash at stored
  dsimp only at stored
  rw [List.getElem?_eq_getElem inside, Option.bind_some] at stored
  rw [List.getD_eq_getElem?_getD, stored, Option.getD_some]

theorem needle_rows :
    ((initFromImage analyzer.imageAfter templateRect).length : Int) = templateRect.height ∧
      ∀ row : Nat, row < templateRect.height →
        (initFromImage analyzer.imageAfter templateRect).getD row AreaFingerPrintHash.zero =
          hashLine analyzer.imageAfter templateRect.x1 (templateRect.y1 + row)
            templateRect.width := by
  have corners := template_corners template.comparable
  have imageCorners := image_rect_corners analyzer.imageBefore
  have rects := QImage.same_size_rect template.sameSize
  have whole : templateRect.intersected analyzer.imageAfter.rect = templateRect := by
    rw [← rects]
    exact QRect.intersected_inside template.filled (by omega) (by omega)
  have positive : 0 ≤ templateRect.height := by
    unfold QRect.height
    omega
  unfold initFromImage
  rw [whole, List.length_map, List.length_range]
  refine ⟨Int.toNat_of_nonneg positive, ?_⟩
  intro row below
  have inside : row < ((List.range templateRect.height.toNat).map fun (y : Nat) =>
      hashLine analyzer.imageAfter templateRect.x1 (templateRect.y1 + y)
        templateRect.width).length := by
    rw [List.length_map, List.length_range]
    omega
  rw [List.getD_eq_getElem _ _ inside, List.getElem_map, List.getElem_range]

theorem resembles_iff {column index : Nat}
    (fits : column + templateWidth ≤ analyzer.imageBefore.width)
    (high : index + templateRect.height ≤ analyzer.imageBefore.height) :
    Resembles ((rebuilt analyzer.imageBefore templateWidth).fingerPrints.getD column [])
        (initFromImage analyzer.imageAfter templateRect) index ↔
      HashMatch analyzer templateRect ⟨column, index⟩ := by
  obtain ⟨_, hashes⟩ := rebuilt_column template fits
  obtain ⟨length, rows⟩ := needle_rows template
  have agree : ∀ count : Nat, count ≤ templateRect.height →
      (RowsAgree ((rebuilt analyzer.imageBefore templateWidth).fingerPrints.getD column [])
          (initFromImage analyzer.imageAfter templateRect) count index ↔
        HashesAgree analyzer templateRect count ⟨column, index⟩) := by
    intro count bounded
    have rowHash : ∀ row : Nat, row < count →
        hashLine analyzer.imageBefore column ((index + row : Nat) : Int) templateWidth =
          hashLine analyzer.imageBefore column (index + row) templateRect.width := by
      intro row _
      rw [Int.natCast_add, template.width]
    constructor
    · intro same row below
      have hash := same row (by omega)
      rw [rows row (by omega), hashes _ (by omega), rowHash row (by omega)] at hash
      exact hash
    · intro same row below
      rw [rows row (by omega), hashes _ (by omega), rowHash row below]
      exact same row (by omega)
  unfold Resembles HashMatch
  by_cases single : templateRect.height = 1
  · rw [agree 1 (by omega)]
    constructor
    · rintro (⟨_, hash⟩ | ⟨long, _⟩)
      · exact Or.inl ⟨single, hash⟩
      · omega
    · rintro (⟨_, hash⟩ | ⟨long, _⟩)
      · exact Or.inl ⟨by omega, hash⟩
      · omega
  · by_cases long : 4 ≤ templateRect.height
    · have count : (((initFromImage analyzer.imageAfter templateRect).length - 2 : Nat) : Int) =
          templateRect.height - 2 := by
        omega
      rw [agree ((initFromImage analyzer.imageAfter templateRect).length - 2) (by omega), count]
      constructor
      · rintro (⟨one, _⟩ | ⟨_, hash⟩)
        · omega
        · exact Or.inr ⟨long, hash⟩
      · rintro (⟨one, _⟩ | ⟨_, hash⟩)
        · omega
        · exact Or.inr ⟨by omega, hash⟩
    · apply iff_of_false
      · rintro (⟨one, _⟩ | ⟨some, _⟩) <;> omega
      · rintro (⟨one, _⟩ | ⟨some, _⟩) <;> omega

section Columns

variable (searchArea)

def columnHit (analyzer : MoveAnalyzer) (searchArea templateRect : QRect) (templateWidth : Nat)
    (column : Int) : Option QPoint :=
  match indexOf ((rebuilt analyzer.imageBefore templateWidth).fingerPrints.getD column.toNat [])
      (initFromImage analyzer.imageAfter templateRect) (roi analyzer searchArea).y1.toNat
      ((roi analyzer searchArea).y2 + 1 -
        (initFromImage analyzer.imageAfter templateRect).length) with
  | none => none
  | some index =>
      if contentMatches analyzer.imageBefore analyzer.imageAfter ⟨column, index⟩ templateRect then
        some ⟨column, index⟩
      else none

theorem find_position_eq :
    (rebuilt analyzer.imageBefore templateWidth).findPosition
        (initFromImage analyzer.imageAfter templateRect) searchArea (fun position =>
          contentMatches analyzer.imageBefore analyzer.imageAfter position templateRect) =
      if (roi analyzer searchArea).height <
          (initFromImage analyzer.imageAfter templateRect).length then none
      else (List.range ((roi analyzer searchArea).x2 + 1 - templateWidth + 1 -
          (roi analyzer searchArea).x1).toNat).findSome? fun (offset : Nat) =>
        columnHit analyzer searchArea templateRect templateWidth
          ((roi analyzer searchArea).x1 + offset) := by
  have wide := template.wide
  have whole := rebuilt_whole (image_filled template.comparable) (show 1 ≤ templateWidth by omega)
    (show templateWidth ≤ analyzer.imageBefore.width by
      have corners := template_corners template.comparable
      have width := template.width
      unfold QRect.width at width
      omega)
  have corners := image_rect_corners analyzer.imageBefore
  have common : analyzer.imageBefore.rect.intersected searchArea = roi analyzer searchArea :=
    QRect.intersected_comm _ _
  unfold AreaFingerPrints.findPosition
  dsimp only
  rw [whole.hashedArea, whole.template, common]
  split_ifs with low
  · rfl
  · simp only [QRect.setWidth, QRect.moveTo, QRect.topLeft, QPoint.sub, corners.1, corners.2.1,
      Int.sub_zero]
    have count : (roi analyzer searchArea).x1 + ((roi analyzer searchArea).x1 +
        ((roi analyzer searchArea).width - templateWidth + 1) - 1 -
          (roi analyzer searchArea).x1) + 1 - (roi analyzer searchArea).x1 =
        (roi analyzer searchArea).x2 + 1 - templateWidth + 1 - (roi analyzer searchArea).x1 := by
      unfold QRect.width
      omega
    have bottom : (roi analyzer searchArea).y1 + ((roi analyzer searchArea).y2 -
        (roi analyzer searchArea).y1) = (roi analyzer searchArea).y2 := by
      omega
    rw [count, bottom]
    rfl

omit template in
theorem roi_bounds (filled : 1 ≤ templateRect.height)
    (high : templateRect.height ≤ (roi analyzer searchArea).height) :
    (0 ≤ (roi analyzer searchArea).x1 ∧
        (roi analyzer searchArea).x2 < analyzer.imageBefore.width) ∧
      0 ≤ (roi analyzer searchArea).y1 ∧
        (roi analyzer searchArea).y2 < analyzer.imageBefore.height := by
  rcases roi_extent analyzer searchArea with null | bounds
  · rw [null] at high
    simp only [QRect.null, QRect.height] at high filled
    omega
  · omega

theorem template_height : 1 ≤ templateRect.height := by
  have corners := template_corners template.comparable
  unfold QRect.height
  omega

theorem effective_end_eq {column : Nat}
    (fits : column + templateWidth ≤ analyzer.imageBefore.width)
    (high : templateRect.height ≤ (roi analyzer searchArea).height) :
    effectiveEnd ((rebuilt analyzer.imageBefore templateWidth).fingerPrints.getD column [])
        (initFromImage analyzer.imageAfter templateRect)
        ((roi analyzer searchArea).y2 + 1 -
          (initFromImage analyzer.imageAfter templateRect).length) =
      lastRow analyzer searchArea templateRect := by
  have length := (rebuilt_column template fits).1
  have rows := (needle_rows template).1
  have filled := template_height template
  have bounds := roi_bounds searchArea filled high
  have height : (roi analyzer searchArea).height =
      (roi analyzer searchArea).y2 - (roi analyzer searchArea).y1 + 1 := rfl
  unfold effectiveEnd lastRow
  dsimp only
  rw [length, rows]
  split_ifs <;> omega

omit template in
theorem last_row_inside (filled : 1 ≤ templateRect.height)
    (high : templateRect.height ≤ (roi analyzer searchArea).height) :
    lastRow analyzer searchArea templateRect + templateRect.height ≤
      analyzer.imageBefore.height := by
  have bounds := roi_bounds searchArea filled high
  unfold lastRow
  split_ifs <;> omega

/-- A column that the template fits in has its first hash match where its search ends. -/
theorem column_index_iff {column : Nat} (fits : column + templateWidth ≤ analyzer.imageBefore.width)
    (high : templateRect.height ≤ (roi analyzer searchArea).height) (index : Nat) :
    indexOf ((rebuilt analyzer.imageBefore templateWidth).fingerPrints.getD column [])
        (initFromImage analyzer.imageAfter templateRect) (roi analyzer searchArea).y1.toNat
        ((roi analyzer searchArea).y2 + 1 -
          (initFromImage analyzer.imageAfter templateRect).length) = some index ↔
      ((roi analyzer searchArea).y1 ≤ index ∧
          (index : Int) ≤ lastRow analyzer searchArea templateRect ∧
            HashMatch analyzer templateRect ⟨column, index⟩) ∧
        ∀ row, (roi analyzer searchArea).y1 ≤ row → row < index →
          ¬ HashMatch analyzer templateRect ⟨column, row⟩ := by
  have filled := template_height template
  have bounds := roi_bounds searchArea filled high
  have last := last_row_inside searchArea filled high
  have search := index_of_least
    ((rebuilt analyzer.imageBefore templateWidth).fingerPrints.getD column [])
    (initFromImage analyzer.imageAfter templateRect) (roi analyzer searchArea).y1.toNat
    ((roi analyzer searchArea).y2 + 1 - (initFromImage analyzer.imageAfter templateRect).length)
  rw [effective_end_eq searchArea template fits high] at search
  have resembles (row : Nat) (bounded : (row : Int) ≤ lastRow analyzer searchArea templateRect) :=
    @resembles_iff analyzer templateRect templateWidth template column row fits (by omega)
  rw [search.some_iff index]
  constructor
  · intro first
    obtain ⟨⟨after, before, agrees⟩, nothing⟩ := first
    refine ⟨⟨by omega, before, (resembles index before).mp agrees⟩, ?_⟩
    intro row fromTop above agreesEarlier
    have natural : (row.toNat : Int) = row := Int.toNat_of_nonneg (by omega)
    rw [← natural] at agreesEarlier
    exact nothing row.toNat (by omega) (by omega)
      ((resembles row.toNat (by omega)).mpr agreesEarlier)
  · intro first
    obtain ⟨⟨after, before, matching⟩, nothing⟩ := first
    refine ⟨⟨by omega, before, (resembles index before).mpr matching⟩, ?_⟩
    intro earlier fromTop above agrees
    exact nothing earlier (by omega) (by omega) ((resembles earlier (by omega)).mp agrees)

theorem column_hit_iff {column : Int} (left : (roi analyzer searchArea).x1 ≤ column)
    (right : column + templateRect.width ≤ (roi analyzer searchArea).x2 + 1)
    (high : templateRect.height ≤ (roi analyzer searchArea).height) (position : QPoint) :
    columnHit analyzer searchArea templateRect templateWidth column = some position ↔
      position.x = column ∧ Reached analyzer searchArea templateRect position := by
  have width := template.width
  have filled := template_height template
  have bounds := roi_bounds searchArea filled high
  have last := last_row_inside searchArea filled high
  have natural : (column.toNat : Int) = column := Int.toNat_of_nonneg (by omega)
  have index := @column_index_iff analyzer searchArea templateRect templateWidth template
    column.toNat (by omega) high
  rw [natural] at index
  have content : ∀ row : Nat, (row : Int) ≤ lastRow analyzer searchArea templateRect →
      (contentMatches analyzer.imageBefore analyzer.imageAfter ⟨column, row⟩ templateRect = true ↔
        TemplateAt analyzer templateRect ⟨column, row⟩) := by
    intro row bounded
    exact content_matches_iff template.comparable (by dsimp only; omega) (by dsimp only; omega)
      (by dsimp only; omega) (by dsimp only; omega)
  unfold columnHit
  constructor
  · intro hit
    cases found : indexOf
        ((rebuilt analyzer.imageBefore templateWidth).fingerPrints.getD column.toNat [])
        (initFromImage analyzer.imageAfter templateRect) (roi analyzer searchArea).y1.toNat
        ((roi analyzer searchArea).y2 + 1 -
          (initFromImage analyzer.imageAfter templateRect).length) with
    | none =>
        rw [found] at hit
        cases hit
    | some row =>
        rw [found] at hit
        dsimp only at hit
        split_ifs at hit with accepted
        cases hit
        obtain ⟨⟨after, before, matching⟩, nothing⟩ := (index row).mp found
        exact ⟨rfl, high, ⟨left, right⟩, ⟨after, before⟩, matching, nothing,
          (content row before).mp accepted⟩
  · intro reached
    obtain ⟨rfl, reached⟩ := reached
    have rows := reached.rows
    have rowNatural : (position.y.toNat : Int) = position.y := Int.toNat_of_nonneg (by omega)
    have here : position = ⟨position.x, (position.y.toNat : Int)⟩ := by
      rw [rowNatural]
    have found := (index position.y.toNat).mpr (by
      rw [rowNatural]
      exact ⟨⟨rows.1, rows.2, reached.matching⟩, reached.first⟩)
    rw [found]
    dsimp only
    rw [if_pos ((content _ (by omega)).mpr (here ▸ reached.content)), ← here]

theorem reached_hit {position : QPoint} (reached : Reached analyzer searchArea templateRect position) :
    ∃ offset : Nat, offset < ((roi analyzer searchArea).x2 + 1 - templateWidth + 1 -
          (roi analyzer searchArea).x1).toNat ∧
      (roi analyzer searchArea).x1 + offset = position.x ∧
        columnHit analyzer searchArea templateRect templateWidth
          ((roi analyzer searchArea).x1 + offset) = some position := by
  have width := template.width
  have columns := reached.columns
  have natural : (((position.x - (roi analyzer searchArea).x1).toNat : Nat) : Int) =
      position.x - (roi analyzer searchArea).x1 := Int.toNat_of_nonneg (by omega)
  refine ⟨(position.x - (roi analyzer searchArea).x1).toNat, by omega, by omega, ?_⟩
  exact (column_hit_iff searchArea template (by omega) (by omega) reached.high position).mpr
    ⟨by omega, reached⟩

/-- The fingerprint search finds the left-most block the columns lead to. -/
theorem find_position_iff (position : QPoint) :
    (rebuilt analyzer.imageBefore templateWidth).findPosition
        (initFromImage analyzer.imageAfter templateRect) searchArea (fun position =>
          contentMatches analyzer.imageBefore analyzer.imageAfter position templateRect) =
        some position ↔
      Reached analyzer searchArea templateRect position ∧
        ∀ other, Reached analyzer searchArea templateRect other → position.x ≤ other.x := by
  have width := template.width
  rw [find_position_eq searchArea template, (needle_rows template).1]
  split_ifs with low
  · apply iff_of_false
    · intro impossible
      cases impossible
    · intro both
      have high := both.1.high
      omega
  · rw [find_some_range_iff]
    constructor
    · intro first
      obtain ⟨offset, below, hit, nothing⟩ := first
      obtain ⟨here, reached⟩ := (column_hit_iff searchArea template (by omega) (by omega) (by omega)
        position).mp hit
      refine ⟨reached, ?_⟩
      intro other otherReached
      by_contra further
      obtain ⟨earlier, _, column, otherHit⟩ := reached_hit searchArea template otherReached
      rw [nothing earlier (by omega)] at otherHit
      cases otherHit
    · intro leading
      obtain ⟨reached, leftmost⟩ := leading
      obtain ⟨offset, below, column, hit⟩ := reached_hit searchArea template reached
      refine ⟨offset, below, hit, ?_⟩
      intro earlier before
      cases earlierHit : columnHit analyzer searchArea templateRect templateWidth
          ((roi analyzer searchArea).x1 + earlier) with
      | none => rfl
      | some other =>
          obtain ⟨here, otherReached⟩ := (column_hit_iff searchArea template (by omega) (by omega)
            (by omega) other).mp earlierHit
          have order := leftmost other otherReached
          omega

theorem find_position_misses
    (missed : (rebuilt analyzer.imageBefore templateWidth).findPosition
      (initFromImage analyzer.imageAfter templateRect) searchArea (fun position =>
        contentMatches analyzer.imageBefore analyzer.imageAfter position templateRect) = none)
    (position : QPoint) : ¬ Reached analyzer searchArea templateRect position := by
  intro reached
  have high := reached.high
  obtain ⟨offset, below, _, hit⟩ := reached_hit searchArea template reached
  rw [find_position_eq searchArea template, (needle_rows template).1, if_neg (by omega),
    List.findSome?_eq_none_iff] at missed
  rw [missed offset (List.mem_range.mpr below)] at hit
  cases hit

end Columns

/-- The rectangle at a position is inside of the region of interest exactly if the template
fits there. -/
theorem window_inside_iff {position : QPoint} :
    (∀ point ∈ QRect.ofSize position.x position.y templateRect.width templateRect.height,
      point ∈ roi analyzer searchArea) ↔ Fits analyzer searchArea templateRect position := by
  have corners := template_corners template.comparable
  unfold Fits QRect.width QRect.height
  constructor
  · intro inside
    have first := QRect.mem_iff.mp (inside ⟨position.x, position.y⟩ (by
      rw [QRect.mem_of_size]
      dsimp only
      omega))
    have last := QRect.mem_iff.mp (inside ⟨position.x + templateRect.x2 - templateRect.x1,
      position.y + templateRect.y2 - templateRect.y1⟩ (by
        rw [QRect.mem_of_size]
        dsimp only
        omega))
    dsimp only at first last
    omega
  · intro fits point member
    rw [QRect.mem_of_size] at member
    rw [QRect.mem_iff]
    omega

/-- The fingerprint search agrees with the exhaustive one exactly if a match in the search area
comes with a block the columns lead to and the left-most such block lies in the area. -/
theorem fingerprint_search_agrees_iff :
    SearchesAgree analyzer searchArea templateRect templateWidth ↔
      MatchesReached analyzer searchArea templateRect := by
  have corners := template_corners template.comparable
  have positions := find_position_iff searchArea template
  have misses := find_position_misses searchArea template
  unfold SearchesAgree MatchesReached findMovedRectAreaFingerPrint
  dsimp only
  rw [exhaustive_iff template.comparable]
  cases found : (rebuilt analyzer.imageBefore templateWidth).findPosition
      (initFromImage analyzer.imageAfter templateRect) searchArea (fun position =>
        contentMatches analyzer.imageBefore analyzer.imageAfter position templateRect) with
  | none =>
      have nothing := misses found
      dsimp only
      constructor
      · rintro ⟨both, _⟩
        constructor
        · intro some
          exact absurd (both.mpr some) (by decide)
        · intro position reached
          exact absurd reached (nothing position)
      · rintro ⟨reaches, _⟩
        constructor
        · apply iff_of_false (by decide)
          intro some
          obtain ⟨position, reached⟩ := reaches some
          exact nothing position reached
        · intro impossible
          exact absurd impossible (by decide)
  | some position =>
      dsimp only
      have leading := (positions position).mp found
      have notNull : (QRect.ofSize position.x position.y templateRect.width
          templateRect.height).isNull = false := by
        simp only [QRect.isNull, QRect.ofSize, QRect.width, Bool.and_eq_false_iff,
          beq_eq_false_iff_ne]
        left
        omega
      constructor
      · rintro ⟨both, sound⟩
        refine ⟨fun _ => ⟨position, leading.1⟩, ?_⟩
        intro other reached leftmost
        have same := (positions other).mpr ⟨reached, leftmost⟩
        rw [found] at same
        cases same
        exact (window_inside_iff template).mp (sound notNull).2.1
      · rintro ⟨_, inside⟩
        have fits := inside position leading.1 leading.2
        refine ⟨iff_of_true notNull ⟨position, fits, leading.1.content⟩, fun _ => ⟨?_, ?_, ?_⟩⟩
        · exact ⟨QRect.of_size_width _ _ _ _, QRect.of_size_height _ _ _ _⟩
        · exact (window_inside_iff template).mpr fits
        · exact leading.1.content

end Templates

def sampleAnalyzer (width height : Nat) : MoveAnalyzer where
  imageBefore := ⟨width, height, fun _ => 0⟩
  imageAfter := ⟨width, height, fun _ => 0⟩
  templateWidth := 2
  searchRadius := 0
  searchMissesThreshold := 1
  searchAreaFingerPrints := none

/-- A template of one row is found where it is. -/
theorem one_row_found : SearchesAgree (sampleAnalyzer 2 1) ⟨0, 0, 1, 0⟩ ⟨0, 0, 1, 0⟩ 2 := by
  refine (@fingerprint_search_agrees_iff (sampleAnalyzer 2 1) ⟨0, 0, 1, 0⟩ ⟨0, 0, 1, 0⟩ 2
    ⟨⟨rfl, rfl⟩, by decide, rfl, rfl, fun _ member => member⟩).mpr ⟨?_, ?_⟩
  · intro _
    refine ⟨⟨0, 0⟩, by decide, by decide, by decide, Or.inl ⟨rfl, fun _ _ => rfl⟩, ?_, fun _ _ => rfl⟩
    intro row fromTop above
    exact absurd above (Int.not_lt.mpr fromTop)
  · intro position reached _
    have rows := reached.rows
    have columns := reached.columns
    have extent : (roi (sampleAnalyzer 2 1) ⟨0, 0, 1, 0⟩) = ⟨0, 0, 1, 0⟩ := by decide
    have last : lastRow (sampleAnalyzer 2 1) ⟨0, 0, 1, 0⟩ ⟨0, 0, 1, 0⟩ = 0 := by decide
    unfold Fits
    rw [last] at rows
    rw [extent] at rows columns ⊢
    simp only [QRect.width, QRect.height] at rows columns ⊢
    omega

/-- A template of two rows is never found by its hashes. -/
theorem two_rows_missed :
    ¬ ∀ (analyzer : MoveAnalyzer) (searchArea templateRect : QRect) (templateWidth : Nat),
      Template analyzer templateRect templateWidth →
        SearchesAgree analyzer searchArea templateRect templateWidth := by
  intro agree
  have both := (agree (sampleAnalyzer 2 2) ⟨0, 0, 1, 1⟩ ⟨0, 0, 1, 1⟩ 2
    ⟨⟨rfl, rfl⟩, by decide, rfl, rfl, fun _ member => member⟩).1
  have missed : (findMovedRectAreaFingerPrint (sampleAnalyzer 2 2)
      (rebuilt (sampleAnalyzer 2 2).imageBefore 2) ⟨0, 0, 1, 1⟩ ⟨0, 0, 1, 1⟩).isNull = true := by
    decide
  have found : (findMovedRectExhaustive (sampleAnalyzer 2 2) ⟨0, 0, 1, 1⟩
      ⟨0, 0, 1, 1⟩).isNull = false := by
    decide
  rw [missed, found] at both
  exact absurd (both.mpr rfl) (by decide)

end Viridity.MoveSearches
