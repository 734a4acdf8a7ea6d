import Viridity.FingerPrintUpdates

/-!
# Fingerprinting in strips

The threaded fingerprinting cuts its area into strips and updates them in any order. Dividing
by a strip height of zero and reaching for a column the table does not have are undefined.
-/

namespace Viridity.FingerPrintStrips

open Viridity.QtRectangle
open Viridity.ImageAux
open Viridity.PaintedCanvas
open Viridity.FingerPrintSearch
open Viridity.FingerPrintUpdates

set_option autoImplicit false

namespace AreaFingerPrints

/-- `updateFromImage`, undefined when it reaches for a column outside the table. -/
def updateFromImage (prints : AreaFingerPrints) (image : QImage) (area : QRect) :
    Option AreaFingerPrints :=
  let column := leftLimit prints image area - prints.hashedArea.x1
  if (List.range (rightLimit prints image area - leftLimit prints image area).toNat).all
      fun (offset : Nat) => 0 ≤ column + offset && column + offset < prints.width then
    some (prints.updateFromImage image area)
  else none

def initFromImage (prints : AreaFingerPrints) (image : QImage) (area : QRect)
    (templateWidth : Int) : Option AreaFingerPrints :=
  let rect := area.intersected image.rect
  let sized := prints.initFromSize rect.width rect.height templateWidth
  updateFromImage { sized with hashedArea := rect } image rect

/-- The strips of `lineHeight` rows, and the rows that remain. -/
def lineRects (rect : QRect) (lineHeight lineCount : Int) : List QRect :=
  let partsTotalHeight := lineCount * lineHeight
  let remainingHeight := rect.height - partsTotalHeight
  (List.range lineCount.toNat).map
      (fun (i : Nat) => QRect.ofSize rect.x1 (rect.y1 + i * lineHeight) rect.width lineHeight) ++
    if remainingHeight > 0 then
      [QRect.ofSize rect.x1 (rect.y1 + partsTotalHeight) rect.width remainingHeight]
    else []

/-- `order` is the order in which the thread pool takes the strips. -/
def updateFromImageThreaded (idealThreadCount : Int) (order : List QRect → List QRect)
    (prints : AreaFingerPrints) (image : QImage) (area : QRect) : Option AreaFingerPrints :=
  let rect := prints.hashedArea.intersected (area.intersected image.rect)
  let lineHeight := prints.templateWidth.tdiv idealThreadCount
  if lineHeight = 0 then none
  else
    let lineCount := rect.height.tdiv lineHeight
    if lineCount = 0 then updateFromImage prints image rect
    else
      (order (lineRects rect lineHeight lineCount)).foldlM
        (fun prints partRect => updateFromImage prints image partRect) prints

def initFromImageThreaded (idealThreadCount : Int) (order : List QRect → List QRect)
    (prints : AreaFingerPrints) (image : QImage) (area : QRect) (templateWidth : Int) :
    Option AreaFingerPrints :=
  let rect := area.intersected image.rect
  let sized := prints.initFromSize rect.width rect.height templateWidth
  updateFromImageThreaded idealThreadCount order { sized with hashedArea := rect } image rect

/-- `isEqual`; the bytes of two columns are compared as the hashes they are. -/
def isEqual (prints other : AreaFingerPrints) : Bool :=
  prints.width == other.width &&
    (List.range prints.width).all fun y =>
      prints.fingerPrints.getD y [] == other.fingerPrints.getD y []

theorem is_equal_refl (prints : AreaFingerPrints) : isEqual prints prints = true := by
  simp [isEqual]

end AreaFingerPrints

section Defined

variable {prints : AreaFingerPrints} {image : QImage} {area : QRect}

theorem update_defined (inside : ColumnsInside prints image area) :
    AreaFingerPrints.updateFromImage prints image area =
      some (prints.updateFromImage image area) := by
  refine if_pos ?_
  rw [List.all_eq_true]
  intro offset member
  have bound := List.mem_range.mp member
  have limits := inside (by omega)
  rw [Bool.and_eq_true, decide_eq_true_eq, decide_eq_true_eq]
  omega

theorem update_undefined (outside : ¬ ColumnsInside prints image area) :
    AreaFingerPrints.updateFromImage prints image area = none := by
  refine if_neg ?_
  rw [List.all_eq_true]
  intro reached
  apply outside
  intro visited
  have first := reached 0 (List.mem_range.mpr (by omega))
  have last := reached (rightLimit prints image area - leftLimit prints image area - 1).toNat
    (List.mem_range.mpr (by omega))
  rw [Bool.and_eq_true, decide_eq_true_eq, decide_eq_true_eq] at first last
  omega

end Defined

section Strips

variable {rect : QRect} {lineHeight lineCount : Int}

theorem mem_line_rects {strip : QRect} :
    strip ∈ AreaFingerPrints.lineRects rect lineHeight lineCount ↔
      (∃ i : Nat, i < lineCount ∧
        strip = QRect.ofSize rect.x1 (rect.y1 + i * lineHeight) rect.width lineHeight) ∨
      (rect.height - lineCount * lineHeight > 0 ∧
        strip = QRect.ofSize rect.x1 (rect.y1 + lineCount * lineHeight) rect.width
          (rect.height - lineCount * lineHeight)) := by
  unfold AreaFingerPrints.lineRects
  dsimp only
  rw [List.mem_append, List.mem_map]
  constructor
  · rintro (⟨i, member, rfl⟩ | remaining)
    · exact Or.inl ⟨i, by rw [List.mem_range] at member; omega, rfl⟩
    · split_ifs at remaining with some
      · exact Or.inr ⟨some, List.mem_singleton.mp remaining⟩
      · exact absurd remaining List.not_mem_nil
  · rintro (⟨i, below, rfl⟩ | ⟨some, rfl⟩)
    · exact Or.inl ⟨i, List.mem_range.mpr (by omega), rfl⟩
    · right
      rw [if_pos some]
      exact List.mem_singleton.mpr rfl

theorem strip_inside (positive : 0 < lineHeight) (count : 0 ≤ lineCount)
    (fits : lineCount * lineHeight ≤ rect.height)
    {strip : QRect} (member : strip ∈ AreaFingerPrints.lineRects rect lineHeight lineCount) :
    strip.x1 = rect.x1 ∧ strip.x2 = rect.x2 ∧ rect.y1 ≤ strip.y1 ∧ strip.y2 ≤ rect.y2 ∧
      strip.y1 ≤ strip.y2 := by
  rcases mem_line_rects.mp member with ⟨i, below, rfl⟩ | ⟨some, rfl⟩
  · have upper : (i + 1) * lineHeight ≤ lineCount * lineHeight :=
      Int.mul_le_mul_of_nonneg_right (by omega) (by omega)
    have lower : 0 ≤ i * lineHeight := Int.mul_nonneg (by omega) (by omega)
    rw [Int.add_mul, Int.one_mul] at upper
    simp only [QRect.ofSize, QRect.width, QRect.height] at fits ⊢
    refine ⟨trivial, ?_, ?_, ?_, ?_⟩ <;> omega
  · have lower : 0 ≤ lineCount * lineHeight := Int.mul_nonneg count (by omega)
    simp only [QRect.ofSize, QRect.width, QRect.height] at some fits ⊢
    refine ⟨trivial, ?_, ?_, ?_, ?_⟩ <;> omega

theorem row_in_strip (positive : 0 < lineHeight) {row : Int}
    (top : rect.y1 ≤ row) (bottom : row ≤ rect.y2) :
    ∃ strip ∈ AreaFingerPrints.lineRects rect lineHeight lineCount,
      strip.y1 ≤ row ∧ row ≤ strip.y2 := by
  by_cases whole : row - rect.y1 < lineCount * lineHeight
  · have index := Int.ediv_lt_of_lt_mul positive whole
    have start := Int.mul_ediv_self_le (x := row - rect.y1) (k := lineHeight) (by omega)
    have stop := Int.lt_mul_ediv_self_add (x := row - rect.y1) positive
    have natural : 0 ≤ (row - rect.y1) / lineHeight := Int.ediv_nonneg (by omega) (by omega)
    refine ⟨_, mem_line_rects.mpr (Or.inl ⟨((row - rect.y1) / lineHeight).toNat, by omega, rfl⟩), ?_⟩
    rw [Int.toNat_of_nonneg natural, Int.mul_comm]
    simp only [QRect.ofSize]
    omega
  · refine ⟨_, mem_line_rects.mpr (Or.inr ⟨?_, rfl⟩), ?_⟩
    · unfold QRect.height
      omega
    · simp only [QRect.ofSize, QRect.height]
      omega

end Strips

section Fold

variable {image : QImage} {prints : AreaFingerPrints}

/-- Strips whose columns the table has are all updated, each painting its hashes. -/
theorem update_strips (strips : List QRect) (hashing : Hashing prints image)
    (inside : ∀ strip ∈ strips, ColumnsInside prints image strip) :
    ∃ result, strips.foldlM
        (fun prints partRect => AreaFingerPrints.updateFromImage prints image partRect) prints =
          some result ∧
      Table result ∧ result.hashedArea = prints.hashedArea ∧ result.width = prints.width ∧
      result.height = prints.height ∧
      storedHash result = paintAll (storedHash prints) (strips.map (updatePatch prints image)) := by
  induction strips generalizing prints with
  | nil => exact ⟨prints, rfl, hashing.table, rfl, rfl, rfl, rfl⟩
  | cons strip strips induction =>
      have first := inside strip List.mem_cons_self
      have updated : Hashing (prints.updateFromImage image strip) image :=
        ⟨update_table hashing.table, hashing.tall, hashing.wide, hashing.columns, hashing.rows⟩
      obtain ⟨result, run, table, hashedArea, width, height, stored⟩ := induction updated
        fun other member => inside other (List.mem_cons_of_mem _ member)
      refine ⟨result, ?_, table, hashedArea, width, height, ?_⟩
      · rw [List.foldlM_cons, update_defined first]
        exact run
      · rw [stored, List.map_cons, paint_all_cons]
        have painted : storedHash (prints.updateFromImage image strip) =
            paint (storedHash prints) (updatePatch prints image strip) :=
          funext (stored_update hashing first)
        rw [painted]
        rfl

end Fold

section Sized

variable {image : QImage} {area : QRect} {templateWidth : Int}

theorem updated_empty (empty : (area.intersected image.rect).isEmpty = true) :
    updatedArea (sizedPrints image area templateWidth) image (area.intersected image.rect) =
      QRect.null := by
  have corners := image_rect_corners image
  have extent := common_extent image area
  have again := common_extent image (area.intersected image.rect)
  have alone : ∀ rect : QRect, rect.intersected QRect.null = QRect.null := by
    intro rect
    simp [QRect.intersected, QRect.isNull, QRect.null]
  show (area.intersected image.rect).intersected
    ((area.intersected image.rect).intersected image.rect) = QRect.null
  rcases extent with null | bounds
  · rw [null, QRect.intersected_comm]
    exact alone _
  · have part := @QRect.intersected_within image.rect (area.intersected image.rect)
      (by omega) (by omega)
    rw [QRect.intersected_comm image.rect] at part
    rcases part with null | inside
    · rw [null]
      exact alone _
    · exact QRect.intersected_thin (by omega) (by omega) (by omega) (by omega) (by omega)
        (by omega) empty

theorem updated_filled (filled : (area.intersected image.rect).isEmpty = false) :
    updatedArea (sizedPrints image area templateWidth) image (area.intersected image.rect) =
      area.intersected image.rect := by
  unfold updatedArea
  rw [clipped_again filled]
  exact QRect.intersected_inside filled ⟨Int.le_refl _, Int.le_refl _⟩
    ⟨Int.le_refl _, Int.le_refl _⟩

/-- An area of the image whose windows all have their own column in the table. -/
def WindowsInTable (image : QImage) (area : QRect) (templateWidth : Int) : Prop :=
  area.isEmpty = true ∨
    ((min templateWidth (area.width + 1) = 1 ∨ area.x1 = 0) ∧
      (min templateWidth (area.width + 1) ≤ 2 ∨ area.x2 = image.width - 1))

theorem sized_columns_iff (positive : 1 ≤ templateWidth) :
    ColumnsInside (sizedPrints image area templateWidth) image (area.intersected image.rect) ↔
      WindowsInTable image (area.intersected image.rect) templateWidth := by
  have size := common_size image area
  have width := (@sized_prints_size image area templateWidth).1
  have template := @sized_template_width image area templateWidth
  unfold ColumnsInside WindowsInTable leftLimit rightLimit
  rw [template, width]
  show (_ → (area.intersected image.rect).x1 ≤ _ ∧ _ ≤ (area.intersected image.rect).x1 + _) ↔ _
  cases empty : (area.intersected image.rect).isEmpty with
  | true =>
      rw [updated_empty empty]
      apply iff_of_true
      · intro visited
        simp only [QRect.null, QRect.width] at visited
        omega
      · exact Or.inl rfl
  | false =>
      have ordered := QRect.not_is_empty_iff.mp empty
      rw [updated_filled empty]
      rcases common_extent image area with null | bounds
      · rw [null] at empty
        cases empty
      · simp only [Bool.false_eq_true, false_or, QRect.width] at size ⊢
        omega

end Sized

section Threaded

variable {image : QImage} {area : QRect} {templateWidth idealThreadCount : Int}

theorem threaded_eq (order : List QRect → List QRect) :
    AreaFingerPrints.initFromImageThreaded idealThreadCount order AreaFingerPrints.create image area
        templateWidth =
      AreaFingerPrints.updateFromImageThreaded idealThreadCount order
        (sizedPrints image area templateWidth) image (area.intersected image.rect) := rfl

theorem plain_eq :
    AreaFingerPrints.initFromImage AreaFingerPrints.create image area templateWidth =
      AreaFingerPrints.updateFromImage (sizedPrints image area templateWidth) image
        (area.intersected image.rect) := rfl

theorem update_congr {prints : AreaFingerPrints} {first second : QRect}
    (same : updatedArea prints image first = updatedArea prints image second) :
    AreaFingerPrints.updateFromImage prints image first =
      AreaFingerPrints.updateFromImage prints image second := by
  unfold AreaFingerPrints.updateFromImage FingerPrintSearch.AreaFingerPrints.updateFromImage
    leftLimit rightLimit
  rw [same]
  unfold updatedArea at same
  rw [same]

theorem threaded_update_eq (order : List QRect → List QRect) (prints : AreaFingerPrints) :
    AreaFingerPrints.updateFromImageThreaded idealThreadCount order prints image area =
      if prints.templateWidth.tdiv idealThreadCount = 0 then none
      else if (updatedArea prints image area).height.tdiv
          (prints.templateWidth.tdiv idealThreadCount) = 0 then
        AreaFingerPrints.updateFromImage prints image (updatedArea prints image area)
      else (order (AreaFingerPrints.lineRects (updatedArea prints image area)
          (prints.templateWidth.tdiv idealThreadCount)
          ((updatedArea prints image area).height.tdiv
            (prints.templateWidth.tdiv idealThreadCount)))).foldlM
        (fun prints partRect => AreaFingerPrints.updateFromImage prints image partRect) prints := rfl

section Painted

variable (filled : (area.intersected image.rect).isEmpty = false)

include filled

theorem updated_strip {strip : QRect}
    (columns : strip.x1 = (area.intersected image.rect).x1 ∧
      strip.x2 = (area.intersected image.rect).x2)
    (rows : (area.intersected image.rect).y1 ≤ strip.y1 ∧
      strip.y2 ≤ (area.intersected image.rect).y2 ∧ strip.y1 ≤ strip.y2) :
    updatedArea (sizedPrints image area templateWidth) image strip = strip := by
  have corners := image_rect_corners image
  have ordered := QRect.not_is_empty_iff.mp filled
  have stripFilled : strip.isEmpty = false := by
    rw [QRect.not_is_empty_iff]
    omega
  have inside : strip.intersected image.rect = strip := by
    rcases common_extent image area with null | bounds
    · rw [null] at filled
      cases filled
    · exact QRect.intersected_inside stripFilled (by omega) (by omega)
  unfold updatedArea
  rw [inside, QRect.intersected_comm]
  exact QRect.intersected_inside stripFilled
    (show (area.intersected image.rect).x1 ≤ _ ∧ _ ≤ (area.intersected image.rect).x2 by omega)
    (show (area.intersected image.rect).y1 ≤ _ ∧ _ ≤ (area.intersected image.rect).y2 by omega)

theorem strip_limits {strip : QRect}
    (columns : strip.x1 = (area.intersected image.rect).x1 ∧
      strip.x2 = (area.intersected image.rect).x2)
    (rows : (area.intersected image.rect).y1 ≤ strip.y1 ∧
      strip.y2 ≤ (area.intersected image.rect).y2 ∧ strip.y1 ≤ strip.y2) :
    leftLimit (sizedPrints image area templateWidth) image strip =
        leftLimit (sizedPrints image area templateWidth) image (area.intersected image.rect) ∧
      rightLimit (sizedPrints image area templateWidth) image strip =
        rightLimit (sizedPrints image area templateWidth) image (area.intersected image.rect) := by
  unfold leftLimit rightLimit QRect.width
  rw [updated_strip filled columns rows, updated_filled filled, columns.1, columns.2]
  exact ⟨rfl, rfl⟩

/-- Painting the strips in any order is painting the area. -/
theorem paint_strips {lineHeight lineCount : Int} (high : 0 < lineHeight) (count : 0 ≤ lineCount)
    (fits : lineCount * lineHeight ≤ (area.intersected image.rect).height) {strips : List QRect}
    (ordered : strips.Perm
      (AreaFingerPrints.lineRects (area.intersected image.rect) lineHeight lineCount))
    (canvas : Nat × Nat → Option AreaFingerPrintHash) :
    paintAll canvas
        (strips.map (updatePatch (sizedPrints image area templateWidth) image)) =
      paint canvas (updatePatch (sizedPrints image area templateWidth) image
        (area.intersected image.rect)) := by
  funext place
  have covers : ∀ strip ∈ strips,
      ((updatePatch (sizedPrints image area templateWidth) image strip).covers place = true ↔
        (leftLimit (sizedPrints image area templateWidth) image (area.intersected image.rect) ≤
            (area.intersected image.rect).x1 + place.1 ∧
          (area.intersected image.rect).x1 + place.1 <
            rightLimit (sizedPrints image area templateWidth) image
              (area.intersected image.rect)) ∧
        strip.y1 ≤ (area.intersected image.rect).y1 + place.2 ∧
          (area.intersected image.rect).y1 + place.2 ≤ strip.y2) := by
    intro strip member
    have inside := strip_inside high count fits (ordered.mem_iff.mp member)
    have limits := @strip_limits image area templateWidth filled strip ⟨inside.1, inside.2.1⟩
      inside.2.2
    unfold updatePatch
    dsimp only
    rw [decide_eq_true_eq, limits.1, limits.2,
      updated_strip filled ⟨inside.1, inside.2.1⟩ inside.2.2, and_assoc]
    rfl
  have whole : (updatePatch (sizedPrints image area templateWidth) image
      (area.intersected image.rect)).covers place = true ↔
        (leftLimit (sizedPrints image area templateWidth) image (area.intersected image.rect) ≤
            (area.intersected image.rect).x1 + place.1 ∧
          (area.intersected image.rect).x1 + place.1 <
            rightLimit (sizedPrints image area templateWidth) image
              (area.intersected image.rect)) ∧
        (area.intersected image.rect).y1 ≤ (area.intersected image.rect).y1 + place.2 ∧
          (area.intersected image.rect).y1 + place.2 ≤ (area.intersected image.rect).y2 := by
    unfold updatePatch
    dsimp only
    rw [decide_eq_true_eq, updated_filled filled, and_assoc]
    rfl
  apply paint_all_target
  · intro patch member covered
    obtain ⟨strip, stripMember, rfl⟩ := List.mem_map.mp member
    have inside := strip_inside high count fits (ordered.mem_iff.mp stripMember)
    have hit := (covers strip stripMember).mp covered
    have wholeHit := whole.mpr ⟨hit.1, by omega⟩
    unfold paint
    rw [if_pos wholeHit]
    rfl
  · by_cases hit : (updatePatch (sizedPrints image area templateWidth) image
        (area.intersected image.rect)).covers place = true
    · right
      have bounds := whole.mp hit
      obtain ⟨strip, member, rows⟩ := @row_in_strip _ lineHeight lineCount high _ bounds.2.1
        bounds.2.2
      have stripMember := ordered.mem_iff.mpr member
      exact ⟨_, List.mem_map_of_mem stripMember,
        (covers strip stripMember).mpr ⟨bounds.1, rows⟩⟩
    · left
      unfold paint
      rw [if_neg hit]

end Painted

/-- Where no division by zero and no missing column is in the way, the strips give the
fingerprints of the plain version. -/
theorem threaded_is_plain (positive : 1 ≤ templateWidth) (threads : 1 ≤ idealThreadCount)
    (enough : idealThreadCount ≤ templateWidth)
    (enoughColumns : idealThreadCount ≤ (area.intersected image.rect).width + 1)
    (inside : WindowsInTable image (area.intersected image.rect) templateWidth)
    {order : List QRect → List QRect} (ordered : ∀ strips, (order strips).Perm strips) :
    AreaFingerPrints.initFromImageThreaded idealThreadCount order AreaFingerPrints.create image area
        templateWidth =
      AreaFingerPrints.initFromImage AreaFingerPrints.create image area templateWidth := by
  have size := common_size image area
  have columns := (sized_columns_iff positive).mpr inside
  have template := @sized_template_width image area templateWidth
  have quotient : (sizedPrints image area templateWidth).templateWidth.tdiv idealThreadCount =
      (sizedPrints image area templateWidth).templateWidth / idealThreadCount :=
    Int.tdiv_eq_ediv_of_nonneg (by omega)
  have high : 1 ≤ (sizedPrints image area templateWidth).templateWidth / idealThreadCount :=
    (Int.le_ediv_iff_mul_le (by omega)).mpr (by omega)
  rw [threaded_eq, plain_eq, threaded_update_eq, quotient, if_neg (by omega)]
  cases empty : (area.intersected image.rect).isEmpty with
  | true =>
      have again : updatedArea (sizedPrints image area templateWidth) image QRect.null =
          QRect.null := by
        simp [updatedArea, QRect.intersected, QRect.isNull, QRect.null]
      rw [updated_empty empty]
      refine (if_pos (Int.zero_tdiv _)).trans ?_
      exact update_congr (again.trans (updated_empty empty).symm)
  | false =>
      rw [updated_filled empty, Int.tdiv_eq_ediv_of_nonneg size.2]
      have fits := Int.ediv_mul_le (area.intersected image.rect).height (b :=
        (sizedPrints image area templateWidth).templateWidth / idealThreadCount) (by omega)
      split_ifs with few
      · rfl
      · have count : 0 ≤ (area.intersected image.rect).height /
            ((sizedPrints image area templateWidth).templateWidth / idealThreadCount) :=
          Int.ediv_nonneg size.2 (by omega)
        obtain ⟨result, run, table, hashedArea, width, height, stored⟩ := update_strips
          (order (AreaFingerPrints.lineRects (area.intersected image.rect) _ _))
          (sized_hashing positive) (by
            intro strip member
            have within := strip_inside high count fits ((ordered _).mem_iff.mp member)
            have limits := @strip_limits image area templateWidth empty strip
              ⟨within.1, within.2.1⟩ within.2.2
            unfold ColumnsInside
            rw [limits.1, limits.2]
            exact columns)
        rw [run, update_defined columns]
        congr 1
        rw [paint_strips empty high count fits (ordered _)] at stored
        apply table_ext table (update_table (sized_hashing positive).table) width height hashedArea
        intro column _ row _
        rw [stored]
        exact (stored_update (sized_hashing positive) columns (column, row)).symm

/-- The threaded version is defined and equal to the plain one in every order exactly if there
are at most as many threads as the template is wide, or the area with one more column, and the
area reaches the sides of the image as far as the template asks for it. -/
theorem threaded_equals_plain_iff (positive : 1 ≤ templateWidth) (threads : 1 ≤ idealThreadCount) :
    (∀ order : List QRect → List QRect, (∀ strips, (order strips).Perm strips) →
      ∃ threaded plain : AreaFingerPrints,
        AreaFingerPrints.initFromImageThreaded idealThreadCount order AreaFingerPrints.create image
            area templateWidth = some threaded ∧
          AreaFingerPrints.initFromImage AreaFingerPrints.create image area templateWidth =
              some plain ∧
            AreaFingerPrints.isEqual threaded plain = true) ↔
      idealThreadCount ≤ templateWidth ∧
        idealThreadCount ≤ (area.intersected image.rect).width + 1 ∧
          WindowsInTable image (area.intersected image.rect) templateWidth := by
  constructor
  · intro equal
    obtain ⟨threaded, plain, threadedRun, plainRun, _⟩ := equal id fun strips => List.Perm.refl _
    have columns : ColumnsInside (sizedPrints image area templateWidth) image
        (area.intersected image.rect) := by
      by_contra outside
      rw [plain_eq, update_undefined outside] at plainRun
      cases plainRun
    have size := common_size image area
    have template := @sized_template_width image area templateWidth
    have enough : idealThreadCount ≤ (sizedPrints image area templateWidth).templateWidth := by
      by_contra few
      have zero : (sizedPrints image area templateWidth).templateWidth.tdiv idealThreadCount = 0 :=
        Int.tdiv_eq_zero_of_lt (by omega) (by omega)
      rw [threaded_eq, threaded_update_eq, if_pos zero] at threadedRun
      cases threadedRun
    exact ⟨by omega, by omega, (sized_columns_iff positive).mp columns⟩
  · rintro ⟨enough, enoughColumns, inside⟩ order ordered
    have same := threaded_is_plain positive threads enough enoughColumns inside ordered
    have plain := update_defined ((sized_columns_iff positive).mpr inside)
    exact ⟨_, _, same.trans plain, plain, AreaFingerPrints.is_equal_refl _⟩

end Threaded

/-- Two threads for templates of two columns, over a whole image, the lower strip first. -/
theorem two_threads_equal_plain :
    ∃ threaded plain : AreaFingerPrints,
      AreaFingerPrints.initFromImageThreaded 2 List.reverse AreaFingerPrints.create
          ⟨3, 2, fun _ => 1⟩ ⟨0, 0, 2, 1⟩ 2 = some threaded ∧
        AreaFingerPrints.initFromImage AreaFingerPrints.create ⟨3, 2, fun _ => 1⟩ ⟨0, 0, 2, 1⟩ 2 =
            some plain ∧
          AreaFingerPrints.isEqual threaded plain = true :=
  (threaded_equals_plain_iff (by decide) (by decide)).mpr
    ⟨by decide, by decide, Or.inr ⟨Or.inr (by decide), Or.inl (by decide)⟩⟩
    List.reverse List.reverse_perm

/-- Two threads and templates of one column: the strips would have no rows. -/
theorem more_threads_than_columns :
    ¬ ∀ (image : QImage) (area : QRect) (templateWidth idealThreadCount : Int),
      1 ≤ templateWidth → 1 ≤ idealThreadCount →
      ∀ order : List QRect → List QRect, (∀ strips, (order strips).Perm strips) →
        ∃ threaded plain : AreaFingerPrints,
          AreaFingerPrints.initFromImageThreaded idealThreadCount order AreaFingerPrints.create image
              area templateWidth = some threaded ∧
            AreaFingerPrints.initFromImage AreaFingerPrints.create image area templateWidth =
                some plain ∧
              AreaFingerPrints.isEqual threaded plain = true := by
  intro equal
  obtain ⟨threaded, _, run, _⟩ := equal ⟨1, 1, fun _ => 0⟩ ⟨0, 0, 0, 0⟩ 1 2 (by decide) (by decide)
    id fun strips => List.Perm.refl _
  have undefined : AreaFingerPrints.initFromImageThreaded 2 id AreaFingerPrints.create
      ⟨1, 1, fun _ => 0⟩ ⟨0, 0, 0, 0⟩ 1 = none := rfl
  rw [undefined] at run
  cases run

end Viridity.FingerPrintStrips
