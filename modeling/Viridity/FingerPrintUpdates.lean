import Viridity.FingerPrintSearch
import Viridity.PaintedCanvas

/-!
# Updates of the fingerprints

The fingerprints of an image are a table with one hash for each column and row. An update
paints the hashes of some rows over a range of columns; it stops one column short of the
right edge of its area.
-/

namespace Viridity.FingerPrintUpdates

open Viridity.QtRectangle
open Viridity.ImageAux
open Viridity.PaintedCanvas
open Viridity.FingerPrintSearch

set_option autoImplicit false

section Lists

variable {Value : Type}

/-- What a loop that changes the items behind `start` one after the other leaves. -/
theorem get_foldl_modify (change : Nat → Value → Value) (start count : Nat) (items : List Value)
    (index : Nat) :
    ((List.range count).foldl
        (fun items offset => items.modify (start + offset) (change offset)) items)[index]? =
      if start ≤ index ∧ index < start + count then
        items[index]?.map (change (index - start))
      else items[index]? := by
  induction count with
  | zero => rw [List.range_zero, List.foldl_nil, if_neg (by omega)]
  | succ count induction =>
      rw [List.range_succ, List.foldl_append, List.foldl_cons, List.foldl_nil,
        List.getElem?_modify, induction]
      by_cases here : start + count = index
      · rw [← here, if_neg (by omega), if_pos (by omega), Nat.add_sub_cancel_left]
        simp
      · by_cases earlier : start ≤ index ∧ index < start + count
        · rw [if_pos earlier, if_pos (by omega)]
          simp [here]
        · rw [if_neg earlier, if_neg (by omega)]
          simp [here]

theorem length_foldl_modify (change : Nat → Value → Value) (place : Nat → Nat) (offsets : List Nat)
    (items : List Value) :
    (offsets.foldl (fun items offset => items.modify (place offset) (change offset))
      items).length = items.length := by
  induction offsets generalizing items with
  | nil => rfl
  | cons offset offsets induction =>
      rw [List.foldl_cons, induction, List.length_modify]

end Lists

/-- The hashes are a table of `width` columns with `height` rows. -/
structure Table (prints : AreaFingerPrints) : Prop where
  columns : prints.fingerPrints.length = prints.width
  rows : ∀ column ∈ prints.fingerPrints, column.length = prints.height

def storedHash (prints : AreaFingerPrints) (place : Nat × Nat) : Option AreaFingerPrintHash :=
  prints.fingerPrints[place.1]?.bind fun column => column[place.2]?

theorem table_ext {first second : AreaFingerPrints} (left : Table first) (right : Table second)
    (width : first.width = second.width) (height : first.height = second.height)
    (area : first.hashedArea = second.hashedArea)
    (same : ∀ column < first.width, ∀ row < first.height,
      storedHash first (column, row) = storedHash second (column, row)) : first = second := by
  have columns : first.fingerPrints = second.fingerPrints := by
    apply List.ext_getElem
    · rw [left.columns, right.columns, width]
    · intro column inFirst inSecond
      have leftRows := left.rows _ (List.getElem_mem inFirst)
      have rightRows := right.rows _ (List.getElem_mem inSecond)
      apply List.ext_getElem
      · rw [leftRows, rightRows, height]
      · intro row inLeft inRight
        have hash := same column (left.columns ▸ inFirst) row (leftRows ▸ inLeft)
        simpa [storedHash, inFirst, inSecond, inLeft, inRight] using hash
  cases first
  cases second
  simp_all

section Update

variable (prints : AreaFingerPrints) (image : QImage) (area : QRect)

def updatedArea : QRect := prints.hashedArea.intersected (area.intersected image.rect)

def leftLimit : Int := max 0 ((updatedArea prints image area).x1 - prints.templateWidth + 1)

def rightLimit : Int :=
  min (image.width - prints.templateWidth + 1)
    ((updatedArea prints image area).x1 + (updatedArea prints image area).width - 1)

/-- The columns an update writes are columns of the table. -/
def ColumnsInside : Prop :=
  leftLimit prints image area < rightLimit prints image area →
    prints.hashedArea.x1 ≤ leftLimit prints image area ∧
      rightLimit prints image area ≤ prints.hashedArea.x1 + prints.width

def updatePatch : Patch (Nat × Nat) (Option AreaFingerPrintHash) where
  covers place :=
    decide (leftLimit prints image area ≤ prints.hashedArea.x1 + place.1 ∧
      prints.hashedArea.x1 + place.1 < rightLimit prints image area ∧
      (updatedArea prints image area).y1 ≤ prints.hashedArea.y1 + place.2 ∧
      prints.hashedArea.y1 + place.2 ≤ (updatedArea prints image area).y2)
  colour place :=
    some (hashLine image (prints.hashedArea.x1 + place.1) (prints.hashedArea.y1 + place.2)
      prints.templateWidth)

end Update

section Rows

variable (print : AreaFingerPrint) (image : QImage) (area : QRect) (startIndex : Int)

theorem update_rows_eq (forward : 0 ≤ startIndex) : updateRows print image area startIndex =
    (List.range (min (area.intersected image.rect).height (print.length - startIndex)).toNat).foldl
      (fun data y => data.modify (startIndex.toNat + y) fun _ =>
        hashLine image (area.intersected image.rect).x1 ((area.intersected image.rect).y1 + y)
          (area.intersected image.rect).width) print := by
  unfold updateRows
  dsimp only
  split_ifs with beyond
  · have nothing : (min (area.intersected image.rect).height (print.length - startIndex)).toNat = 0 := by
      omega
    rw [nothing]
    rfl
  · congr 1
    funext data y
    rw [List.set_eq_modify, Int.toNat_add forward (Int.natCast_nonneg y), Int.toNat_natCast]

theorem update_rows_length : (updateRows print image area startIndex).length = print.length := by
  unfold updateRows
  dsimp only
  split_ifs
  · rfl
  · simp only [List.set_eq_modify]
    exact length_foldl_modify (fun y _ => hashLine image (area.intersected image.rect).x1
      ((area.intersected image.rect).y1 + (y : Int)) (area.intersected image.rect).width) _ _ _

theorem get_update_rows (forward : 0 ≤ startIndex) (row : Nat) :
    (updateRows print image area startIndex)[row]? =
      if startIndex ≤ row ∧ row < startIndex + (area.intersected image.rect).height then
        print[row]?.map fun _ =>
          hashLine image (area.intersected image.rect).x1
            ((area.intersected image.rect).y1 + (row - startIndex))
            (area.intersected image.rect).width
      else print[row]? := by
  rw [update_rows_eq _ _ _ _ forward]
  rw [get_foldl_modify (fun y _ => hashLine image (area.intersected image.rect).x1
    ((area.intersected image.rect).y1 + (y : Int)) (area.intersected image.rect).width)]
  by_cases there : row < print.length
  · by_cases written : startIndex ≤ row ∧ row < startIndex + (area.intersected image.rect).height
    · rw [if_pos written, if_pos (by omega)]
      have offset : ((row - startIndex.toNat : Nat) : Int) = row - startIndex := by omega
      rw [offset]
    · rw [if_neg written, if_neg (by omega)]
  · have missing := List.getElem?_eq_none_iff.mpr (Nat.le_of_not_lt there)
    rw [missing]
    split_ifs <;> rfl

end Rows

section Painting

variable {prints : AreaFingerPrints} {image : QImage} {area : QRect}

theorem update_table (table : Table prints) : Table (prints.updateFromImage image area) := by
  constructor
  · exact (length_foldl_modify _ _ _ _).trans table.columns
  · have kept : ∀ (offsets : List Nat) (place : Nat → Nat)
        (change : Nat → AreaFingerPrint → AreaFingerPrint) (items : List AreaFingerPrint),
        (∀ offset column, (change offset column).length = column.length) →
        (∀ column ∈ items, column.length = prints.height) →
        ∀ column ∈ offsets.foldl (fun items offset => items.modify (place offset) (change offset)) items,
          column.length = prints.height := by
      intro offsets place change
      induction offsets with
      | nil =>
          intro items _ heights
          exact heights
      | cons offset offsets induction =>
          intro items lengths heights
          apply induction _ lengths
          intro column member
          obtain ⟨index, inside, same⟩ := List.mem_iff_getElem.mp member
          rw [List.getElem_modify] at same
          split_ifs at same
          · rw [← same, lengths]
            exact heights _ (List.getElem_mem _)
          · rw [← same]
            exact heights _ (List.getElem_mem _)
    exact kept _ _ _ _ (fun _ _ => update_rows_length _ _ _ _) table.rows

/-- The fingerprints belong to an area of the image, with a row for each of its rows. -/
structure Hashing (prints : AreaFingerPrints) (image : QImage) : Prop where
  table : Table prints
  tall : prints.hashedArea.height = prints.height
  wide : 1 ≤ prints.templateWidth
  columns : 0 ≤ prints.hashedArea.x1 ∧ prints.hashedArea.x1 ≤ prints.hashedArea.x2 + 1
  rows : 0 ≤ prints.hashedArea.y1 ∧ prints.hashedArea.y1 ≤ prints.hashedArea.y2 + 1

theorem updated_rows (hashing : Hashing prints image)
    (visited : leftLimit prints image area < rightLimit prints image area) :
    prints.hashedArea.y1 ≤ (updatedArea prints image area).y1 ∧
      (updatedArea prints image area).y2 ≤ prints.hashedArea.y2 ∧
        (updatedArea prints image area).y2 < image.height ∧
          0 ≤ (updatedArea prints image area).height := by
  have imageExtent : image.rect.x1 ≤ image.rect.x2 + 1 ∧ image.rect.y1 ≤ image.rect.y2 + 1 := by
    simp only [QImage.rect, QRect.ofSize]
    omega
  have bottom : image.rect.y2 = image.height - 1 := by
    simp only [QImage.rect, QRect.ofSize]
    omega
  have notNull : updatedArea prints image area ≠ QRect.null := by
    intro null
    unfold leftLimit rightLimit at visited
    rw [null] at visited
    simp only [QRect.null, QRect.width] at visited
    omega
  have common := @QRect.intersected_within area image.rect imageExtent.1 imageExtent.2
  have first := @QRect.intersected_within (area.intersected image.rect) prints.hashedArea
    hashing.columns.2 hashing.rows.2
  rw [QRect.intersected_comm] at first
  rcases first with null | inHashed
  · exact absurd null notNull
  · rcases common with null | inImage
    · rw [null] at inHashed
      unfold updatedArea at notNull ⊢
      rw [null] at notNull ⊢
      have alone : prints.hashedArea.intersected QRect.null = QRect.null := by
        simp [QRect.intersected, QRect.isNull, QRect.null]
      exact absurd alone notNull
    · have second := @QRect.intersected_within prints.hashedArea (area.intersected image.rect)
        (by omega) (by omega)
      rcases second with null | inCommon
      · exact absurd null notNull
      · unfold updatedArea QRect.height
        omega

theorem window_rect {x y width height : Int} (wide : 1 ≤ width) (left : 0 ≤ x)
    (right : x + width ≤ image.width) (top : 0 ≤ y) (bottom : y + height ≤ image.height) :
    (0 < height → (QRect.ofSize x y width height).intersected image.rect =
      QRect.ofSize x y width height) ∧
    (height = 0 → ((QRect.ofSize x y width height).intersected image.rect).height ≤ 0) := by
  constructor
  · intro high
    apply QRect.intersected_inside
    · rw [QRect.not_is_empty_iff]
      simp only [QRect.ofSize]
      omega
    · simp only [QImage.rect, QRect.ofSize]
      omega
    · simp only [QImage.rect, QRect.ofSize]
      omega
  · intro low
    have within := @QRect.intersected_within image.rect (QRect.ofSize x y width height)
      (by simp only [QRect.ofSize]; omega) (by simp only [QRect.ofSize]; omega)
    rw [QRect.intersected_comm] at within
    rcases within with null | bounds
    · rw [null]
      decide
    · simp only [QRect.height]
      have flat : (QRect.ofSize x y width height).y2 < (QRect.ofSize x y width height).y1 := by
        simp only [QRect.ofSize]
        omega
      omega

/-- The patch of an update covers the visited columns and the rows of the updated area. -/
theorem update_covers_iff {column row : Nat} :
    (updatePatch prints image area).covers (column, row) = true ↔
      (leftLimit prints image area ≤ prints.hashedArea.x1 + column ∧
        prints.hashedArea.x1 + column < rightLimit prints image area) ∧
      ((updatedArea prints image area).y1 ≤ prints.hashedArea.y1 + row ∧
        prints.hashedArea.y1 + row ≤ (updatedArea prints image area).y2) := by
  simp only [updatePatch, decide_eq_true_eq, and_assoc]

theorem update_columns (limits : prints.hashedArea.x1 ≤ leftLimit prints image area) :
    prints.updateFromImage image area = { prints with
      fingerPrints := (List.range (rightLimit prints image area -
        leftLimit prints image area).toNat).foldl
          (fun fingerPrints offset => fingerPrints.modify
            ((leftLimit prints image area - prints.hashedArea.x1).toNat + offset)
            fun column => updateRows column image
              (QRect.ofSize (leftLimit prints image area + offset)
                (updatedArea prints image area).y1 prints.templateWidth
                (updatedArea prints image area).height)
              ((updatedArea prints image area).y1 - prints.hashedArea.y1))
          prints.fingerPrints } := by
  unfold AreaFingerPrints.updateFromImage
  dsimp only
  congr 2
  funext fingerPrints offset
  congr 1
  unfold leftLimit updatedArea at limits ⊢
  omega

theorem update_unvisited
    (unvisited : ¬ leftLimit prints image area < rightLimit prints image area) :
    prints.updateFromImage image area = prints := by
  have nothing : (rightLimit prints image area - leftLimit prints image area).toNat = 0 := by
    omega
  show { prints with fingerPrints := (List.range
    (rightLimit prints image area - leftLimit prints image area).toNat).foldl _ _ } = prints
  rw [nothing]
  rfl

/-- In a visited column the rows of the updated area get the hashes of their windows. -/
theorem updated_column (hashing : Hashing prints image)
    (limits : prints.hashedArea.x1 ≤ leftLimit prints image area ∧
      rightLimit prints image area ≤ prints.hashedArea.x1 + prints.width) {column row : Nat}
    (within : leftLimit prints image area ≤ prints.hashedArea.x1 + column ∧
      prints.hashedArea.x1 + column < rightLimit prints image area) :
    ((prints.fingerPrints[column]?.map fun print => updateRows print image
        (QRect.ofSize (leftLimit prints image area +
            (column - (leftLimit prints image area - prints.hashedArea.x1).toNat : Nat))
          (updatedArea prints image area).y1 prints.templateWidth
          (updatedArea prints image area).height)
        ((updatedArea prints image area).y1 - prints.hashedArea.y1)).bind fun print => print[row]?) =
      paint (storedHash prints) (updatePatch prints image area) (column, row) := by
  have rows := updated_rows hashing (by omega : leftLimit prints image area <
    rightLimit prints image area)
  have top := hashing.rows.1
  have present : column < prints.fingerPrints.length := by
    rw [hashing.table.columns]
    omega
  have height := hashing.table.rows _ (List.getElem_mem present)
  rw [List.getElem?_eq_getElem present, Option.map_some, Option.bind_some,
    get_update_rows _ _ _ _ (by omega)]
  have window := @window_rect image (leftLimit prints image area +
    (column - (leftLimit prints image area - prints.hashedArea.x1).toNat : Nat))
    (updatedArea prints image area).y1 prints.templateWidth
    (updatedArea prints image area).height hashing.wide
    (by unfold leftLimit; omega)
    (by unfold rightLimit at within; omega) (by omega)
    (by simp only [QRect.height]; omega)
  unfold paint storedHash
  by_cases high : 0 < (updatedArea prints image area).height
  · rw [window.1 high]
    simp only [QRect.ofSize, QRect.width, QRect.height] at high ⊢
    by_cases hit : (updatedArea prints image area).y1 ≤ prints.hashedArea.y1 + row ∧
        prints.hashedArea.y1 + row ≤ (updatedArea prints image area).y2
    · rw [if_pos (update_covers_iff.mpr ⟨within, hit⟩)]
      refine (if_pos (by omega)).trans ?_
      have tall := hashing.tall
      simp only [QRect.height] at tall
      rw [List.getElem?_eq_getElem (by omega), Option.map_some]
      simp only [updatePatch, Option.some.injEq]
      congr 1 <;> omega
    · rw [if_neg (fun painted => hit (update_covers_iff.mp painted).2)]
      refine (if_neg (by omega)).trans ?_
      simp [present]
  · have low := window.2 (by omega)
    have unpainted : ¬ (updatePatch prints image area).covers (column, row) = true := by
      rw [update_covers_iff]
      simp only [QRect.height] at high
      omega
    rw [if_neg unpainted]
    refine (if_neg (by omega)).trans ?_
    simp [present]

/-- An update paints the hashes of its area. -/
theorem stored_update (hashing : Hashing prints image) (inside : ColumnsInside prints image area)
    (place : Nat × Nat) :
    storedHash (prints.updateFromImage image area) place =
      paint (storedHash prints) (updatePatch prints image area) place := by
  rcases place with ⟨column, row⟩
  have outside (elsewhere : ¬ (leftLimit prints image area ≤ prints.hashedArea.x1 + column ∧
      prints.hashedArea.x1 + column < rightLimit prints image area)) :
      paint (storedHash prints) (updatePatch prints image area) (column, row) =
        storedHash prints (column, row) :=
    if_neg fun painted => elsewhere (update_covers_iff.mp painted).1
  by_cases visited : leftLimit prints image area < rightLimit prints image area
  · have limits := inside visited
    rw [update_columns limits.1]
    unfold storedHash
    dsimp only
    rw [get_foldl_modify (fun offset column => updateRows column image
      (QRect.ofSize (leftLimit prints image area + offset)
        (updatedArea prints image area).y1 prints.templateWidth
        (updatedArea prints image area).height)
      ((updatedArea prints image area).y1 - prints.hashedArea.y1))]
    by_cases within : leftLimit prints image area ≤ prints.hashedArea.x1 + column ∧
        prints.hashedArea.x1 + column < rightLimit prints image area
    · rw [if_pos (by omega)]
      exact updated_column hashing limits within
    · rw [if_neg (by omega)]
      exact (outside within).symm
  · rw [update_unvisited visited]
    exact (outside (by omega)).symm

end Painting

section Initial

/-- The fingerprints `initFromImage` starts from, before it computes any hash. -/
def sizedPrints (image : QImage) (area : QRect) (templateWidth : Int) : AreaFingerPrints :=
  { AreaFingerPrints.create.initFromSize (area.intersected image.rect).width
      (area.intersected image.rect).height templateWidth with
    hashedArea := area.intersected image.rect }

variable {image : QImage} {area : QRect} {templateWidth : Int}

theorem init_from_image_eq : AreaFingerPrints.create.initFromImage image area templateWidth =
    (sizedPrints image area templateWidth).updateFromImage image (area.intersected image.rect) := rfl

theorem image_rect_corners (image : QImage) : image.rect.x1 = 0 ∧ image.rect.y1 = 0 ∧
    image.rect.x2 = image.width - 1 ∧ image.rect.y2 = image.height - 1 := by
  refine ⟨rfl, rfl, ?_, ?_⟩
  · show (0 : Int) + image.width - 1 = image.width - 1
    omega
  · show (0 : Int) + image.height - 1 = image.height - 1
    omega

theorem common_extent (image : QImage) (area : QRect) :
    area.intersected image.rect = QRect.null ∨
      (0 ≤ (area.intersected image.rect).x1 ∧ (area.intersected image.rect).x2 < image.width ∧
        0 ≤ (area.intersected image.rect).y1 ∧ (area.intersected image.rect).y2 < image.height ∧
        (area.intersected image.rect).x1 ≤ (area.intersected image.rect).x2 + 1 ∧
        (area.intersected image.rect).y1 ≤ (area.intersected image.rect).y2 + 1) := by
  have corners := image_rect_corners image
  have within := @QRect.intersected_within area image.rect (by omega) (by omega)
  rcases within with null | bounds
  · exact Or.inl null
  · right
    omega

theorem clipped_again {image : QImage} {area : QRect}
    (filled : (area.intersected image.rect).isEmpty = false) :
    (area.intersected image.rect).intersected image.rect = area.intersected image.rect := by
  have corners := image_rect_corners image
  have ordered := QRect.not_is_empty_iff.mp filled
  rcases common_extent image area with null | bounds
  · rw [null] at filled
    cases filled
  · exact QRect.intersected_inside filled (by omega) (by omega)

theorem common_size (image : QImage) (area : QRect) :
    0 ≤ (area.intersected image.rect).width ∧ 0 ≤ (area.intersected image.rect).height := by
  rcases common_extent image area with null | bounds
  · rw [null]
    decide
  · simp only [QRect.width, QRect.height]
    omega

theorem sized_prints_size :
    (sizedPrints image area templateWidth).width =
        ((area.intersected image.rect).width - templateWidth + 1).toNat ∧
      (sizedPrints image area templateWidth).height = (area.intersected image.rect).height.toNat ∧
      (sizedPrints image area templateWidth).fingerPrints =
        List.replicate ((area.intersected image.rect).width - templateWidth + 1).toNat
          (List.replicate (area.intersected image.rect).height.toNat AreaFingerPrintHash.zero) := by
  have size := common_size image area
  unfold sizedPrints AreaFingerPrints.initFromSize AreaFingerPrints.create
  dsimp only
  have width : (max 0 ((area.intersected image.rect).width - templateWidth + 1)).toNat =
      ((area.intersected image.rect).width - templateWidth + 1).toNat := by
    omega
  split_ifs with changes
  · exact ⟨width, rfl, by rw [width]⟩
  · simp only [not_or, not_not] at changes
    have none : ((area.intersected image.rect).width - templateWidth + 1).toNat = 0 := by
      omega
    have flat : (area.intersected image.rect).height.toNat = 0 := by
      omega
    rw [none, flat]
    exact ⟨rfl, rfl, rfl⟩

theorem sized_template_width :
    (sizedPrints image area templateWidth).templateWidth =
      min templateWidth ((area.intersected image.rect).width + 1) := by
  have size := common_size image area
  have width := (@sized_prints_size image area templateWidth).1
  unfold AreaFingerPrints.templateWidth
  rw [width]
  show (area.intersected image.rect).width - _ + 1 = _
  omega

theorem sized_hashing (positive : 1 ≤ templateWidth) :
    Hashing (sizedPrints image area templateWidth) image := by
  have size := common_size image area
  obtain ⟨width, height, columns⟩ := @sized_prints_size image area templateWidth
  have extent := common_extent image area
  constructor
  · constructor
    · rw [columns, width, List.length_replicate]
    · intro column member
      rw [columns] at member
      rw [List.eq_of_mem_replicate member, List.length_replicate, height]
  · rw [height]
    exact (Int.toNat_of_nonneg size.2).symm
  · rw [sized_template_width]
    omega
  · show 0 ≤ (area.intersected image.rect).x1 ∧ _
    rcases extent with null | bounds
    · show 0 ≤ (area.intersected image.rect).x1 ∧
        (area.intersected image.rect).x1 ≤ (area.intersected image.rect).x2 + 1
      rw [null]
      decide
    · exact ⟨bounds.1, bounds.2.2.2.2.1⟩
  · show 0 ≤ (area.intersected image.rect).y1 ∧
      (area.intersected image.rect).y1 ≤ (area.intersected image.rect).y2 + 1
    rcases extent with null | bounds
    · rw [null]
      decide
    · exact ⟨bounds.2.2.1, bounds.2.2.2.2.2⟩

theorem stored_sized {column row : Nat}
    (inWidth : column < (sizedPrints image area templateWidth).width)
    (inHeight : row < (sizedPrints image area templateWidth).height) :
    storedHash (sizedPrints image area templateWidth) (column, row) =
      some AreaFingerPrintHash.zero := by
  obtain ⟨width, height, columns⟩ := @sized_prints_size image area templateWidth
  rw [width] at inWidth
  rw [height] at inHeight
  unfold storedHash
  rw [columns]
  simp [inWidth, inHeight]

end Initial

section Rebuild

def rebuilt (image : QImage) (templateWidth : Nat) : AreaFingerPrints :=
  AreaFingerPrints.create.initFromImage image image.rect templateWidth

variable {image : QImage} {templateWidth : Nat}

theorem whole_rect (filled : image.rect.isEmpty = false) :
    image.rect.intersected image.rect = image.rect :=
  QRect.intersected_inside filled ⟨Int.le_refl _, Int.le_refl _⟩ ⟨Int.le_refl _, Int.le_refl _⟩

structure WholeImage (prints : AreaFingerPrints) (image : QImage) (templateWidth : Nat) : Prop where
  hashing : Hashing prints image
  hashedArea : prints.hashedArea = image.rect
  template : prints.templateWidth = templateWidth
  width : (prints.width : Int) = image.width - templateWidth + 1
  height : prints.height = image.height

theorem sized_whole (filled : image.rect.isEmpty = false) (positive : 1 ≤ templateWidth)
    (fits : templateWidth ≤ image.width) :
    WholeImage (sizedPrints image image.rect templateWidth) image templateWidth := by
  have corners := image_rect_corners image
  have sizes := @sized_prints_size image image.rect templateWidth
  have template := @sized_template_width image image.rect templateWidth
  rw [whole_rect filled] at sizes template
  have width : image.rect.width = image.width := by
    unfold QRect.width
    omega
  have height : image.rect.height = image.height := by
    unfold QRect.height
    omega
  rw [width, height] at sizes
  rw [width] at template
  constructor
  · exact sized_hashing (by omega)
  · exact whole_rect filled
  · rw [template]
    omega
  · rw [sizes.1]
    omega
  · rw [sizes.2.1]
    omega

theorem whole_limits {prints : AreaFingerPrints} (whole : WholeImage prints image templateWidth)
    (area : QRect) :
    ColumnsInside prints image area := by
  have corners := image_rect_corners image
  intro visited
  unfold leftLimit rightLimit at visited ⊢
  rw [whole.hashedArea, whole.width]
  rw [whole.template] at visited ⊢
  omega

theorem whole_update {prints : AreaFingerPrints} (whole : WholeImage prints image templateWidth)
    {other : QImage} (area : QRect) :
    WholeImage (prints.updateFromImage other area) image templateWidth := by
  constructor
  · exact ⟨update_table whole.hashing.table, whole.hashing.tall, whole.hashing.wide,
      whole.hashing.columns, whole.hashing.rows⟩
  · exact whole.hashedArea
  · exact whole.template
  · exact whole.width
  · exact whole.height

end Rebuild

section Hashes

variable {before after : QImage} {left row : Int} {width : Nat}

theorem fold_hash_cancel (pixels : List QRgb) (first second : AreaFingerPrintHash) :
    (pixels.foldl AreaFingerPrintHash.add first).hash =
      (pixels.foldl AreaFingerPrintHash.add second).hash ↔ first.hash = second.hash := by
  induction pixels generalizing first second with
  | nil => rfl
  | cons pixel pixels induction =>
      rw [List.foldl_cons, List.foldl_cons, induction]
      exact BitVec.add_left_inj pixel

theorem hash_line_congr
    (same : ∀ x : Nat, x < width → before.pixel ⟨left + x, row⟩ = after.pixel ⟨left + x, row⟩) :
    hashLine before left row width = hashLine after left row width := by
  unfold hashLine
  rw [Int.toNat_natCast]
  apply List.foldl_ext
  intro hash x member
  rw [same x (List.mem_range.mp member)]

theorem hash_line_cons (image : QImage) (left row : Int) (width : Nat) :
    hashLine image left row (width + 1) =
      ((List.range width).map fun (x : Nat) => image.pixel ⟨left + (x + 1), row⟩).foldl
        AreaFingerPrintHash.add (AreaFingerPrintHash.zero.add (image.pixel ⟨left, row⟩)) := by
  unfold hashLine
  rw [show ((width : Int) + 1).toNat = width + 1 from rfl, List.range_succ_eq_map,
    List.foldl_cons, List.foldl_map, List.foldl_map]
  simp

/-- Windows that agree behind their first pixel have one hash only if they agree there too. -/
theorem hash_line_first (positive : 1 ≤ width)
    (same : ∀ x : Nat, 1 ≤ x → x < width →
      before.pixel ⟨left + x, row⟩ = after.pixel ⟨left + x, row⟩) :
    hashLine before left row width = hashLine after left row width ↔
      before.pixel ⟨left, row⟩ = after.pixel ⟨left, row⟩ := by
  obtain ⟨rest, rfl⟩ : ∃ rest, width = rest + 1 := ⟨width - 1, by omega⟩
  constructor
  · intro equal
    have hashes := congrArg AreaFingerPrintHash.hash equal
    have behind : ((List.range rest).map fun (x : Nat) => before.pixel ⟨left + (x + 1), row⟩) =
        (List.range rest).map fun (x : Nat) => after.pixel ⟨left + (x + 1), row⟩ := by
      apply List.map_congr_left
      intro x member
      have inside := List.mem_range.mp member
      exact same (x + 1) (by omega) (by omega)
    rw [Int.natCast_add, Int.natCast_one, hash_line_cons, hash_line_cons, behind,
      fold_hash_cancel] at hashes
    simpa [AreaFingerPrintHash.add, AreaFingerPrintHash.zero] using hashes
  · intro first
    apply hash_line_congr
    intro x inside
    rcases Nat.eq_zero_or_pos x with rfl | later
    · simpa using first
    · exact same x later inside

theorem hash_line_zero (image : QImage) (left row : Int) :
    hashLine image left row 1 = AreaFingerPrintHash.zero ↔ image.pixel ⟨left, row⟩ = 0 := by
  have single : hashLine image left row 1 =
      AreaFingerPrintHash.zero.add (image.pixel ⟨left, row⟩) := by
    simp [hashLine]
  rw [single]
  constructor
  · intro zero
    simpa [AreaFingerPrintHash.add, AreaFingerPrintHash.zero] using
      congrArg AreaFingerPrintHash.hash zero
  · intro black
    rw [black]
    rfl

end Hashes

section Incremental

variable {image before after : QImage} {templateWidth : Nat}

theorem sized_prints_congr (same : before.rect = after.rect) :
    sizedPrints before before.rect templateWidth = sizedPrints after after.rect templateWidth := by
  unfold sizedPrints
  rw [same]

theorem rebuilt_whole (filled : image.rect.isEmpty = false) (positive : 1 ≤ templateWidth)
    (fits : templateWidth ≤ image.width) :
    WholeImage (rebuilt image templateWidth) image templateWidth :=
  whole_update (sized_whole filled positive fits) _

theorem filled_of_row {column row : Nat} (inWidth : column < image.width)
    (inHeight : row < image.height) : image.rect.isEmpty = false := by
  have corners := image_rect_corners image
  rw [QRect.not_is_empty_iff]
  omega

theorem stored_rebuilt (positive : 1 ≤ templateWidth) {column row : Nat}
    (fits : column + templateWidth ≤ image.width) (inHeight : row < image.height) :
    storedHash (rebuilt image templateWidth) (column, row) =
      some (if column + 1 < image.width then hashLine image column row templateWidth
        else AreaFingerPrintHash.zero) := by
  have filled := filled_of_row (show column < image.width by omega) inHeight
  have corners := image_rect_corners image
  have sized := sized_whole filled positive (show templateWidth ≤ image.width by omega)
  have inside := whole_limits sized (image.rect.intersected image.rect)
  have painted := stored_update sized.hashing inside (column, row)
  have updated : updatedArea (sizedPrints image image.rect templateWidth) image
      (image.rect.intersected image.rect) = image.rect := by
    unfold updatedArea
    rw [sized.hashedArea, whole_rect filled, whole_rect filled, whole_rect filled]
  unfold rebuilt
  rw [init_from_image_eq, painted]
  unfold paint updatePatch leftLimit rightLimit
  rw [updated, sized.hashedArea, sized.template, corners.1, corners.2.1, QRect.width,
    corners.1]
  by_cases inner : column + 1 < image.width
  · rw [if_pos inner]
    refine (if_pos (decide_eq_true (by omega))).trans ?_
    dsimp only
    rw [Int.zero_add, Int.zero_add]
  · rw [if_neg inner]
    refine (if_neg ?_).trans ?_
    · intro covered
      have bounds := of_decide_eq_true covered
      omega
    · have width := sized.width
      have height := sized.height
      exact stored_sized (by omega) (by omega)

/-- The fingerprints have the hash of each template-wide row of pixels. -/
def StoresHashes (image : QImage) (templateWidth : Nat) : Prop :=
  ∀ column row : Nat, column + templateWidth ≤ image.width → row < image.height →
    storedHash (rebuilt image templateWidth) (column, row) =
      some (hashLine image column row templateWidth)

theorem stores_hashes_iff (positive : 1 ≤ templateWidth) (fits : templateWidth ≤ image.width) :
    StoresHashes image templateWidth ↔
      (templateWidth = 1 → ∀ row : Nat, row < image.height →
        image.pixel ⟨image.width - 1, row⟩ = 0) := by
  constructor
  · intro stores narrow row inHeight
    have stored := stores (image.width - 1) row (by omega) inHeight
    rw [stored_rebuilt positive (by omega) inHeight, if_neg (by omega), narrow] at stored
    have last : ((image.width - 1 : Nat) : Int) = image.width - 1 := by omega
    rw [last] at stored
    exact (hash_line_zero image _ _).mp (Option.some.inj stored).symm
  · intro black column row inWidth inHeight
    rw [stored_rebuilt positive inWidth inHeight]
    by_cases inner : column + 1 < image.width
    · rw [if_pos inner]
    · have narrow : templateWidth = 1 := by omega
      have last : (column : Int) = image.width - 1 := by omega
      rw [if_neg inner, narrow, last]
      congr 1
      exact ((hash_line_zero image _ _).mpr (black narrow row inHeight)).symm

theorem clipped_area {area : QRect} {point : QPoint} (inArea : point ∈ area)
    (inImage : point ∈ image.rect) :
    area.intersected image.rect = ⟨max area.x1 0, max area.y1 0, min area.x2 (image.width - 1),
      min area.y2 (image.height - 1)⟩ ∧ (area.intersected image.rect).isEmpty = false := by
  have corners := image_rect_corners image
  rcases QRect.intersected_cases (QRect.not_empty_of_mem inArea)
    (QRect.not_empty_of_mem inImage) with ⟨_, apart⟩ | ⟨filled, same⟩
  · exact absurd ⟨inArea, inImage⟩ (apart point)
  · rw [corners.1, corners.2.1, corners.2.2.1, corners.2.2.2] at same
    exact ⟨same, filled⟩

theorem updated_whole {prints : AreaFingerPrints} {area : QRect} {point : QPoint}
    (hashedArea : prints.hashedArea = image.rect) (inArea : point ∈ area)
    (inImage : point ∈ image.rect) :
    updatedArea prints image area = area.intersected image.rect := by
  have corners := image_rect_corners image
  obtain ⟨clipped, filled⟩ := clipped_area inArea inImage
  have inside : (area.intersected image.rect).intersected image.rect =
      area.intersected image.rect := by
    apply QRect.intersected_inside filled
    · rw [clipped]
      dsimp only
      omega
    · rw [clipped]
      dsimp only
      omega
  unfold updatedArea
  rw [hashedArea, QRect.intersected_comm, inside]

section Updated

variable {prints : AreaFingerPrints} {area : QRect} {column row : Nat}

theorem update_covers (whole : WholeImage prints image templateWidth) {point : QPoint}
    (inArea : point ∈ area) (inImage : point ∈ image.rect)
    (fits : column + templateWidth ≤ image.width) :
    (updatePatch prints image area).covers (column, row) = true ↔
      area.x1 < column + templateWidth ∧
        (column < area.x2 ∧ column + 1 < image.width) ∧
          area.y1 ≤ row ∧ row ≤ area.y2 ∧ row < image.height := by
  have corners := image_rect_corners image
  have clipped := (clipped_area inArea inImage).1
  have updated := updated_whole whole.hashedArea inArea inImage
  have member := QRect.mem_iff.mp inArea
  have imageMember := QRect.mem_iff.mp inImage
  have wide := whole.hashing.wide
  rw [whole.template] at wide
  unfold updatePatch leftLimit rightLimit
  rw [updated, clipped, whole.hashedArea, whole.template, corners.1, corners.2.1, QRect.width]
  dsimp only
  rw [decide_eq_true_eq]
  omega

/-- A window that keeps its old hash has changed in its first pixel at most, and then
stands on the right edge of the area. -/
theorem uncovered_window (whole : WholeImage prints image templateWidth)
    (fits : column + templateWidth ≤ image.width) (inHeight : row < image.height)
    (uncovered : (updatePatch prints image area).covers (column, row) ≠ true) {x : Nat}
    (inWindow : x < templateWidth) (inArea : (⟨column + x, row⟩ : QPoint) ∈ area) :
    x = 0 ∧ ((column : Int) = area.x2 ∨ column + 1 = image.width) := by
  have corners := image_rect_corners image
  have inImage : (⟨column + x, row⟩ : QPoint) ∈ image.rect := by
    rw [QRect.mem_iff]
    dsimp only
    omega
  have member := QRect.mem_iff.mp inArea
  rw [Ne, update_covers whole inArea inImage fits] at uncovered
  dsimp only at member
  omega

theorem covered_inner (whole : WholeImage prints image templateWidth)
    (covered : (updatePatch prints image area).covers (column, row) = true) :
    column + 1 < image.width := by
  have corners := image_rect_corners image
  have bounds := of_decide_eq_true covered
  unfold rightLimit at bounds
  rw [whole.hashedArea, QRect.width] at bounds
  have within := @QRect.intersected_within (area.intersected image.rect) image.rect
    (by omega) (by omega)
  rw [QRect.intersected_comm] at within
  unfold updatedArea at bounds
  rw [whole.hashedArea] at bounds
  rcases within with null | inImage
  · rw [null] at bounds
    simp only [QRect.null] at bounds
    omega
  · omega

end Updated

section Equal

variable {area : QRect} (width : before.width = after.width) (height : before.height = after.height)
  (changedInside : ∀ point ∈ after.rect, before.pixel point ≠ after.pixel point → point ∈ area)
  (positive : 1 ≤ templateWidth)

include width height

theorem rect_congr : before.rect = after.rect := by
  unfold QImage.rect
  rw [width, height]

include changedInside positive

/-- One hash after the update is right unless its window starts with a changed pixel on
the right edge of the area. -/
theorem hash_updated_iff {column row : Nat} (fits : column + templateWidth ≤ after.width)
    (inHeight : row < after.height) :
    storedHash ((rebuilt before templateWidth).updateFromImage after area) (column, row) =
        storedHash (rebuilt after templateWidth) (column, row) ↔
      (column + 1 < after.width → (column : Int) = area.x2 → (⟨column, row⟩ : QPoint) ∈ area →
        before.pixel ⟨column, row⟩ = after.pixel ⟨column, row⟩) := by
  have corners := image_rect_corners after
  have filled := filled_of_row (show column < after.width by omega) inHeight
  have rects := rect_congr width height
  have whole : WholeImage (rebuilt before templateWidth) after templateWidth := by
    unfold rebuilt
    rw [init_from_image_eq, sized_prints_congr rects]
    exact whole_update (sized_whole filled positive (by omega)) _
  have inImage : ∀ x : Nat, x < templateWidth → (⟨column + x, row⟩ : QPoint) ∈ after.rect := by
    intro x inWindow
    rw [QRect.mem_iff]
    dsimp only
    omega
  have start : (⟨column + (0 : Nat), row⟩ : QPoint) = ⟨column, row⟩ := by
    rw [Int.natCast_zero, Int.add_zero]
  have oldHash := @stored_rebuilt before templateWidth positive column row (by omega) (by omega)
  rw [stored_update whole.hashing (whole_limits whole area), stored_rebuilt positive fits inHeight]
  unfold paint
  by_cases covered : (updatePatch (rebuilt before templateWidth) after area).covers
      (column, row) = true
  · rw [if_pos covered, if_pos (covered_inner whole covered)]
    apply iff_of_true
    · unfold updatePatch
      dsimp only
      rw [whole.hashedArea, whole.template, corners.1, corners.2.1, Int.zero_add, Int.zero_add]
    · intro _ edge inArea
      have member := inImage 0 (by omega)
      rw [start] at member
      have bounds := (update_covers whole inArea member fits).mp covered
      omega
  · rw [if_neg covered, oldHash, width]
    by_cases inner : column + 1 < after.width
    · rw [if_pos inner, if_pos inner, Option.some.injEq, hash_line_first positive]
      · constructor
        · intro same _ _ _
          exact same
        · intro edge
          by_contra differs
          have member := inImage 0 (by omega)
          rw [start] at member
          have inArea := changedInside _ member differs
          have onEdge := uncovered_window whole fits inHeight covered positive (start ▸ inArea)
          exact differs (edge inner (by omega) inArea)
      · intro x behind inWindow
        by_contra differs
        have inArea := changedInside _ (inImage x inWindow) differs
        have onEdge := uncovered_window whole fits inHeight covered inWindow inArea
        omega
    · rw [if_neg inner, if_neg inner]
      exact iff_of_true rfl fun inside => absurd inside inner

theorem update_rebuilds_iff :
    (rebuilt before templateWidth).updateFromImage after area = rebuilt after templateWidth ↔
      ∀ point ∈ area, point ∈ after.rect → point.x = area.x2 →
        point.x + templateWidth ≤ after.width → point.x + 1 < after.width →
          before.pixel point = after.pixel point := by
  have corners := image_rect_corners after
  have rects := rect_congr width height
  constructor
  · intro same point inArea inImage edge inWidth inner
    have bounds := QRect.mem_iff.mp inImage
    have column : (point.x.toNat : Int) = point.x := Int.toNat_of_nonneg (by omega)
    have row : (point.y.toNat : Int) = point.y := Int.toNat_of_nonneg (by omega)
    have hash := (@hash_updated_iff before after templateWidth area width height changedInside positive
      point.x.toNat point.y.toNat (by omega) (by omega)).mp (by rw [same]) (by omega) (by omega)
    rw [column, row] at hash
    exact hash inArea
  · intro edges
    have sized := @sized_prints_congr before after templateWidth rects
    have sizedTable := (@sized_hashing after after.rect templateWidth (by omega)).table
    have table : Table (rebuilt before templateWidth) := by
      unfold rebuilt
      rw [init_from_image_eq, sized]
      exact update_table sizedTable
    have sizes := @sized_prints_size after after.rect templateWidth
    apply table_ext (update_table table) (update_table sizedTable)
    · show (sizedPrints before before.rect templateWidth).width = _
      rw [sized]
      rfl
    · show (sizedPrints before before.rect templateWidth).height = _
      rw [sized]
      rfl
    · show (sizedPrints before before.rect templateWidth).hashedArea = _
      rw [sized]
      rfl
    · intro column inWidth row inHeight
      change column < (sizedPrints before before.rect templateWidth).width at inWidth
      change row < (sizedPrints before before.rect templateWidth).height at inHeight
      rw [sized, sizes.1] at inWidth
      rw [sized, sizes.2.1] at inHeight
      have extent := common_extent after after.rect
      have inside : column + templateWidth ≤ after.width ∧ row < after.height := by
        unfold QRect.width at inWidth
        unfold QRect.height at inHeight
        rcases extent with null | bounds
        · rw [null] at inHeight
          simp only [QRect.null] at inHeight
          omega
        · omega
      apply (hash_updated_iff width height changedInside positive inside.1 inside.2).mpr
      intro inner edge inArea
      refine edges _ inArea ?_ edge ?_ ?_
      · rw [QRect.mem_iff]
        dsimp only
        omega
      · dsimp only
        omega
      · dsimp only
        omega

/-- The update gives what a rebuild gives, and rebuilds hold every hash, exactly if no window
begins with a changed pixel on the right edge of the area and, for windows of one pixel, the
last column is black. -/
theorem incremental_update_iff (fits : templateWidth ≤ after.width) :
    ((rebuilt before templateWidth).updateFromImage after area = rebuilt after templateWidth ∧
      StoresHashes before templateWidth ∧ StoresHashes after templateWidth) ↔
    (templateWidth = 1 → ∀ row : Nat, row < after.height →
      before.pixel ⟨after.width - 1, row⟩ = 0 ∧ after.pixel ⟨after.width - 1, row⟩ = 0) ∧
    ∀ point ∈ area, point ∈ after.rect → point.x = area.x2 →
      point.x + templateWidth ≤ after.width → before.pixel point = after.pixel point := by
  have corners := image_rect_corners after
  have old := @stores_hashes_iff before templateWidth positive (by omega)
  rw [width, height] at old
  rw [update_rebuilds_iff width height changedInside positive, old,
    stores_hashes_iff positive fits]
  constructor
  · rintro ⟨edges, oldBlack, newBlack⟩
    constructor
    · intro narrow row inHeight
      exact ⟨oldBlack narrow row inHeight, newBlack narrow row inHeight⟩
    · intro point inArea inImage edge inWidth
      by_cases inner : point.x + 1 < after.width
      · exact edges point inArea inImage edge inWidth inner
      · have bounds := QRect.mem_iff.mp inImage
        have last : point = ⟨after.width - 1, (point.y.toNat : Int)⟩ := by
          apply QPoint.ext_coordinates
          · dsimp only
            omega
          · exact (Int.toNat_of_nonneg (by omega)).symm
        rw [last, oldBlack (by omega) point.y.toNat (by omega),
          newBlack (by omega) point.y.toNat (by omega)]
  · rintro ⟨black, edges⟩
    refine ⟨?_, ?_, ?_⟩
    · intro point inArea inImage edge inWidth _
      exact edges point inArea inImage edge inWidth
    · intro narrow row inHeight
      exact (black narrow row inHeight).1
    · intro narrow row inHeight
      exact (black narrow row inHeight).2

end Equal

/-- A row of three pixels whose middle one has changed, in an area that goes on behind it. -/
theorem incremental_update_middle :
    (rebuilt ⟨3, 1, fun _ => 0⟩ 2).updateFromImage
        ⟨3, 1, fun point => if point.x = 1 then 1 else 0⟩ ⟨1, 0, 2, 0⟩ =
      rebuilt ⟨3, 1, fun point => if point.x = 1 then 1 else 0⟩ 2 ∧
    StoresHashes ⟨3, 1, fun _ => 0⟩ 2 ∧
      StoresHashes ⟨3, 1, fun point => if point.x = 1 then 1 else 0⟩ 2 := by
  refine (@incremental_update_iff ⟨3, 1, fun _ => 0⟩
    ⟨3, 1, fun point => if point.x = 1 then 1 else 0⟩ 2 ⟨1, 0, 2, 0⟩ rfl rfl ?_ (by decide)
    (by decide)).mpr ⟨?_, ?_⟩
  · intro point inImage differs
    by_cases middle : point.x = 1
    · have bounds := QRect.mem_iff.mp inImage
      have corners := image_rect_corners ⟨3, 1, fun point => if point.x = 1 then 1 else 0⟩
      rw [QRect.mem_iff]
      dsimp only at corners ⊢
      omega
    · dsimp only at differs
      rw [if_neg middle] at differs
      exact absurd rfl differs
  · intro narrow
    cases narrow
  · intro point _ _ edge inWidth
    dsimp only at edge inWidth
    omega

/-- The only pixel that changes is the area, and the window it begins keeps its old hash. -/
theorem right_edge_not_updated :
    ¬ ∀ (before after : QImage) (templateWidth : Nat) (area : QRect),
      before.width = after.width → before.height = after.height →
      (∀ point ∈ after.rect, before.pixel point ≠ after.pixel point → point ∈ area) →
      1 ≤ templateWidth → templateWidth ≤ after.width →
      (rebuilt before templateWidth).updateFromImage after area = rebuilt after templateWidth ∧
        StoresHashes before templateWidth ∧ StoresHashes after templateWidth := by
  intro updates
  let before : QImage := ⟨2, 1, fun _ => 0⟩
  let after : QImage := ⟨2, 1, fun point => if point.x = 0 then 1 else 0⟩
  have changedInside : ∀ point ∈ after.rect, before.pixel point ≠ after.pixel point →
      point ∈ (⟨0, 0, 0, 0⟩ : QRect) := by
    intro point inImage differs
    by_cases first : point.x = 0
    · have bounds := QRect.mem_iff.mp inImage
      have corners := image_rect_corners after
      have height : after.height = 1 := rfl
      rw [QRect.mem_iff]
      dsimp only
      omega
    · exact absurd (if_neg first).symm differs
  have same := (updates before after 2 ⟨0, 0, 0, 0⟩ rfl rfl changedInside (by decide)
    (by decide)).1
  have edges := (@update_rebuilds_iff before after 2 ⟨0, 0, 0, 0⟩ rfl rfl changedInside
    (by decide)).mp same
  have pixel : (0 : QRgb) = 1 :=
    edges ⟨0, 0⟩ (by decide) (by decide) rfl (by decide) (by decide)
  revert pixel
  decide

end Incremental

end Viridity.FingerPrintUpdates
