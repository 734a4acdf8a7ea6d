import Viridity.QtRectangle

/-!
# ARGB32 images and ImageAux

An image is its size and the pixel at each coordinate; `constScanLine(y) + x` is
read as the pixel at `(x, y)`. Only the pixels inside `rect` are the image, so
images are compared by `SamePixels`.
-/

namespace Viridity.ImageAux

open Viridity.QtRectangle

set_option autoImplicit false

abbrev QRgb := BitVec 32

/-- `none` is the invalid `QColor()`. -/
abbrev QColor := Option QRgb

structure QImage where
  width : Nat
  height : Nat
  pixel : QPoint → QRgb

namespace QImage

def rect (image : QImage) : QRect := QRect.ofSize 0 0 image.width image.height

def fill (image : QImage) (colour : QRgb) : QImage := { image with pixel := fun _ => colour }

def SameSize (first second : QImage) : Prop :=
  first.width = second.width ∧ first.height = second.height

def SamePixels (first second : QImage) : Prop :=
  SameSize first second ∧ ∀ point ∈ first.rect, first.pixel point = second.pixel point

def SharePixel (first second : QImage) : Prop :=
  ∃ source ∈ first.rect, ∃ target ∈ second.rect, first.pixel source = second.pixel target

theorem same_size_rect {first second : QImage} (same : SameSize first second) :
    first.rect = second.rect := by
  simp only [rect, same.1, same.2]

theorem mem_rect {image : QImage} {point : QPoint} :
    point ∈ image.rect ↔
      0 ≤ point.x ∧ point.x < image.width ∧ 0 ≤ point.y ∧ point.y < image.height := by
  simp only [rect, QRect.mem_of_size]
  omega

end QImage

/-- `contentMatches<QRgb>(pBuf1, pBuf2, stride, bytes, height)`: each line is
compared by its first pixel and then by `memcmp`. -/
def contentMatchesAt (buffer1 : QImage) (start1 : QPoint) (buffer2 : QImage) (start2 : QPoint)
    (width height : Int) : Bool :=
  (List.range height.toNat).all fun y =>
    buffer1.pixel ⟨start1.x, start1.y + y⟩ == buffer2.pixel ⟨start2.x, start2.y + y⟩ &&
      (List.range width.toNat).all fun x =>
        buffer1.pixel ⟨start1.x + x, start1.y + y⟩ == buffer2.pixel ⟨start2.x + x, start2.y + y⟩

/-- `contentMatches<QRgb>(buffer1, buffer2, pointBuffer1, rectBuffer2)`. -/
def contentMatches (buffer1 buffer2 : QImage) (pointBuffer1 : QPoint) (rectBuffer2 : QRect) : Bool :=
  let rect1 := (QRect.ofSize pointBuffer1.x pointBuffer1.y rectBuffer2.width
    rectBuffer2.height).intersected buffer1.rect
  let rect2 := rectBuffer2.intersected buffer2.rect
  if rect1.width ≠ rect2.width ∨ rect1.height ≠ rect2.height then false
  else contentMatchesAt buffer1 rect1.topLeft buffer2 rect2.topLeft rect1.width rect1.height

theorem content_matches_at_sound {buffer1 buffer2 : QImage} {start1 start2 : QPoint}
    {width height : Int} (matching : contentMatchesAt buffer1 start1 buffer2 start2 width height = true)
    (x y : Int) (left : 0 ≤ x) (right : x < width) (top : 0 ≤ y) (bottom : y < height) :
    buffer1.pixel ⟨start1.x + x, start1.y + y⟩ = buffer2.pixel ⟨start2.x + x, start2.y + y⟩ := by
  simp only [contentMatchesAt, List.all_eq_true, List.mem_range, Bool.and_eq_true, beq_iff_eq]
    at matching
  have line := (matching y.toNat (by omega)).2 x.toNat (by omega)
  rw [Int.toNat_of_nonneg left, Int.toNat_of_nonneg top] at line
  exact line

theorem content_matches_at_complete {buffer1 buffer2 : QImage} {start1 start2 : QPoint}
    {width height : Int} (positive : 0 < width)
    (same : ∀ x y : Int, 0 ≤ x → x < width → 0 ≤ y → y < height →
      buffer1.pixel ⟨start1.x + x, start1.y + y⟩ = buffer2.pixel ⟨start2.x + x, start2.y + y⟩) :
    contentMatchesAt buffer1 start1 buffer2 start2 width height = true := by
  simp only [contentMatchesAt, List.all_eq_true, List.mem_range, Bool.and_eq_true, beq_iff_eq]
  intro y yBound
  constructor
  · have first := same 0 y (by omega) positive (by omega) (by omega)
    simpa using first
  · intro x xBound
    exact same x y (by omega) (by omega) (by omega) (by omega)

/-- A match of a block that lies in the second image places the whole block in
the first image and makes the contents equal. -/
theorem content_matches_sound {buffer1 buffer2 : QImage} {pointBuffer1 : QPoint}
    {rectBuffer2 : QRect} (first : buffer1.rect.isEmpty = false)
    (block : rectBuffer2.isEmpty = false)
    (inside : ∀ point ∈ rectBuffer2, point ∈ buffer2.rect)
    (matching : contentMatches buffer1 buffer2 pointBuffer1 rectBuffer2 = true) :
    ∀ point ∈ rectBuffer2,
      point.add (pointBuffer1.sub rectBuffer2.topLeft) ∈ buffer1.rect ∧
      buffer1.pixel (point.add (pointBuffer1.sub rectBuffer2.topLeft)) = buffer2.pixel point := by
  have blockBounds := QRect.not_is_empty_iff.mp block
  have second : buffer2.rect.isEmpty = false :=
    QRect.not_empty_of_mem (inside _ (QRect.top_left_mem block))
  have corner := inside ⟨rectBuffer2.x1, rectBuffer2.y1⟩ (by rw [QRect.mem_iff]; simp only; omega)
  have opposite := inside ⟨rectBuffer2.x2, rectBuffer2.y2⟩ (by rw [QRect.mem_iff]; simp only; omega)
  rw [QRect.mem_iff] at corner opposite
  simp only at corner opposite
  have whole : rectBuffer2.intersected buffer2.rect = rectBuffer2 := by
    rcases QRect.intersected_cases block second with ⟨_, apart⟩ | ⟨_, same⟩
    · exact absurd ⟨QRect.top_left_mem block, inside _ (QRect.top_left_mem block)⟩ (apart _)
    · rw [same]
      cases rectBuffer2
      simp only at corner opposite ⊢
      congr 1 <;> omega
  have placed : (QRect.ofSize pointBuffer1.x pointBuffer1.y rectBuffer2.width
      rectBuffer2.height).isEmpty = false := by
    rw [QRect.not_is_empty_iff]
    simp only [QRect.ofSize, QRect.width, QRect.height]
    omega
  simp only [contentMatches, whole] at matching
  split_ifs at matching with sizes
  simp only [not_or, not_not] at sizes
  rcases QRect.intersected_cases placed first with ⟨same, _⟩ | ⟨_, same⟩
  · rw [same] at sizes
    simp only [QRect.width, QRect.height, QRect.null] at sizes
    omega
  · rw [same] at sizes matching
    simp only [QRect.width, QRect.height, QRect.ofSize] at sizes
    intro point member
    rw [QRect.mem_iff] at member
    have pixels := content_matches_at_sound matching (point.x - rectBuffer2.x1)
      (point.y - rectBuffer2.y1) (by omega)
      (by simp only [QRect.width, QRect.ofSize]; omega) (by omega)
      (by simp only [QRect.height, QRect.ofSize]; omega)
    have left : max pointBuffer1.x buffer1.rect.x1 = pointBuffer1.x := by omega
    have top : max pointBuffer1.y buffer1.rect.y1 = pointBuffer1.y := by omega
    simp only [QRect.topLeft, QRect.ofSize, left, top] at pixels
    constructor
    · rw [QRect.mem_iff]
      simp only [QPoint.add, QPoint.sub, QRect.topLeft]
      omega
    · have source : point.add (pointBuffer1.sub rectBuffer2.topLeft) =
          ⟨pointBuffer1.x + (point.x - rectBuffer2.x1), pointBuffer1.y + (point.y - rectBuffer2.y1)⟩ := by
        apply QPoint.ext_coordinates
        · simp only [QPoint.add, QPoint.sub, QRect.topLeft]
          omega
        · simp only [QPoint.add, QPoint.sub, QRect.topLeft]
          omega
      have target : (⟨rectBuffer2.x1 + (point.x - rectBuffer2.x1),
          rectBuffer2.y1 + (point.y - rectBuffer2.y1)⟩ : QPoint) = point := by
        apply QPoint.ext_coordinates
        · simp only
          omega
        · simp only
          omega
      rw [source, pixels, target]

/-- A block that has a single pixel in the second image matches at a position only
if that pixel equals the one it would be read from. -/
theorem content_matches_single {buffer1 buffer2 : QImage} {pointBuffer1 : QPoint}
    {rectBuffer2 : QRect} {point : QPoint} (member : point ∈ rectBuffer2)
    (visible : point ∈ buffer2.rect)
    (single : ∀ other ∈ rectBuffer2, other ∈ buffer2.rect → other = point)
    (source : point.add (pointBuffer1.sub rectBuffer2.topLeft) ∈ buffer1.rect)
    (matching : contentMatches buffer1 buffer2 pointBuffer1 rectBuffer2 = true) :
    buffer1.pixel (point.add (pointBuffer1.sub rectBuffer2.topLeft)) = buffer2.pixel point := by
  have block := QRect.not_empty_of_mem member
  have second := QRect.not_empty_of_mem visible
  have target : (rectBuffer2.intersected buffer2.rect).IsPixel point := by
    have met := (QRect.mem_intersected block second point).mpr ⟨member, visible⟩
    apply QRect.is_pixel_of_single (QRect.not_empty_of_mem met)
    intro other otherMember
    have both := (QRect.mem_intersected block second other).mp otherMember
    exact single other both.1 both.2
  have placed : point.add (pointBuffer1.sub rectBuffer2.topLeft) ∈
      QRect.ofSize pointBuffer1.x pointBuffer1.y rectBuffer2.width rectBuffer2.height := by
    rw [QRect.mem_iff] at member
    rw [QRect.mem_of_size]
    simp only [QPoint.add, QPoint.sub, QRect.topLeft, QRect.width, QRect.height]
    omega
  have met := (QRect.mem_intersected (QRect.not_empty_of_mem placed)
    (QRect.not_empty_of_mem source) _).mpr ⟨placed, source⟩
  simp only [contentMatches] at matching
  split_ifs at matching with sizes
  simp only [not_or, not_not, target.2.1, target.2.2] at sizes
  have origin := QRect.is_pixel_of_extent met sizes.1 sizes.2
  have pixels := content_matches_at_sound matching 0 0 (by omega) (by omega) (by omega) (by omega)
  rw [origin.1, target.1] at pixels
  simp only [Int.add_zero] at pixels
  exact pixels

/-- A match of a block that meets the second image has compared some pixel of it
with a pixel of the first. -/
theorem content_matches_shared {buffer1 buffer2 : QImage} {pointBuffer1 : QPoint}
    {rectBuffer2 : QRect} {point : QPoint} (first : buffer1.rect.isEmpty = false)
    (member : point ∈ rectBuffer2) (visible : point ∈ buffer2.rect)
    (matching : contentMatches buffer1 buffer2 pointBuffer1 rectBuffer2 = true) :
    QImage.SharePixel buffer1 buffer2 := by
  have block := QRect.not_empty_of_mem member
  have second := QRect.not_empty_of_mem visible
  have met := (QRect.mem_intersected block second point).mpr ⟨member, visible⟩
  have target := QRect.not_empty_of_mem met
  simp only [contentMatches] at matching
  split_ifs at matching with sizes
  simp only [not_or, not_not] at sizes
  have extent := QRect.not_is_empty_iff_extent.mp target
  rw [← sizes.1, ← sizes.2] at extent
  have source := QRect.not_is_empty_iff_extent.mpr extent
  have pixels := content_matches_at_sound matching 0 0 (by omega) extent.1 (by omega) extent.2
  simp only [Int.add_zero] at pixels
  exact ⟨_, QRect.mem_right_of_mem_intersected first (QRect.top_left_mem source), _,
    QRect.mem_right_of_mem_intersected second (QRect.top_left_mem target), pixels⟩

def getSolidRectColor (buffer : QImage) (area : QRect) : QColor :=
  let roi := area.intersected buffer.rect
  let solidColor := buffer.pixel roi.topLeft
  if (QRect.rowMajor roi).all fun point => buffer.pixel point == solidColor then some solidColor else none

theorem solid_rect_color_sound {buffer : QImage} {area : QRect} {colour : QRgb}
    (solid : getSolidRectColor buffer area = some colour) (areaFilled : area.isEmpty = false)
    {point : QPoint} (member : point ∈ area) (inside : point ∈ buffer.rect) :
    buffer.pixel point = colour := by
  simp only [getSolidRectColor] at solid
  split_ifs at solid with uniform
  simp only [Option.some.injEq] at solid
  rw [List.all_eq_true] at uniform
  have met : point ∈ area.intersected buffer.rect :=
    (QRect.mem_intersected areaFilled (QRect.not_empty_of_mem inside) point).mpr ⟨member, inside⟩
  have same := uniform point (QRect.mem_row_major.mpr met)
  rw [beq_iff_eq] at same
  rw [same, solid]

def extendChanged (buffer1 buffer2 : QImage) (result : QRect) (point : QPoint) : QRect :=
  if buffer1.pixel point ≠ buffer2.pixel point then
    ⟨min result.x1 point.x, min result.y1 point.y, max result.x2 point.x, max result.y2 point.y⟩
  else result

/-- `findChangedRect32`: the search starts from the turned-round region of
interest, which for a single pixel is that pixel itself. -/
def findChangedRect32 (buffer1 buffer2 : QImage) (searchArea : QRect) : QRect :=
  let roi := (searchArea.intersected buffer1.rect).intersected buffer2.rect
  let result := (QRect.rowMajor roi).foldl (extendChanged buffer1 buffer2)
    (QRect.ofCorners roi.bottomRight roi.topLeft)
  if result.isValid then result else QRect.null

/-- What `findChangedRect32` returns when the search area misses the images: the
turned-round null rectangle counts as valid. -/
def strayRect : QRect := ⟨-1, -1, 0, 0⟩

theorem stray_visible {image : QImage} {point : QPoint} (member : point ∈ strayRect)
    (visible : point ∈ image.rect) : point = ⟨0, 0⟩ := by
  rw [QRect.mem_iff] at member
  rw [QImage.mem_rect] at visible
  simp only [strayRect] at member
  apply QPoint.ext_coordinates
  · simp only
    omega
  · simp only
    omega

theorem extend_changed_fold (buffer1 buffer2 : QImage) (points : List QPoint) (result : QRect) :
    (points.foldl (extendChanged buffer1 buffer2) result).x1 ≤ result.x1 ∧
    (points.foldl (extendChanged buffer1 buffer2) result).y1 ≤ result.y1 ∧
    result.x2 ≤ (points.foldl (extendChanged buffer1 buffer2) result).x2 ∧
    result.y2 ≤ (points.foldl (extendChanged buffer1 buffer2) result).y2 ∧
    ∀ point ∈ points, buffer1.pixel point ≠ buffer2.pixel point →
      point ∈ points.foldl (extendChanged buffer1 buffer2) result := by
  induction points generalizing result with
  | nil => simp
  | cons head points induction =>
      obtain ⟨left, top, right, bottom, members⟩ :=
        induction (extendChanged buffer1 buffer2 result head)
      rw [List.foldl_cons]
      have step : (extendChanged buffer1 buffer2 result head).x1 ≤ result.x1 ∧
          (extendChanged buffer1 buffer2 result head).y1 ≤ result.y1 ∧
          result.x2 ≤ (extendChanged buffer1 buffer2 result head).x2 ∧
          result.y2 ≤ (extendChanged buffer1 buffer2 result head).y2 := by
        simp only [extendChanged]
        split_ifs
        · simp only
          omega
        · omega
      refine ⟨by omega, by omega, by omega, by omega, ?_⟩
      intro point member differs
      rcases List.mem_cons.mp member with same | later
      · subst same
        rw [QRect.mem_iff]
        have extended : extendChanged buffer1 buffer2 result point =
            ⟨min result.x1 point.x, min result.y1 point.y,
              max result.x2 point.x, max result.y2 point.y⟩ := by
          simp only [extendChanged, if_pos differs]
        rw [extended] at left top right bottom ⊢
        simp only at left top right bottom
        omega
      · exact members point later differs

theorem extend_changed_bounded (buffer1 buffer2 : QImage) (bounds : QRect) (points : List QPoint)
    (result : QRect)
    (within : ∀ point ∈ points, buffer1.pixel point ≠ buffer2.pixel point → point ∈ bounds)
    (starts : bounds.x1 ≤ result.x1 ∧ bounds.y1 ≤ result.y1 ∧
      result.x2 ≤ bounds.x2 ∧ result.y2 ≤ bounds.y2) :
    let final := points.foldl (extendChanged buffer1 buffer2) result
    bounds.x1 ≤ final.x1 ∧ bounds.y1 ≤ final.y1 ∧ final.x2 ≤ bounds.x2 ∧ final.y2 ≤ bounds.y2 := by
  induction points generalizing result with
  | nil => exact starts
  | cons head points induction =>
      apply induction
      · intro point member
        exact within point (by simp [member])
      · simp only [extendChanged]
        split_ifs with differs
        · have headWithin := within head (by simp) differs
          rw [QRect.mem_iff] at headWithin
          simp only
          omega
        · exact starts

/-- Every changed pixel of the search area is in the result, and the result stays
inside the area and the images. -/
theorem find_changed_rect_spec {buffer1 buffer2 : QImage} (same : QImage.SameSize buffer1 buffer2)
    {searchArea : QRect} (areaFilled : searchArea.isEmpty = false)
    (meets : ∃ point ∈ searchArea, point ∈ buffer1.rect) :
    (∀ point ∈ searchArea, point ∈ buffer1.rect → buffer1.pixel point ≠ buffer2.pixel point →
      point ∈ findChangedRect32 buffer1 buffer2 searchArea) ∧
    ∀ point ∈ findChangedRect32 buffer1 buffer2 searchArea,
      point ∈ searchArea ∧ point ∈ buffer1.rect := by
  obtain ⟨common, commonArea, commonImage⟩ := meets
  have imageFilled := QRect.not_empty_of_mem commonImage
  have firstMember := (QRect.mem_intersected areaFilled imageFilled common).mpr
    ⟨commonArea, commonImage⟩
  have firstFilled := QRect.not_empty_of_mem firstMember
  have sameRect := QImage.same_size_rect same
  have roiMember : ∀ point, point ∈ (searchArea.intersected buffer1.rect).intersected buffer2.rect ↔
      point ∈ searchArea ∧ point ∈ buffer1.rect := by
    intro point
    rw [← sameRect, QRect.mem_intersected firstFilled imageFilled,
      QRect.mem_intersected areaFilled imageFilled]
    tauto
  have roiFilled := QRect.not_empty_of_mem ((roiMember common).mpr ⟨commonArea, commonImage⟩)
  rw [QRect.not_is_empty_iff] at roiFilled
  have bounded := extend_changed_bounded buffer1 buffer2 _
    (QRect.rowMajor ((searchArea.intersected buffer1.rect).intersected buffer2.rect))
    (QRect.ofCorners ((searchArea.intersected buffer1.rect).intersected buffer2.rect).bottomRight
      ((searchArea.intersected buffer1.rect).intersected buffer2.rect).topLeft)
    (fun point member _ => QRect.mem_row_major.mp member)
    (by simp only [QRect.ofCorners, QRect.bottomRight, QRect.topLeft]; omega)
  constructor
  · intro point pointArea pointImage differs
    have hit := (extend_changed_fold buffer1 buffer2
      (QRect.rowMajor ((searchArea.intersected buffer1.rect).intersected buffer2.rect))
      (QRect.ofCorners ((searchArea.intersected buffer1.rect).intersected buffer2.rect).bottomRight
        ((searchArea.intersected buffer1.rect).intersected buffer2.rect).topLeft)).2.2.2.2
      point (QRect.mem_row_major.mpr ((roiMember point).mpr ⟨pointArea, pointImage⟩)) differs
    have valid := QRect.is_valid_iff.mpr (QRect.not_is_empty_iff.mp (QRect.not_empty_of_mem hit))
    simp only [findChangedRect32, valid, if_true]
    exact hit
  · intro point member
    simp only [findChangedRect32] at member
    split_ifs at member with valid
    · apply (roiMember point).mp
      rw [QRect.mem_iff] at member ⊢
      omega
    · exact absurd member (QRect.not_mem_null point)

theorem find_changed_rect_stray {buffer1 buffer2 : QImage} {searchArea : QRect}
    (areaFilled : searchArea.isEmpty = false)
    (imageFilled : buffer1.rect.isEmpty = false)
    (misses : ∀ point ∈ searchArea, point ∉ buffer1.rect) :
    findChangedRect32 buffer1 buffer2 searchArea = strayRect := by
  have first : searchArea.intersected buffer1.rect = QRect.null := by
    rcases QRect.intersected_cases areaFilled imageFilled with ⟨isNull, _⟩ | ⟨filled, _⟩
    · exact isNull
    · have common := (QRect.mem_intersected areaFilled imageFilled _).mp (QRect.top_left_mem filled)
      exact absurd common.2 (misses _ common.1)
  have second : QRect.null.intersected buffer2.rect = QRect.null := by
    simp [QRect.intersected, QRect.isNull, QRect.null]
  simp only [findChangedRect32, first, second]
  rfl

end Viridity.ImageAux
