import Mathlib.Data.List.Flatten
import Mathlib.Data.List.Pairwise
import Mathlib.Tactic.Common
import Mathlib.Data.Int.Basic

/-!
# QPoint and QRect

Rectangles keep Qt's inclusive corner representation, so that an empty rectangle
is one whose right edge lies left of its left edge and `QRect()` has the corners
`(0, 0)` and `(-1, -1)`. Coordinates are unbounded integers: images are far
smaller than the range of `int`, and signed overflow has no defined result.
-/

namespace Viridity.QtRectangle

set_option autoImplicit false

structure QPoint where
  x : Int
  y : Int
deriving DecidableEq, Repr

namespace QPoint

def add (left right : QPoint) : QPoint := ⟨left.x + right.x, left.y + right.y⟩

def sub (left right : QPoint) : QPoint := ⟨left.x - right.x, left.y - right.y⟩

@[simp] theorem add_x (left right : QPoint) : (left.add right).x = left.x + right.x := rfl
@[simp] theorem add_y (left right : QPoint) : (left.add right).y = left.y + right.y := rfl
@[simp] theorem sub_x (left right : QPoint) : (left.sub right).x = left.x - right.x := rfl
@[simp] theorem sub_y (left right : QPoint) : (left.sub right).y = left.y - right.y := rfl

theorem ext_coordinates {left right : QPoint} (horizontal : left.x = right.x)
    (vertical : left.y = right.y) : left = right := by
  cases left
  cases right
  simp_all

end QPoint

structure QRect where
  x1 : Int
  y1 : Int
  x2 : Int
  y2 : Int
deriving DecidableEq, Repr

namespace QRect

/-- `QRect()`. -/
def null : QRect := ⟨0, 0, -1, -1⟩

def ofSize (x y width height : Int) : QRect := ⟨x, y, x + width - 1, y + height - 1⟩

def ofCorners (topLeft bottomRight : QPoint) : QRect :=
  ⟨topLeft.x, topLeft.y, bottomRight.x, bottomRight.y⟩

def width (rect : QRect) : Int := rect.x2 - rect.x1 + 1
def height (rect : QRect) : Int := rect.y2 - rect.y1 + 1
def topLeft (rect : QRect) : QPoint := ⟨rect.x1, rect.y1⟩
def bottomRight (rect : QRect) : QPoint := ⟨rect.x2, rect.y2⟩

def isNull (rect : QRect) : Bool := rect.x2 == rect.x1 - 1 && rect.y2 == rect.y1 - 1
def isEmpty (rect : QRect) : Bool := rect.x1 > rect.x2 || rect.y1 > rect.y2
def isValid (rect : QRect) : Bool := rect.x1 ≤ rect.x2 && rect.y1 ≤ rect.y2

def translate (rect : QRect) (offset : QPoint) : QRect :=
  ⟨rect.x1 + offset.x, rect.y1 + offset.y, rect.x2 + offset.x, rect.y2 + offset.y⟩

def adjusted (rect : QRect) (left top right bottom : Int) : QRect :=
  ⟨rect.x1 + left, rect.y1 + top, rect.x2 + right, rect.y2 + bottom⟩

def setWidth (rect : QRect) (width : Int) : QRect := { rect with x2 := rect.x1 + width - 1 }

def moveTo (rect : QRect) (position : QPoint) : QRect :=
  ⟨position.x, position.y, position.x + (rect.x2 - rect.x1), position.y + (rect.y2 - rect.y1)⟩

/-- The pair of bounds `intersected` and `united` compare on one axis: a negative
extent is turned around, an extent of zero is kept. -/
def axisBounds (low high : Int) : Int × Int :=
  if high - low + 1 < 0 then (high, low) else (low, high)

/-- `operator&`: the null rectangle when the two do not meet. -/
def intersected (rect other : QRect) : QRect :=
  if rect.isNull || other.isNull then null
  else
    let (left1, right1) := axisBounds rect.x1 rect.x2
    let (left2, right2) := axisBounds other.x1 other.x2
    if left1 > right2 || left2 > right1 then null
    else
      let (top1, bottom1) := axisBounds rect.y1 rect.y2
      let (top2, bottom2) := axisBounds other.y1 other.y2
      if top1 > bottom2 || top2 > bottom1 then null
      else ⟨max left1 left2, max top1 top2, min right1 right2, min bottom1 bottom2⟩

def united (rect other : QRect) : QRect :=
  if rect.isNull then other
  else if other.isNull then rect
  else
    let (left1, right1) := axisBounds rect.x1 rect.x2
    let (left2, right2) := axisBounds other.x1 other.x2
    let (top1, bottom1) := axisBounds rect.y1 rect.y2
    let (top2, bottom2) := axisBounds other.y1 other.y2
    ⟨min left1 left2, min top1 top2, max right1 right2, max bottom1 bottom2⟩

def contains (rect : QRect) (point : QPoint) : Bool :=
  rect.x1 ≤ point.x && point.x ≤ rect.x2 && rect.y1 ≤ point.y && point.y ≤ rect.y2

instance : Membership QPoint QRect where
  mem rect point := rect.contains point = true

instance (rect : QRect) (point : QPoint) : Decidable (point ∈ rect) :=
  inferInstanceAs (Decidable (rect.contains point = true))

theorem mem_iff {rect : QRect} {point : QPoint} :
    point ∈ rect ↔ rect.x1 ≤ point.x ∧ point.x ≤ rect.x2 ∧ rect.y1 ≤ point.y ∧ point.y ≤ rect.y2 := by
  change rect.contains point = true ↔ _
  simp [contains, and_assoc]

theorem contains_iff {rect : QRect} {point : QPoint} :
    rect.contains point = true ↔ point ∈ rect := Iff.rfl

theorem not_is_empty_iff {rect : QRect} :
    rect.isEmpty = false ↔ rect.x1 ≤ rect.x2 ∧ rect.y1 ≤ rect.y2 := by
  simp [isEmpty]

theorem is_valid_iff {rect : QRect} :
    rect.isValid = true ↔ rect.x1 ≤ rect.x2 ∧ rect.y1 ≤ rect.y2 := by
  simp [isValid]

theorem not_empty_of_mem {rect : QRect} {point : QPoint} (member : point ∈ rect) :
    rect.isEmpty = false := by
  rw [mem_iff] at member
  rw [not_is_empty_iff]
  omega

theorem not_is_empty_iff_extent {rect : QRect} :
    rect.isEmpty = false ↔ 0 < rect.width ∧ 0 < rect.height := by
  rw [not_is_empty_iff]
  simp only [width, height]
  omega

theorem top_left_mem {rect : QRect} (filled : rect.isEmpty = false) : rect.topLeft ∈ rect := by
  rw [not_is_empty_iff] at filled
  rw [mem_iff]
  simp only [topLeft]
  omega

theorem bottom_right_mem {rect : QRect} (filled : rect.isEmpty = false) :
    rect.bottomRight ∈ rect := by
  rw [not_is_empty_iff] at filled
  rw [mem_iff]
  simp only [bottomRight]
  omega

def IsPixel (rect : QRect) (point : QPoint) : Prop :=
  rect.topLeft = point ∧ rect.width = 1 ∧ rect.height = 1

theorem is_pixel_of_single {rect : QRect} {point : QPoint} (filled : rect.isEmpty = false)
    (single : ∀ other ∈ rect, other = point) : rect.IsPixel point := by
  have first := single _ (top_left_mem filled)
  have last := single _ (bottom_right_mem filled)
  have same : rect.topLeft = rect.bottomRight := first.trans last.symm
  simp only [topLeft, bottomRight, QPoint.mk.injEq] at same
  refine ⟨first, ?_, ?_⟩
  · simp only [width]
    omega
  · simp only [height]
    omega

theorem is_pixel_of_extent {rect : QRect} {point : QPoint} (member : point ∈ rect)
    (column : rect.width = 1) (row : rect.height = 1) : rect.IsPixel point := by
  rw [mem_iff] at member
  simp only [width, height] at column row
  refine ⟨?_, column, row⟩
  apply QPoint.ext_coordinates
  · simp only [topLeft]
    omega
  · simp only [topLeft]
    omega

theorem not_mem_null (point : QPoint) : point ∉ null := by
  rw [mem_iff]
  simp only [null]
  omega

theorem mem_of_size {x y width height : Int} {point : QPoint} :
    point ∈ ofSize x y width height ↔
      x ≤ point.x ∧ point.x < x + width ∧ y ≤ point.y ∧ point.y < y + height := by
  rw [mem_iff]
  simp only [ofSize]
  omega

theorem of_size_width (x y width height : Int) : (ofSize x y width height).width = width := by
  simp only [ofSize, QRect.width]
  omega

theorem of_size_height (x y width height : Int) : (ofSize x y width height).height = height := by
  simp only [ofSize, QRect.height]
  omega

/-- On rectangles of non-negative extent `intersected` is intersection, and its
result is either the null rectangle or not empty. -/
theorem intersected_cases {rect other : QRect} (first : rect.isEmpty = false)
    (second : other.isEmpty = false) :
    ((rect.intersected other) = null ∧ ∀ point, ¬(point ∈ rect ∧ point ∈ other)) ∨
    ((rect.intersected other).isEmpty = false ∧
      rect.intersected other = ⟨max rect.x1 other.x1, max rect.y1 other.y1,
        min rect.x2 other.x2, min rect.y2 other.y2⟩) := by
  rw [not_is_empty_iff] at first second
  have firstBounds : axisBounds rect.x1 rect.x2 = (rect.x1, rect.x2) := by
    simp only [axisBounds]; rw [if_neg (by omega)]
  have firstRows : axisBounds rect.y1 rect.y2 = (rect.y1, rect.y2) := by
    simp only [axisBounds]; rw [if_neg (by omega)]
  have secondBounds : axisBounds other.x1 other.x2 = (other.x1, other.x2) := by
    simp only [axisBounds]; rw [if_neg (by omega)]
  have secondRows : axisBounds other.y1 other.y2 = (other.y1, other.y2) := by
    simp only [axisBounds]; rw [if_neg (by omega)]
  have notNull : (rect.isNull || other.isNull) = false := by
    simp [isNull]
    omega
  simp only [intersected, notNull, firstBounds, firstRows, secondBounds, secondRows,
    Bool.false_eq_true, if_false, Bool.or_eq_true, decide_eq_true_eq]
  split_ifs with columns rows
  · left
    refine ⟨rfl, ?_⟩
    intro point both
    simp only [mem_iff] at both
    omega
  · left
    refine ⟨rfl, ?_⟩
    intro point both
    simp only [mem_iff] at both
    omega
  · right
    refine ⟨?_, rfl⟩
    rw [not_is_empty_iff]
    simp only
    omega

theorem mem_intersected {rect other : QRect} (first : rect.isEmpty = false)
    (second : other.isEmpty = false) (point : QPoint) :
    point ∈ rect.intersected other ↔ point ∈ rect ∧ point ∈ other := by
  rcases intersected_cases first second with ⟨same, apart⟩ | ⟨_, same⟩
  · rw [same]
    constructor
    · intro member
      exact absurd member (not_mem_null point)
    · intro both
      exact absurd both (apart point)
  · rw [same]
    simp only [mem_iff]
    omega

/-- Whatever the first argument, the pixels of an intersection with a rectangle
of non-negative extent lie in the latter. -/
theorem mem_right_of_mem_intersected {rect other : QRect} (second : other.isEmpty = false)
    {point : QPoint} (member : point ∈ rect.intersected other) : point ∈ other := by
  rw [not_is_empty_iff] at second
  have secondBounds : axisBounds other.x1 other.x2 = (other.x1, other.x2) := by
    simp only [axisBounds]; rw [if_neg (by omega)]
  have secondRows : axisBounds other.y1 other.y2 = (other.y1, other.y2) := by
    simp only [axisBounds]; rw [if_neg (by omega)]
  simp only [intersected, secondBounds, secondRows] at member
  split_ifs at member
  · exact absurd member (not_mem_null point)
  · exact absurd member (not_mem_null point)
  · exact absurd member (not_mem_null point)
  · simp only [mem_iff] at member ⊢
    omega

/-- One bound of an intersection with a rectangle that has no negative extent. -/
theorem intersected_within {rect other : QRect} (columns : other.x1 ≤ other.x2 + 1)
    (rows : other.y1 ≤ other.y2 + 1) :
    rect.intersected other = null ∨
      (other.x1 ≤ (rect.intersected other).x1 ∧ (rect.intersected other).x2 ≤ other.x2 ∧
        other.y1 ≤ (rect.intersected other).y1 ∧ (rect.intersected other).y2 ≤ other.y2 ∧
        (rect.intersected other).x1 ≤ (rect.intersected other).x2 + 1 ∧
        (rect.intersected other).y1 ≤ (rect.intersected other).y2 + 1) := by
  have bounds : ∀ low high : Int, (axisBounds low high).1 ≤ (axisBounds low high).2 + 1 := by
    intro low high
    unfold axisBounds
    split_ifs <;> simp only <;> omega
  have plain : ∀ low high : Int, low ≤ high + 1 → axisBounds low high = (low, high) := by
    intro low high extent
    unfold axisBounds
    rw [if_neg (by omega)]
  have acrossBounds := bounds rect.x1 rect.x2
  have downBounds := bounds rect.y1 rect.y2
  unfold intersected
  rw [plain _ _ columns, plain _ _ rows]
  generalize axisBounds rect.x1 rect.x2 = across at acrossBounds
  generalize axisBounds rect.y1 rect.y2 = down at downBounds
  simp only [Bool.or_eq_true, decide_eq_true_eq]
  split_ifs with null apart apart'
  · exact Or.inl rfl
  · exact Or.inl rfl
  · exact Or.inl rfl
  · right
    simp only
    omega

theorem intersected_comm (rect other : QRect) :
    rect.intersected other = other.intersected rect := by
  unfold intersected
  generalize axisBounds rect.x1 rect.x2 = across
  generalize axisBounds rect.y1 rect.y2 = down
  generalize axisBounds other.x1 other.x2 = otherAcross
  generalize axisBounds other.y1 other.y2 = otherDown
  simp only [Bool.or_comm other.isNull, Bool.or_comm (decide (otherAcross.1 > across.2)),
    Bool.or_comm (decide (otherDown.1 > down.2)), Int.max_comm otherAcross.1,
    Int.max_comm otherDown.1, Int.min_comm otherAcross.2, Int.min_comm otherDown.2]

theorem intersected_inside {rect other : QRect} (filled : rect.isEmpty = false)
    (columns : other.x1 ≤ rect.x1 ∧ rect.x2 ≤ other.x2)
    (rows : other.y1 ≤ rect.y1 ∧ rect.y2 ≤ other.y2) : rect.intersected other = rect := by
  have extent := not_is_empty_iff.mp filled
  have otherFilled : other.isEmpty = false := by
    rw [not_is_empty_iff]
    omega
  rcases intersected_cases filled otherFilled with ⟨_, apart⟩ | ⟨_, same⟩
  · have corner := top_left_mem filled
    refine absurd ⟨corner, ?_⟩ (apart _)
    rw [mem_iff] at corner ⊢
    omega
  · rw [same, Int.max_eq_left columns.1, Int.max_eq_left rows.1, Int.min_eq_left columns.2,
      Int.min_eq_left rows.2]

/-- A rectangle without columns or without rows meets none that ends with it. -/
theorem intersected_thin {rect other : QRect} (columns : rect.x1 ≤ rect.x2 + 1)
    (rows : rect.y1 ≤ rect.y2 + 1) (otherColumns : other.x1 ≤ other.x2 + 1)
    (otherRows : other.y1 ≤ other.y2 + 1) (right : other.x2 ≤ rect.x2) (bottom : other.y2 ≤ rect.y2)
    (empty : rect.isEmpty = true) : rect.intersected other = null := by
  have kept : ∀ low high : Int, low ≤ high + 1 → axisBounds low high = (low, high) := by
    intro low high ordered
    exact if_neg (by omega)
  have thin : rect.x1 > rect.x2 ∨ rect.y1 > rect.y2 := by
    simpa [isEmpty] using empty
  unfold intersected
  rw [kept _ _ columns, kept _ _ rows, kept _ _ otherColumns, kept _ _ otherRows]
  dsimp only
  split_ifs with someNull apartAcross apartDown
  · rfl
  · rfl
  · rfl
  · simp only [Bool.or_eq_true, decide_eq_true_eq] at apartAcross apartDown
    omega

def rowMajor (rect : QRect) : List QPoint :=
  (List.range rect.height.toNat).flatMap fun (y : Nat) =>
    (List.range rect.width.toNat).map fun (x : Nat) => ⟨rect.x1 + x, rect.y1 + y⟩

theorem mem_row_major {rect : QRect} {point : QPoint} :
    point ∈ rowMajor rect ↔ point ∈ rect := by
  simp only [rowMajor, List.mem_flatMap, List.mem_map, List.mem_range, mem_iff, width, height]
  constructor
  · rintro ⟨y, yBound, x, xBound, rfl⟩
    simp only
    omega
  · intro member
    refine ⟨(point.y - rect.y1).toNat, by omega, (point.x - rect.x1).toNat, by omega, ?_⟩
    apply QPoint.ext_coordinates
    · simp only
      omega
    · simp only
      omega

def Precedes (first second : QPoint) : Prop :=
  first.y < second.y ∨ (first.y = second.y ∧ first.x < second.x)

theorem row_major_sorted (rect : QRect) : (rowMajor rect).Pairwise Precedes := by
  unfold rowMajor
  rw [List.pairwise_flatMap]
  constructor
  · intro y _
    rw [List.pairwise_map]
    apply List.pairwise_lt_range.imp
    intro first second below
    have column : rect.x1 + (first : Int) < rect.x1 + second := by omega
    exact Or.inr ⟨rfl, column⟩
  · apply List.pairwise_lt_range.imp
    intro upper lower below first firstMember second secondMember
    rcases List.mem_map.mp firstMember with ⟨_, _, rfl⟩
    rcases List.mem_map.mp secondMember with ⟨_, _, rfl⟩
    left
    simp only
    omega

end QRect

end Viridity.QtRectangle
