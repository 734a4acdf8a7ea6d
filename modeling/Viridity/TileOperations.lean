import Mathlib.Data.List.Pairwise
import Mathlib.Tactic.Ring
import Mathlib.Tactic.Linarith
import Viridity.ExactCovers
import Viridity.QtRectangle

/-!
# Regions, tiles and tiled regions

`QRegion` is known through the list of rectangles added to it and through what
`QRegion::rects` promises about any such list. `TileOperations` and
`TiledRegion` follow the source on top of that.
-/

namespace Viridity.TileOperations

open Viridity.ExactCovers
open Viridity.QtRectangle

set_option autoImplicit false

/-- `QRegion::rects` as a function of the rectangles united so far. -/
structure RegionRects where
  rects : List QRect → List QRect
  filled : ∀ added, ∀ rect ∈ rects added, rect.isEmpty = false
  apart : ∀ added, (rects added).Pairwise fun first second =>
    ∀ point, ¬(point ∈ first ∧ point ∈ second)
  ordered : ∀ added, (rects added).Pairwise fun first second =>
    first.y1 < second.y1 ∨ (first.y1 = second.y1 ∧ first.x1 < second.x1)
  exact : ∀ added point, (∃ rect ∈ rects added, point ∈ rect) ↔ ∃ rect ∈ added, point ∈ rect

def boundingRect (added : List QRect) : QRect :=
  added.foldl (fun bounds rect =>
    ⟨min bounds.x1 rect.x1, min bounds.y1 rect.y1, max bounds.x2 rect.x2, max bounds.y2 rect.y2⟩)
    (added.headD QRect.null)

theorem mem_bounding_rect {added : List QRect} {rect : QRect} {point : QPoint}
    (member : rect ∈ added) (hit : point ∈ rect) : point ∈ boundingRect added := by
  have folded : ∀ (rects : List QRect) (bounds : QRect), point ∈ bounds ∨ rect ∈ rects →
      point ∈ rects.foldl (fun bounds rect =>
        (⟨min bounds.x1 rect.x1, min bounds.y1 rect.y1, max bounds.x2 rect.x2,
          max bounds.y2 rect.y2⟩ : QRect)) bounds := by
    intro rects
    induction rects with
    | nil =>
        intro bounds inside
        simpa using inside
    | cons head rects induction =>
        intro bounds inside
        apply induction
        rw [QRect.mem_iff] at hit
        simp only [List.mem_cons, QRect.mem_iff] at inside ⊢
        rcases inside with inside | same | later
        · left
          omega
        · left
          subst same
          omega
        · exact Or.inr later
  exact folded added _ (Or.inr member)

/-- The finest division a region admits: one rectangle for each pixel. -/
def pixelRects (added : List QRect) : List QRect :=
  ((boundingRect added).rowMajor.filter fun point => added.any fun rect => rect.contains point).map
    fun point => ⟨point.x, point.y, point.x, point.y⟩

theorem pixel_rects_filled (added : List QRect) : ∀ rect ∈ pixelRects added, rect.isEmpty = false := by
  intro rect member
  rcases List.mem_map.mp member with ⟨point, _, rfl⟩
  simp [QRect.isEmpty]

theorem pixel_rects_apart (added : List QRect) : (pixelRects added).Pairwise fun first second =>
    ∀ point, ¬(point ∈ first ∧ point ∈ second) := by
  unfold pixelRects
  rw [List.pairwise_map]
  apply ((QRect.row_major_sorted (boundingRect added)).filter _).imp
  intro first second before point both
  simp only [QRect.mem_iff, QRect.Precedes] at both before
  omega

theorem pixel_rects_ordered (added : List QRect) :
    (pixelRects added).Pairwise fun first second =>
      first.y1 < second.y1 ∨ (first.y1 = second.y1 ∧ first.x1 < second.x1) := by
  unfold pixelRects
  rw [List.pairwise_map]
  exact (QRect.row_major_sorted (boundingRect added)).filter _

theorem pixel_rects_exact (added : List QRect) (point : QPoint) :
    (∃ rect ∈ pixelRects added, point ∈ rect) ↔ ∃ rect ∈ added, point ∈ rect := by
  constructor
  · rintro ⟨rect, member, hit⟩
    rcases List.mem_map.mp member with ⟨pixel, pixelMember, rfl⟩
    have same : point = pixel := by
      rw [QRect.mem_iff] at hit
      apply QPoint.ext_coordinates
      · simp only at hit
        omega
      · simp only at hit
        omega
    have inside := (List.mem_filter.mp pixelMember).2
    rw [List.any_eq_true] at inside
    exact same ▸ inside
  · rintro ⟨rect, member, hit⟩
    refine ⟨⟨point.x, point.y, point.x, point.y⟩, ?_, by rw [QRect.mem_iff]; simp⟩
    apply List.mem_map_of_mem
    rw [List.mem_filter, List.any_eq_true]
    exact ⟨QRect.mem_row_major.mpr (mem_bounding_rect member hit), rect, member, hit⟩

def RegionRects.pixelwise : RegionRects where
  rects := pixelRects
  filled := pixel_rects_filled
  apart := pixel_rects_apart
  ordered := pixel_rects_ordered
  exact := pixel_rects_exact

/-- The test `verticallyUniteRects` makes for each pair of rectangles. -/
def verticallyAdjacent (compareRect inputRect : QRect) : Bool :=
  (compareRect.y2 + 1 == inputRect.y1 || compareRect.y1 == inputRect.y2 + 1) &&
    (compareRect.x1 == inputRect.x1 || compareRect.x2 == inputRect.x2) &&
    compareRect.width == inputRect.width

/-- One round of the outer loop: every matching result is replaced in place, and
the input is appended only when none matched. -/
def uniteInto (result : List QRect) (inputRect : QRect) : List QRect :=
  if result.any fun compareRect => verticallyAdjacent compareRect inputRect then
    result.map fun compareRect =>
      if verticallyAdjacent compareRect inputRect then compareRect.united inputRect
      else compareRect
  else result ++ [inputRect]

def verticallyUniteRects (rects : List QRect) : List QRect := rects.foldl uniteInto []

theorem united_adjacent {compareRect inputRect : QRect}
    (first : compareRect.isEmpty = false) (second : inputRect.isEmpty = false)
    (adjacent : verticallyAdjacent compareRect inputRect = true) :
    (compareRect.united inputRect).isEmpty = false ∧
      ∀ point, point ∈ compareRect.united inputRect ↔ point ∈ compareRect ∨ point ∈ inputRect := by
  rw [QRect.not_is_empty_iff] at first second
  simp only [verticallyAdjacent, QRect.width, Bool.and_eq_true, Bool.or_eq_true, beq_iff_eq]
    at adjacent
  have merged : compareRect.united inputRect =
      ⟨min compareRect.x1 inputRect.x1, min compareRect.y1 inputRect.y1,
        max compareRect.x2 inputRect.x2, max compareRect.y2 inputRect.y2⟩ := by
    have notNull : compareRect.isNull = false ∧ inputRect.isNull = false := by
      simp [QRect.isNull]
      omega
    simp only [QRect.united, notNull, QRect.axisBounds, Bool.false_eq_true, if_false]
    rw [if_neg (by omega), if_neg (by omega), if_neg (by omega), if_neg (by omega)]
  rw [merged]
  constructor
  · rw [QRect.not_is_empty_iff]
    simp only
    omega
  · intro point
    simp only [QRect.mem_iff]
    omega

theorem unite_into_exact {result : List QRect} {inputRect : QRect}
    (filled : ∀ rect ∈ result, rect.isEmpty = false) (inputFilled : inputRect.isEmpty = false) :
    (∀ rect ∈ uniteInto result inputRect, rect.isEmpty = false) ∧
      ∀ point, (∃ rect ∈ uniteInto result inputRect, point ∈ rect) ↔
        (∃ rect ∈ result, point ∈ rect) ∨ point ∈ inputRect := by
  simp only [uniteInto]
  split_ifs with matched
  · rw [List.any_eq_true] at matched
    obtain ⟨partner, partnerMember, adjacent⟩ := matched
    constructor
    · intro rect member
      obtain ⟨source, sourceMember, rfl⟩ := List.mem_map.mp member
      split_ifs with near
      · exact (united_adjacent (filled source sourceMember) inputFilled near).1
      · exact filled source sourceMember
    · intro point
      constructor
      · rintro ⟨rect, member, inside⟩
        obtain ⟨source, sourceMember, rfl⟩ := List.mem_map.mp member
        split_ifs at inside with near
        · rcases (united_adjacent (filled source sourceMember) inputFilled near).2 point |>.mp inside
            with old | new
          · exact Or.inl ⟨source, sourceMember, old⟩
          · exact Or.inr new
        · exact Or.inl ⟨source, sourceMember, inside⟩
      · rintro (⟨rect, member, inside⟩ | inside)
        · refine ⟨_, List.mem_map_of_mem member, ?_⟩
          split_ifs with near
          · exact ((united_adjacent (filled rect member) inputFilled near).2 point).mpr (Or.inl inside)
          · exact inside
        · refine ⟨_, List.mem_map_of_mem partnerMember, ?_⟩
          rw [if_pos adjacent]
          exact ((united_adjacent (filled partner partnerMember) inputFilled adjacent).2 point).mpr
            (Or.inr inside)
  · constructor
    · intro rect member
      rcases List.mem_append.mp member with old | new
      · exact filled rect old
      · exact List.mem_singleton.mp new ▸ inputFilled
    · intro point
      simp only [List.mem_append, List.mem_singleton, or_and_right, exists_or, exists_eq_left]

/-- Uniting vertically keeps exactly the same pixels. -/
theorem vertically_unite_exact (rects : List QRect)
    (filled : ∀ rect ∈ rects, rect.isEmpty = false) :
    (∀ rect ∈ verticallyUniteRects rects, rect.isEmpty = false) ∧
      ∀ point, (∃ rect ∈ verticallyUniteRects rects, point ∈ rect) ↔ ∃ rect ∈ rects, point ∈ rect := by
  have generalised : ∀ remaining result : List QRect,
      (∀ rect ∈ remaining, rect.isEmpty = false) → (∀ rect ∈ result, rect.isEmpty = false) →
      (∀ rect ∈ remaining.foldl uniteInto result, rect.isEmpty = false) ∧
        ∀ point, (∃ rect ∈ remaining.foldl uniteInto result, point ∈ rect) ↔
          (∃ rect ∈ result, point ∈ rect) ∨ ∃ rect ∈ remaining, point ∈ rect := by
    intro remaining
    induction remaining with
    | nil =>
        intro result _ resultFilled
        exact ⟨resultFilled, fun point => by simp⟩
    | cons inputRect remaining induction =>
        intro result remainingFilled resultFilled
        have step := unite_into_exact resultFilled (remainingFilled inputRect (by simp))
        have later := induction (uniteInto result inputRect)
          (fun rect member => remainingFilled rect (by simp [member])) step.1
        refine ⟨later.1, fun point => ?_⟩
        rw [List.foldl_cons, later.2 point, step.2 point]
        simp only [List.mem_cons, or_and_right, exists_or, exists_eq_left, or_assoc]
  have whole := generalised rects [] filled (by simp)
  refine ⟨whole.1, fun point => ?_⟩
  rw [verticallyUniteRects, whole.2 point]
  simp

/-- The values a loop `for (value = start; value < limit; value += step)` takes. -/
def loopValues (limit step : Int) : Nat → Int → List Int
  | 0, _ => []
  | fuel + 1, value =>
      if value < limit then value :: loopValues limit step fuel (value + step) else []

def forLoop (start limit step : Int) : List Int :=
  loopValues limit step (limit - start).toNat start

def afterLoop (start limit step : Int) : Int := start + step * (forLoop start limit step).length

theorem loop_values_length {limit step : Int} (positive : 0 < step) (fuel : Nat) (value : Int)
    (enough : limit - value ≤ fuel) :
    limit ≤ value + step * (loopValues limit step fuel value).length ∧
    (value < limit → value + step * (loopValues limit step fuel value).length < limit + step) ∧
    (limit ≤ value → (loopValues limit step fuel value).length = 0) := by
  induction fuel generalizing value with
  | zero =>
      have done : limit ≤ value := by
        simp only [Nat.cast_zero] at enough
        omega
      refine ⟨by simpa [loopValues] using done, ?_, fun _ => rfl⟩
      intro below
      omega
  | succ fuel induction =>
      unfold loopValues
      by_cases below : value < limit
      · have later := induction (value + step) (by push_cast at enough; omega)
        rw [if_pos below, List.length_cons]
        push_cast
        rw [mul_add, mul_one]
        refine ⟨by omega, ?_, fun above => absurd below (by omega)⟩
        intro _
        by_cases again : value + step < limit
        · have upper := later.2.1 again
          omega
        · rw [later.2.2 (by omega)]
          simp
          omega
      · rw [if_neg below]
        refine ⟨by simp; omega, fun contradictory => absurd contradictory below, fun _ => rfl⟩

theorem loop_values_cover {limit step : Int} (positive : 0 < step) (fuel : Nat) (value : Int) :
    ExactCover span ((loopValues limit step fuel value).map fun start => (start, step))
      (stretch value (value + step * (loopValues limit step fuel value).length)) := by
  induction fuel generalizing value with
  | zero =>
      simp only [loopValues, List.map_nil, List.length_nil, Nat.cast_zero, mul_zero, add_zero,
        stretch_empty]
      exact exact_cover_nil span
  | succ fuel induction =>
      unfold loopValues
      split_ifs with below
      · have later := induction (value + step)
        have joined := (exact_cover_singleton span (value, step)).append later
          (stretch_separate _ _ _)
        have whole : span (value, step) ∪ stretch (value + step) (value + step +
            step * (loopValues limit step fuel (value + step)).length) =
              stretch value (value + step *
                (value :: loopValues limit step fuel (value + step)).length) := by
          have grows : 0 ≤ step * ((loopValues limit step fuel (value + step)).length : Int) := by
            positivity
          unfold span
          rw [stretch_joined (by omega) (by omega), List.length_cons]
          congr 1
          push_cast
          ring
        rw [whole] at joined
        exact joined
      · simp only [List.map_nil, List.length_nil, Nat.cast_zero, mul_zero, add_zero, stretch_empty]
        exact exact_cover_nil span

theorem for_loop_cover {start limit step : Int} (positive : 0 < step) :
    ExactCover span ((forLoop start limit step).map fun value => (value, step))
        (stretch start (afterLoop start limit step)) ∧
      start ≤ afterLoop start limit step ∧ limit ≤ afterLoop start limit step ∧
      (start < limit → afterLoop start limit step < limit + step) ∧
      (limit ≤ start → afterLoop start limit step = start) := by
  have lengths := @loop_values_length limit step positive (limit - start).toNat start (by omega)
  have grows : 0 ≤ step * ((forLoop start limit step).length : Int) := by positivity
  refine ⟨loop_values_cover positive _ start, by unfold afterLoop; omega, lengths.1,
    lengths.2.1, ?_⟩
  intro done
  unfold afterLoop forLoop
  rw [lengths.2.2 done]
  simp

/-- One line of tiles: the full ones, then the rest of the width. -/
def tileRow (rect : QRect) (tileWidth y rowHeight : Int) : List QRect :=
  let leftX := rect.width.tmod tileWidth
  let rightLimit := rect.x2 + 1 - tileWidth + 1
  ((forLoop rect.x1 rightLimit tileWidth).map fun x => QRect.ofSize x y tileWidth rowHeight) ++
    if leftX > 0 then
      [QRect.ofSize (afterLoop rect.x1 rightLimit tileWidth) y leftX rowHeight]
    else []

def splitRectIntoTiles (rect : QRect) (tileWidth tileHeight : Int) : List QRect :=
  let leftY := rect.height.tmod tileHeight
  let bottomLimit := rect.y2 + 1 - tileHeight + 1
  ((forLoop rect.y1 bottomLimit tileHeight).flatMap fun y => tileRow rect tileWidth y tileHeight) ++
    if leftY > 0 then
      tileRow rect tileWidth (afterLoop rect.y1 bottomLimit tileHeight) leftY
    else []

/-- The spans of an axis that the tiles lie in: the full ones, then the rest. -/
def axisSpans (low high tile : Int) : List (Int × Int) :=
  ((forLoop low (high + 1 - tile + 1) tile).map fun value => (value, tile)) ++
    if (high - low + 1).tmod tile > 0 then
      [(afterLoop low (high + 1 - tile + 1) tile, (high - low + 1).tmod tile)]
    else []

theorem axis_rest {low high tile : Int} (positive : 0 < tile) (extent : low ≤ high + 1) :
    afterLoop low (high + 1 - tile + 1) tile + (high - low + 1).tmod tile = high + 1 ∧
      0 ≤ (high - low + 1).tmod tile ∧ (high - low + 1).tmod tile < tile := by
  have loop := @for_loop_cover low (high + 1 - tile + 1) tile positive
  have rest : 0 ≤ high + 1 - afterLoop low (high + 1 - tile + 1) tile ∧
      high + 1 - afterLoop low (high + 1 - tile + 1) tile < tile := by
    by_cases runs : low < high + 1 - tile + 1
    · have upper := loop.2.2.2.1 runs
      omega
    · have same := loop.2.2.2.2 (by omega)
      omega
  have split : high - low + 1 = (high + 1 - afterLoop low (high + 1 - tile + 1) tile) +
      tile * (forLoop low (high + 1 - tile + 1) tile).length := by
    unfold afterLoop
    ring
  have remainder : (high - low + 1).tmod tile =
      high + 1 - afterLoop low (high + 1 - tile + 1) tile := by
    rw [Int.tmod_eq_emod_of_nonneg (by omega), split, Int.add_mul_emod_self_left,
      Int.emod_eq_of_lt rest.1 rest.2]
  omega

theorem axis_spans_sizes {low high tile : Int} (positive : 0 < tile) (extent : low ≤ high + 1) :
    ∀ part ∈ axisSpans low high tile, 0 < part.2 ∧ part.2 ≤ tile := by
  have rest := @axis_rest low high tile positive extent
  intro part member
  rcases List.mem_append.mp member with full | last
  · obtain ⟨value, _, same⟩ := List.mem_map.mp full
    rw [← same]
    exact ⟨positive, Int.le_refl _⟩
  · split_ifs at last with partly
    · rw [List.mem_singleton.mp last]
      exact ⟨partly, Int.le_of_lt rest.2.2⟩
    · exact absurd last List.not_mem_nil

theorem axis_spans_cover {low high tile : Int} (positive : 0 < tile) (extent : low ≤ high + 1) :
    ExactCover span (axisSpans low high tile) (stretch low (high + 1)) := by
  have loop := @for_loop_cover low (high + 1 - tile + 1) tile positive
  have rest := @axis_rest low high tile positive extent
  unfold axisSpans
  split_ifs with partly
  · have joined := loop.1.append (exact_cover_singleton span
      (afterLoop low (high + 1 - tile + 1) tile, (high - low + 1).tmod tile))
      (stretch_separate _ _ _)
    unfold span at joined ⊢
    rw [rest.1, stretch_joined loop.2.1 (by omega)] at joined
    exact joined
  · have ended : afterLoop low (high + 1 - tile + 1) tile = high + 1 := by omega
    have covered := loop.1
    rw [ended] at covered
    rw [List.append_nil]
    exact covered

theorem tile_row_eq (rect : QRect) (tileWidth y rowHeight : Int) :
    tileRow rect tileWidth y rowHeight =
      (axisSpans rect.x1 rect.x2 tileWidth).map fun column =>
        QRect.ofSize column.1 y column.2 rowHeight := by
  unfold tileRow axisSpans QRect.width
  dsimp only
  rw [List.map_append, List.map_map]
  split_ifs
  · rfl
  · rfl

theorem split_rect_eq (rect : QRect) (tileWidth tileHeight : Int) :
    splitRectIntoTiles rect tileWidth tileHeight =
      (axisSpans rect.y1 rect.y2 tileHeight).flatMap fun row =>
        (axisSpans rect.x1 rect.x2 tileWidth).map fun column =>
          QRect.ofSize column.1 row.1 column.2 row.2 := by
  have lines : splitRectIntoTiles rect tileWidth tileHeight =
      (axisSpans rect.y1 rect.y2 tileHeight).flatMap fun row =>
        tileRow rect tileWidth row.1 row.2 := by
    unfold splitRectIntoTiles axisSpans QRect.height
    dsimp only
    rw [List.flatMap_append, List.flatMap_map]
    split_ifs
    · rw [List.flatMap_singleton]
    · rfl
  rw [lines]
  congr 1
  funext row
  exact tile_row_eq rect tileWidth row.1 row.2

def pixels (rect : QRect) : Set QPoint := {point | point ∈ rect}

theorem split_rect_cover {rect : QRect} {tileWidth tileHeight : Int} (wide : 0 < tileWidth)
    (high : 0 < tileHeight) (width : 0 ≤ rect.width) (height : 0 ≤ rect.height) :
    ExactCover pixels (splitRectIntoTiles rect tileWidth tileHeight) (pixels rect) := by
  unfold QRect.width at width
  unfold QRect.height at height
  have columns := @axis_spans_cover rect.x1 rect.x2 tileWidth wide (by omega)
  have rows := @axis_spans_cover rect.y1 rect.y2 tileHeight high (by omega)
  rw [split_rect_eq]
  have cells := @ExactCover.product _ _ _ _ _ _ span span pixels _ _ _ _ QPoint.x QPoint.y
    (fun column row => QRect.ofSize column.1 row.1 column.2 row.2) columns rows (by
      intro column row point
      unfold pixels span stretch
      simp only [Set.mem_ofPred_eq, QRect.mem_of_size]
      omega)
  have whole : pixels rect = {point : QPoint |
      point.x ∈ stretch rect.x1 (rect.x2 + 1) ∧ point.y ∈ stretch rect.y1 (rect.y2 + 1)} := by
    ext point
    unfold pixels stretch
    simp only [Set.mem_ofPred_eq, QRect.mem_iff]
    omega
  rw [whole]
  exact cells

theorem split_rect_sizes {rect : QRect} {tileWidth tileHeight : Int} (wide : 0 < tileWidth)
    (high : 0 < tileHeight) (width : 0 ≤ rect.width) (height : 0 ≤ rect.height) :
    ∀ tile ∈ splitRectIntoTiles rect tileWidth tileHeight, tile.isEmpty = false ∧
      tile.width ≤ tileWidth ∧ tile.height ≤ tileHeight := by
  unfold QRect.width at width
  unfold QRect.height at height
  intro tile member
  rw [split_rect_eq] at member
  obtain ⟨row, rowMember, tileMember⟩ := List.mem_flatMap.mp member
  obtain ⟨column, columnMember, same⟩ := List.mem_map.mp tileMember
  have across := @axis_spans_sizes rect.x1 rect.x2 tileWidth wide (by omega) column columnMember
  have down := @axis_spans_sizes rect.y1 rect.y2 tileHeight high (by omega) row rowMember
  rw [← same, QRect.of_size_width, QRect.of_size_height, QRect.not_is_empty_iff]
  refine ⟨?_, across.2, down.2⟩
  simp only [QRect.ofSize]
  omega

/-- Every tile is a non-empty part of the rectangle and every pixel is in a tile. -/
theorem split_rect_into_tiles_spec {rect : QRect} {tileWidth tileHeight : Int}
    (wide : 0 < tileWidth) (high : 0 < tileHeight) (filled : rect.isEmpty = false) :
    (∀ tile ∈ splitRectIntoTiles rect tileWidth tileHeight, tile.isEmpty = false ∧
      ∀ point ∈ tile, point ∈ rect) ∧
    ∀ point ∈ rect, ∃ tile ∈ splitRectIntoTiles rect tileWidth tileHeight, point ∈ tile := by
  have extent := QRect.not_is_empty_iff_extent.mp filled
  have cover := split_rect_cover wide high (Int.le_of_lt extent.1) (Int.le_of_lt extent.2)
  constructor
  · intro tile member
    exact ⟨(split_rect_sizes wide high (Int.le_of_lt extent.1) (Int.le_of_lt extent.2) tile
      member).1, fun point inside => cover.within member inside⟩
  · intro point inside
    exact (cover.union point).mpr inside

structure TiledRegion where
  tileWidth : Int
  tileHeight : Int
  region : List QRect

namespace TiledRegion

def create (tileWidth tileHeight : Int) : TiledRegion := ⟨tileWidth, tileHeight, []⟩

def clear (tiled : TiledRegion) : TiledRegion := { tiled with region := [] }

def rects (regionRects : RegionRects) (tiled : TiledRegion) : List QRect :=
  verticallyUniteRects (regionRects.rects tiled.region)

/-- The rectangle `operator+=` unites with the region. Its right and bottom edges
are inclusive, so a tile that ends on a grid line takes one more column and row. -/
def alignedRect (tiled : TiledRegion) (rect : QRect) : QRect where
  x1 := rect.x1.tdiv tiled.tileWidth * tiled.tileWidth
  y1 := rect.y1.tdiv tiled.tileHeight * tiled.tileHeight
  x2 := rect.x2.tdiv tiled.tileWidth * tiled.tileWidth +
    if rect.x2.tmod tiled.tileWidth ≠ 0 then tiled.tileWidth else 0
  y2 := rect.y2.tdiv tiled.tileHeight * tiled.tileHeight +
    if rect.y2.tmod tiled.tileHeight ≠ 0 then tiled.tileHeight else 0

/-- `operator+=`. -/
def add (tiled : TiledRegion) (rect : QRect) : TiledRegion :=
  { tiled with region := tiled.region ++ [tiled.alignedRect rect] }

def Covers (tiled : TiledRegion) (point : QPoint) : Prop := ∃ rect ∈ tiled.region, point ∈ rect

theorem not_covers_clear (tiled : TiledRegion) (point : QPoint) : ¬tiled.clear.Covers point := by
  simp [Covers, clear]

theorem covers_add (tiled : TiledRegion) (rect : QRect) (point : QPoint) :
    (tiled.add rect).Covers point ↔ tiled.Covers point ∨ point ∈ tiled.alignedRect rect := by
  simp [Covers, add, or_and_right, exists_or]

theorem axis_aligned {low high tile entry : Int} (positive : 0 < tile) (nonneg : 0 ≤ low)
    (above : low ≤ entry) (below : entry ≤ high) :
    low.tdiv tile * tile ≤ entry ∧
      entry ≤ high.tdiv tile * tile + if high.tmod tile ≠ 0 then tile else 0 := by
  rw [Int.tdiv_eq_ediv_of_nonneg nonneg, Int.tdiv_eq_ediv_of_nonneg (by omega : 0 ≤ high),
    Int.tmod_eq_emod_of_nonneg (by omega : 0 ≤ high)]
  have lowSplit := Int.emod_add_mul_ediv low tile
  have lowRemainder := Int.emod_nonneg low (by omega : tile ≠ 0)
  have highSplit := Int.emod_add_mul_ediv high tile
  have highRemainder := Int.emod_lt_of_pos high positive
  rw [mul_comm] at lowSplit highSplit
  constructor
  · omega
  · split_ifs with rest <;> omega

theorem covers_add_of_mem {tiled : TiledRegion} {rect : QRect} {point : QPoint}
    (wide : 0 < tiled.tileWidth) (high : 0 < tiled.tileHeight)
    (left : 0 ≤ rect.x1) (top : 0 ≤ rect.y1) (member : point ∈ rect) :
    (tiled.add rect).Covers point := by
  rw [covers_add]
  right
  rw [QRect.mem_iff] at member ⊢
  have horizontal := axis_aligned wide left member.1 member.2.1
  have vertical := axis_aligned high top member.2.2.1 member.2.2.2
  exact ⟨horizontal.1, horizontal.2, vertical.1, vertical.2⟩

theorem mem_rects (regionRects : RegionRects) (tiled : TiledRegion) (point : QPoint) :
    (∃ rect ∈ tiled.rects regionRects, point ∈ rect) ↔ tiled.Covers point := by
  rw [rects, (vertically_unite_exact _ (regionRects.filled tiled.region)).2 point]
  exact regionRects.exact tiled.region point

theorem rects_filled (regionRects : RegionRects) (tiled : TiledRegion) :
    ∀ rect ∈ tiled.rects regionRects, rect.isEmpty = false :=
  (vertically_unite_exact _ (regionRects.filled tiled.region)).1

end TiledRegion

end Viridity.TileOperations
