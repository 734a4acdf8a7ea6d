import Mathlib.Data.Set.Finite.Lemmas
import Viridity.OptimizedOperations

/-!
# What tiles cover

The tiles of a rectangle are a partition of it, and uniting the rectangles of a region keeps
them one. The rectangles added to a tiled region are rounded to the grid of its tiles.
-/

namespace Viridity.ExactTiles

open Viridity.ExactCovers
open Viridity.QtRectangle
open Viridity.TileOperations
open Viridity.OptimizedOperations

set_option autoImplicit false

section Uniting

theorem unite_into_length (result : List QRect) (inputRect : QRect) :
    (uniteInto result inputRect).length ≤ result.length + 1 := by
  unfold uniteInto
  split_ifs
  · rw [List.length_map]
    exact Nat.le_succ _
  · rw [List.length_append, List.length_singleton]

theorem vertically_unite_length (rects : List QRect) :
    (verticallyUniteRects rects).length ≤ rects.length := by
  have folded : ∀ remaining result : List QRect,
      (remaining.foldl uniteInto result).length ≤ result.length + remaining.length := by
    intro remaining
    induction remaining with
    | nil =>
        intro result
        exact Nat.le_refl _
    | cons inputRect remaining induction =>
        intro result
        have step := unite_into_length result inputRect
        have later := induction (uniteInto result inputRect)
        rw [List.foldl_cons, List.length_cons]
        omega
  have whole := folded rects []
  rw [List.length_nil, Nat.zero_add] at whole
  exact whole

end Uniting

section Grid

def gridCell (tiled : TiledRegion) (column row : Int) : QRect :=
  QRect.ofSize (column * tiled.tileWidth) (row * tiled.tileHeight) tiled.tileWidth tiled.tileHeight

/-- A pixel of a cell that one of the rectangles meets. -/
def Touched (tiled : TiledRegion) (added : List QRect) (point : QPoint) : Prop :=
  ∃ column row, point ∈ gridCell tiled column row ∧
    ∃ rect ∈ added, ∃ pixel ∈ rect, pixel ∈ gridCell tiled column row

/-- From empty, adding the rectangles makes the region the union of the cells they meet. -/
def AddsTouched (tiled : TiledRegion) (added : List QRect) : Prop :=
  ∀ point, (added.foldl TiledRegion.add tiled.clear).Covers point ↔ Touched tiled added point

/-- The corners are not negative, but that an empty rectangle may end right in front of its
first column or row. -/
structure Placed (rect : QRect) : Prop where
  left : 0 ≤ rect.x1
  top : 0 ≤ rect.y1
  right : 0 ≤ rect.x2 ∨ rect.x2 = rect.x1 - 1
  bottom : 0 ≤ rect.y2 ∨ rect.y2 = rect.y1 - 1

/-- The last column or row is a whole tile or more in front of the tile with the first one. -/
def SkipsTile (first last tile : Int) : Prop := last + tile ≤ first - first % tile

variable {tiled : TiledRegion} {added : List QRect} {rect : QRect} {point : QPoint}

/-- Of a size that is not negative, only nothing skips a tile, and only a tile of one pixel. -/
theorem skips_tile_iff {first last tile : Int} (positive : 1 ≤ tile) (extent : first ≤ last + 1) :
    SkipsTile first last tile ↔ tile = 1 ∧ last + 1 = first := by
  have remainder := Int.emod_nonneg first (by omega : tile ≠ 0)
  unfold SkipsTile
  constructor
  · intro skips
    omega
  · intro pixel
    rw [pixel.1, Int.emod_one]
    omega

theorem clipped_placed (rect : QRect) (width height : Nat) :
    Placed (rect.intersected (QRect.ofSize 0 0 width height)) := by
  have null : Placed QRect.null := ⟨by decide, by decide, by decide, by decide⟩
  have image : QRect.axisBounds 0 (0 + width - 1) = (0, (width : Int) - 1) ∧
      QRect.axisBounds 0 (0 + height - 1) = (0, (height : Int) - 1) := by
    unfold QRect.axisBounds
    rw [if_neg (by omega), if_neg (by omega), Int.zero_add, Int.zero_add]
    exact ⟨rfl, rfl⟩
  unfold QRect.intersected QRect.ofSize
  rw [image.1, image.2]
  dsimp only
  split_ifs with _ beside below
  · exact null
  · exact null
  · exact null
  · simp only [Bool.or_eq_true, decide_eq_true_eq, not_or] at beside below
    constructor
    · dsimp only
      omega
    · dsimp only
      omega
    · dsimp only
      omega
    · dsimp only
      omega

theorem covers_foldl_add (added : List QRect) (tiled : TiledRegion) (point : QPoint) :
    (added.foldl TiledRegion.add tiled).Covers point ↔
      tiled.Covers point ∨ ∃ rect ∈ added, point ∈ tiled.alignedRect rect := by
  induction added generalizing tiled with
  | nil => simp
  | cons rect added induction =>
      rw [List.foldl_cons, induction, TiledRegion.covers_add, or_assoc]
      simp only [List.mem_cons, or_and_right, exists_or, exists_eq_left]
      exact Iff.rfl

theorem covers_added (added : List QRect) (tiled : TiledRegion) (point : QPoint) :
    (added.foldl TiledRegion.add tiled.clear).Covers point ↔
      ∃ rect ∈ added, point ∈ tiled.alignedRect rect := by
  rw [covers_foldl_add]
  exact or_iff_right (TiledRegion.not_covers_clear tiled point)

section Sizes

variable (wide : 1 ≤ tiled.tileWidth) (high : 1 ≤ tiled.tileHeight)

include wide high

theorem mem_grid_cell (column row : Int) : point ∈ gridCell tiled column row ↔
    point.x / tiled.tileWidth = column ∧ point.y / tiled.tileHeight = row := by
  have axis : ∀ entry tile index : Int, 1 ≤ tile →
      (entry / tile = index ↔ index * tile ≤ entry ∧ entry < index * tile + tile) := by
    intro entry tile index positive
    have next : index * tile + tile = (index + 1) * tile := by ring
    rw [next, ← Int.le_ediv_iff_mul_le (by omega), ← Int.ediv_lt_iff_lt_mul (by omega)]
    omega
  unfold gridCell
  rw [QRect.mem_of_size, axis _ _ _ wide, axis _ _ _ high]
  omega

theorem touched_iff : Touched tiled added point ↔ ∃ rect ∈ added, ∃ pixel ∈ rect,
    pixel.x / tiled.tileWidth = point.x / tiled.tileWidth ∧
      pixel.y / tiled.tileHeight = point.y / tiled.tileHeight := by
  unfold Touched
  simp only [mem_grid_cell wide high]
  constructor
  · intro touched
    obtain ⟨column, row, inCell, rect, member, pixel, inside, here⟩ := touched
    exact ⟨rect, member, pixel, inside, here.1.trans inCell.1.symm, here.2.trans inCell.2.symm⟩
  · intro touched
    obtain ⟨rect, member, pixel, inside, here⟩ := touched
    exact ⟨_, _, ⟨rfl, rfl⟩, rect, member, pixel, inside, here⟩

end Sizes

/-- Division towards zero rounds the edge in front of the axis to the end of the first tile. -/
theorem rounded_before_first {tile : Int} (several : 2 ≤ tile) : (-1 : Int).tdiv tile * tile +
    (if (-1 : Int).tmod tile ≠ 0 then tile else 0) = tile := by
  rw [Int.neg_tdiv, Int.neg_tmod, Int.tdiv_eq_ediv_of_nonneg (by omega),
    Int.tmod_eq_emod_of_nonneg (by omega), Int.ediv_eq_zero_of_lt (by omega) (by omega),
    Int.emod_eq_of_lt (by omega) (by omega), if_pos (by omega)]
  omega

/-- The edges of an axis as `operator+=` rounds them are in order unless a tile is skipped. -/
theorem aligned_axis_iff {first last tile : Int} (positive : 1 ≤ tile) (low : 0 ≤ first)
    (high : 0 ≤ last ∨ last = first - 1) :
    first.tdiv tile * tile ≤ last.tdiv tile * tile + (if last.tmod tile ≠ 0 then tile else 0) ↔
      ¬ SkipsTile first last tile := by
  have firstSplit := Int.emod_add_mul_ediv first tile
  unfold SkipsTile
  rw [Int.tdiv_eq_ediv_of_nonneg low, mul_comm (first / tile) tile]
  by_cases reached : 0 ≤ last
  · have lastSplit := Int.emod_add_mul_ediv last tile
    have lastRest := Int.emod_nonneg last (by omega : tile ≠ 0)
    have lastBelow := Int.emod_lt_of_pos last (by omega : 0 < tile)
    rw [Int.tdiv_eq_ediv_of_nonneg reached, Int.tmod_eq_emod_of_nonneg reached,
      mul_comm (last / tile) tile]
    -- the quotients are equal, or one apart, or further
    have apart : first / tile ≤ last / tile ∨ first / tile = last / tile + 1 ∨
        last / tile + 2 ≤ first / tile := by omega
    have scaled : (tile * (first / tile) ≤ tile * (last / tile)) ∨
        tile * (first / tile) = tile * (last / tile) + tile ∨
          tile * (last / tile) + 2 * tile ≤ tile * (first / tile) := by
      rcases apart with before | same | behind
      · exact Or.inl (Int.mul_le_mul_of_nonneg_left before (by omega))
      · rw [same]
        exact Or.inr (Or.inl (by ring))
      · have grown := Int.mul_le_mul_of_nonneg_left behind (by omega : 0 ≤ tile)
        exact Or.inr (Or.inr (by linarith))
    split_ifs with rest
    · omega
    · omega
  · have corner : first = 0 ∧ last = -1 := by omega
    rw [corner.1, corner.2]
    by_cases pixel : tile = 1
    · rw [pixel]
      decide
    · rw [rounded_before_first (by omega)]
      simp only [Int.zero_ediv, Int.zero_emod, mul_zero]
      omega

/-- Where each item of a list that counts has one that counts beyond it, none counts. -/
theorem no_last {Item : Type*} {items : List Item} {counts : Item → Prop} (place : Item → Int)
    (beyond : ∀ item ∈ items, counts item →
      ∃ later ∈ items, counts later ∧ place item < place later) :
    ∀ item ∈ items, ¬ counts item := by
  intro item member counted
  obtain ⟨last, lastCounts, furthest⟩ := Set.exists_max_image
    {item | item ∈ items ∧ counts item} place
    (items.finite_toSet.subset fun _ both => both.1) ⟨item, member, counted⟩
  obtain ⟨later, laterMember, laterCounts, further⟩ := beyond last lastCounts.1 lastCounts.2
  exact absurd (furthest later ⟨laterMember, laterCounts⟩) (not_le.mpr further)

section Rounding

theorem aligned_pixels (pixels : tiled.tileWidth = 1 ∧ tiled.tileHeight = 1) :
    tiled.alignedRect rect = rect := by
  unfold TiledRegion.alignedRect
  rw [pixels.1, pixels.2]
  simp

variable (wide : 1 ≤ tiled.tileWidth) (high : 1 ≤ tiled.tileHeight)

include wide high

theorem aligned_empty_iff (placed : Placed rect) : (tiled.alignedRect rect).isEmpty = true ↔
    SkipsTile rect.x1 rect.x2 tiled.tileWidth ∨ SkipsTile rect.y1 rect.y2 tiled.tileHeight := by
  have across := aligned_axis_iff wide placed.left placed.right
  have down := aligned_axis_iff high placed.top placed.bottom
  rw [← not_iff_not, Bool.not_eq_true, QRect.not_is_empty_iff, not_or, ← across, ← down]
  rfl

theorem skips_no_pixel (inside : point ∈ rect) :
    ¬ (SkipsTile rect.x1 rect.x2 tiled.tileWidth ∨
      SkipsTile rect.y1 rect.y2 tiled.tileHeight) := by
  have across := Int.emod_nonneg rect.x1 (by omega : tiled.tileWidth ≠ 0)
  have down := Int.emod_nonneg rect.y1 (by omega : tiled.tileHeight ≠ 0)
  rw [QRect.mem_iff] at inside
  unfold SkipsTile
  omega

/-- Where the touched tiles are added, the rest of a tile is covered with each of its pixels. -/
theorem covers_whole_tile (exact : AddsTouched tiled added) (member : rect ∈ added)
    (inside : point ∈ tiled.alignedRect rect) {other : QPoint}
    (same : other.x / tiled.tileWidth = point.x / tiled.tileWidth ∧
      other.y / tiled.tileHeight = point.y / tiled.tileHeight) :
    ∃ later ∈ added, other ∈ tiled.alignedRect later := by
  have covered := (covers_added added tiled point).mpr ⟨rect, member, inside⟩
  rw [exact point, touched_iff wide high, ← same.1, ← same.2, ← touched_iff wide high,
    ← exact other, covers_added] at covered
  exact covered

/-- The last edge of a rounded rectangle is the first of a tile, which goes on. -/
theorem rounded_not_last (exact : AddsTouched tiled added) (member : rect ∈ added)
    (filled : (tiled.alignedRect rect).isEmpty = false) :
    (2 ≤ tiled.tileWidth → ∃ later ∈ added, (tiled.alignedRect later).isEmpty = false ∧
      (tiled.alignedRect rect).x2 < (tiled.alignedRect later).x2) ∧
    (2 ≤ tiled.tileHeight → ∃ later ∈ added, (tiled.alignedRect later).isEmpty = false ∧
      (tiled.alignedRect rect).y2 < (tiled.alignedRect later).y2) := by
  have edge : ∀ last tile : Int, 2 ≤ tile →
      (last.tdiv tile * tile + (if last.tmod tile ≠ 0 then tile else 0) + 1) / tile =
        (last.tdiv tile * tile + if last.tmod tile ≠ 0 then tile else 0) / tile := by
    intro last tile several
    obtain ⟨index, multiple⟩ : ∃ index, last.tdiv tile * tile +
        (if last.tmod tile ≠ 0 then tile else 0) = index * tile := by
      split_ifs
      · exact ⟨last.tdiv tile + 1, by ring⟩
      · exact ⟨last.tdiv tile, by ring⟩
    rw [multiple, Int.add_comm, Int.add_mul_ediv_right _ _ (by omega),
      Int.ediv_eq_zero_of_lt (by omega) (by omega), Int.mul_ediv_cancel _ (by omega), Int.zero_add]
  constructor
  · intro several
    obtain ⟨later, laterMember, inside⟩ := @covers_whole_tile _ _ _ _ wide high exact member
      (QRect.bottom_right_mem filled)
      ⟨(tiled.alignedRect rect).x2 + 1, (tiled.alignedRect rect).y2⟩
      ⟨edge rect.x2 tiled.tileWidth several, rfl⟩
    refine ⟨later, laterMember, QRect.not_empty_of_mem inside, ?_⟩
    have within := (QRect.mem_iff.mp inside).2.1
    exact within
  · intro several
    obtain ⟨later, laterMember, inside⟩ := @covers_whole_tile _ _ _ _ wide high exact member
      (QRect.bottom_right_mem filled)
      ⟨(tiled.alignedRect rect).x2, (tiled.alignedRect rect).y2 + 1⟩
      ⟨rfl, edge rect.y2 tiled.tileHeight several⟩
    refine ⟨later, laterMember, QRect.not_empty_of_mem inside, ?_⟩
    have within := (QRect.mem_iff.mp inside).2.2.2
    exact within

/-- Adding makes the region the touched tiles exactly if tiles are single pixels or every
rectangle skips a tile. -/
theorem adds_touched_iff (placed : ∀ rect ∈ added, Placed rect) :
    AddsTouched tiled added ↔ (tiled.tileWidth = 1 ∧ tiled.tileHeight = 1) ∨
      ∀ rect ∈ added, SkipsTile rect.x1 rect.x2 tiled.tileWidth ∨
        SkipsTile rect.y1 rect.y2 tiled.tileHeight := by
  constructor
  · intro exact
    by_cases pixels : tiled.tileWidth = 1 ∧ tiled.tileHeight = 1
    · exact Or.inl pixels
    right
    intro rect member
    rw [← aligned_empty_iff wide high (placed rect member)]
    by_contra filled
    rw [Bool.not_eq_true] at filled
    have further := fun {rect : QRect} (member : rect ∈ added) =>
      @rounded_not_last tiled added rect wide high exact member
    by_cases several : 2 ≤ tiled.tileWidth
    · exact no_last (fun rect => (tiled.alignedRect rect).x2)
        (fun rect member filled => (further member filled).1 several) rect member filled
    · exact no_last (fun rect => (tiled.alignedRect rect).y2)
        (fun rect member filled => (further member filled).2 (by omega)) rect member filled
  · intro condition point
    rw [covers_added, touched_iff wide high]
    rcases condition with pixels | skips
    · simp only [aligned_pixels pixels, pixels.1, pixels.2, Int.ediv_one]
      constructor
      · intro covered
        obtain ⟨rect, member, inside⟩ := covered
        exact ⟨rect, member, point, inside, rfl, rfl⟩
      · intro touched
        obtain ⟨rect, member, pixel, inside, across, down⟩ := touched
        exact ⟨rect, member, QPoint.ext_coordinates across down ▸ inside⟩
    · apply iff_of_false
      · intro covered
        obtain ⟨rect, member, inside⟩ := covered
        have empty := (aligned_empty_iff wide high (placed rect member)).mpr (skips rect member)
        rw [QRect.not_empty_of_mem inside] at empty
        cases empty
      · intro touched
        obtain ⟨rect, member, pixel, inside, _⟩ := touched
        exact skips_no_pixel wide high inside (skips rect member)

end Rounding

theorem pixel_tiles_touched : AddsTouched (TiledRegion.create 1 1) [⟨2, 3, 4, 5⟩, QRect.null] := by
  have placed : ∀ rect ∈ [⟨2, 3, 4, 5⟩, QRect.null], Placed rect := by
    intro rect member
    rcases List.mem_cons.mp member with first | second
    · rw [first]
      exact ⟨by decide, by decide, by decide, by decide⟩
    · rw [List.mem_singleton.mp second]
      exact ⟨by decide, by decide, by decide, by decide⟩
  exact (adds_touched_iff (by decide) (by decide) placed).mpr (Or.inl ⟨rfl, rfl⟩)

/-- A single tile brings the first pixels of the tile beside it. -/
theorem tile_brings_next_column : ¬ ∀ (tiled : TiledRegion) (added : List QRect),
    1 ≤ tiled.tileWidth → 1 ≤ tiled.tileHeight → (∀ rect ∈ added, Placed rect) →
      AddsTouched tiled added := by
  intro claim
  have placed : ∀ rect ∈ [(⟨0, 0, 19, 19⟩ : QRect)], Placed rect := by
    intro rect member
    rw [List.mem_singleton.mp member]
    exact ⟨by decide, by decide, by decide, by decide⟩
  have touched := (claim (TiledRegion.create 20 20) _ (by decide) (by decide) placed ⟨20, 0⟩).mp
    ((covers_added _ _ _).mpr ⟨_, List.mem_cons_self, by decide⟩)
  rw [touched_iff (by decide) (by decide)] at touched
  obtain ⟨rect, member, pixel, inside, across, _⟩ := touched
  rw [List.mem_singleton.mp member, QRect.mem_iff] at inside
  simp only [TiledRegion.create] at across
  dsimp only at inside
  omega

section Spurious

variable (wide : 2 ≤ tiled.tileWidth) (high : 2 ≤ tiled.tileHeight)

include wide high

theorem aligned_cell {column row : Int} (left : 0 ≤ column) (top : 0 ≤ row) :
    tiled.alignedRect (gridCell tiled column row) =
      (gridCell tiled column row).adjusted 0 0 1 1 := by
  have axis : ∀ index tile : Int, 0 ≤ index → 2 ≤ tile →
      (index * tile).tdiv tile * tile = index * tile ∧
        (index * tile + tile - 1).tdiv tile * tile +
          (if (index * tile + tile - 1).tmod tile ≠ 0 then tile else 0) = index * tile + tile := by
    intro index tile reached several
    have start : 0 ≤ index * tile := Int.mul_nonneg reached (by omega)
    have last : index * tile + tile - 1 = tile - 1 + index * tile := by ring
    rw [Int.mul_tdiv_cancel _ (by omega), Int.tdiv_eq_ediv_of_nonneg (by omega),
      Int.tmod_eq_emod_of_nonneg (by omega), last, Int.add_mul_ediv_right _ _ (by omega),
      Int.ediv_eq_zero_of_lt (by omega) (by omega), Int.add_mul_emod_self_right,
      Int.emod_eq_of_lt (by omega) (by omega), if_pos (by omega), Int.zero_add]
    exact ⟨rfl, rfl⟩
  have across := axis column tiled.tileWidth left wide
  have down := axis row tiled.tileHeight top high
  unfold TiledRegion.alignedRect gridCell QRect.ofSize QRect.adjusted
  dsimp only
  rw [across.1, across.2, down.1, down.2]
  congr 1 <;> omega

theorem aligned_null :
    tiled.alignedRect QRect.null = QRect.ofCorners ⟨0, 0⟩ ⟨tiled.tileWidth, tiled.tileHeight⟩ := by
  unfold TiledRegion.alignedRect QRect.null QRect.ofCorners
  dsimp only
  rw [rounded_before_first wide, rounded_before_first high, Int.zero_tdiv, Int.zero_tdiv,
    Int.zero_mul, Int.zero_mul]

end Spurious

end Grid

end Viridity.ExactTiles
