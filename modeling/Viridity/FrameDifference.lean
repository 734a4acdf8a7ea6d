import Viridity.FrameComparison

/-!
# The difference of two frames

Each stage hands on operations that repair its area: the tiles of one rectangle,
the rectangle, all rectangles, and after the optimiser the same strokes again.
-/

namespace Viridity.FrameDifference

open Viridity.QtRectangle
open Viridity.ImageAux
open Viridity.PaintedCanvas
open Viridity.TileOperations
open Viridity.MoveAnalysis
open Viridity.ImageComparerOpTools
open Viridity.FrameComparison
open UpdateOperationType

set_option autoImplicit false

variable {before after : QImage} {comparer : ImageComparer}

/-- The operations are those of the tiles, whatever the state of the analyzer and
the operation passed in were for each tile. -/
structure Collects (comparer : ImageComparer) (before after : QImage) (minified : Bool)
    (tiles : List QRect) (ops : List UpdateOperation) : Prop where
  origin : ∀ point stroke, Draws ops point stroke → ∃ tile ∈ tiles, ∃ op search,
    Draws (processRect comparer before after minified tile op search).1.toList point stroke
  kept : ∀ tile ∈ tiles, ∃ op search, ∀ point stroke,
    Draws (processRect comparer before after minified tile op search).1.toList point stroke →
      Draws ops point stroke

theorem draws_cons (op : UpdateOperation) (ops : List UpdateOperation) (point : QPoint)
    (stroke : Stroke) :
    Draws (op :: ops) point stroke ↔ op.strokeAt point = some stroke ∨ Draws ops point stroke := by
  simp [Draws]

theorem not_draws_nil (point : QPoint) (stroke : Stroke) : ¬Draws [] point stroke := by
  simp [Draws]

theorem Collects.cons {minified : Bool} {tile : QRect} {tiles : List QRect}
    {ops others : List UpdateOperation} (op : UpdateOperation) (search : MoveSearch)
    (rest : Collects comparer before after minified tiles ops)
    (head : ∀ point stroke, Draws others point stroke ↔
      Draws (processRect comparer before after minified tile op search).1.toList point stroke ∨
        Draws ops point stroke) :
    Collects comparer before after minified (tile :: tiles) others where
  origin := by
    intro point stroke drawn
    rcases (head point stroke).mp drawn with first | later
    · exact ⟨tile, List.mem_cons_self, op, search, first⟩
    · obtain ⟨source, member, found⟩ := rest.origin point stroke later
      exact ⟨source, List.mem_cons_of_mem tile member, found⟩
  kept := by
    intro source member
    rcases List.mem_cons.mp member with same | later
    · subst same
      exact ⟨op, search, fun point stroke drawn => (head point stroke).mpr (Or.inl drawn)⟩
    · obtain ⟨other, seen, found⟩ := rest.kept source later
      exact ⟨other, seen, fun point stroke drawn =>
        (head point stroke).mpr (Or.inr (found point stroke drawn))⟩

theorem Collects.nil (minified : Bool) : Collects comparer before after minified [] [] where
  origin := by
    intro point stroke drawn
    exact absurd drawn (not_draws_nil point stroke)
  kept := by
    intro tile member
    exact absurd member List.not_mem_nil

theorem process_tiles_collects (minified : Bool) (tiles : List QRect) (op : UpdateOperation)
    (search : MoveSearch) :
    Collects comparer before after minified tiles
      (processTiles comparer before after minified tiles op search).1 := by
  induction tiles generalizing op search with
  | nil => exact Collects.nil minified
  | cons rect rest induction =>
      simp only [processTiles]
      apply Collects.cons op search (induction _ _)
      intro point stroke
      exact draws_append _ _ point stroke

theorem mapped_collects (minified : Bool) {tiles : List QRect} {outputs : List UpdateOperation}
    (mapped : List.Forall₂ (fun tile output => ∃ seen,
      output = (mapProcessRect comparer before after minified tile seen).1) tiles outputs) :
    Collects comparer before after minified tiles outputs := by
  induction mapped with
  | nil => exact Collects.nil minified
  | @cons tile output tiles outputs produced _ induction =>
      obtain ⟨seen, same⟩ := produced
      apply Collects.cons UpdateOperation.default seen induction
      intro point stroke
      rw [draws_cons, same, mapProcessRect]
      rcases processRect comparer before after minified tile UpdateOperation.default seen with
        ⟨found, later⟩
      cases found with
      | some found => simp only [Option.getD_some, Option.toList, draws_singleton]
      | none =>
          simp only [Option.getD_none, Option.toList, not_draws_nil, false_or]
          simp [UpdateOperation.strokeAt, UpdateOperation.default]

theorem Collects.congr {minified : Bool} {tiles : List QRect} {ops others : List UpdateOperation}
    (same : ∀ point stroke, Draws others point stroke ↔ Draws ops point stroke)
    (collects : Collects comparer before after minified tiles ops) :
    Collects comparer before after minified tiles others where
  origin := by
    intro point stroke drawn
    exact collects.origin point stroke ((same point stroke).mp drawn)
  kept := by
    intro tile member
    obtain ⟨op, search, found⟩ := collects.kept tile member
    exact ⟨op, search, fun point stroke drawn => (same point stroke).mpr (found point stroke drawn)⟩

theorem draws_reduced {ops outputs : List UpdateOperation} (perm : ops.Perm outputs)
    (point : QPoint) (stroke : Stroke) :
    Draws (ops.filter fun op => op.type != uotNoOp) point stroke ↔ Draws outputs point stroke := by
  constructor
  · apply draws_of_subset
    intro op member
    exact perm.mem_iff.mp (List.mem_filter.mp member).1
  · rintro ⟨op, member, drawn⟩
    refine ⟨op, List.mem_filter.mpr ⟨perm.mem_iff.mpr member, ?_⟩, drawn⟩
    by_contra kind
    have idle : op.type = uotNoOp := by simpa using kind
    simp [UpdateOperation.strokeAt, idle] at drawn

section Stages

variable (sameSize : QImage.SameSize before after)

include sameSize

theorem Collects.repairs {minified : Bool} {tiles : List QRect} {ops : List UpdateOperation}
    (collects : Collects comparer before after minified tiles ops)
    (valid : ∀ tile ∈ tiles, tile.isEmpty = false ∧ (analyzer comparer before after).Searchable tile) :
    Repairs before after (fun point => ∃ tile ∈ tiles, TilePixel before tile point) ops where
  sound := by
    intro point inside stroke drawn
    obtain ⟨tile, member, op, search, found⟩ := collects.origin point stroke drawn
    exact (process_rect_repairs sameSize comparer minified (valid tile member).1
      (valid tile member).2 op search).sound point inside stroke found
  complete := by
    rintro point inside ⟨tile, member, pixel⟩ differs
    obtain ⟨op, search, found⟩ := collects.kept tile member
    obtain ⟨stroke, drawn, shows⟩ := (process_rect_repairs sameSize comparer minified
      (valid tile member).1 (valid tile member).2 op search).complete point inside pixel differs
    exact ⟨stroke, found point stroke drawn, shows⟩

/-- The minimal rectangle lies in the image, or it is the stray one of an area
outside the image. -/
theorem find_changed_cases {searchArea : QRect} (areaFilled : searchArea.isEmpty = false)
    (imageFilled : before.rect.isEmpty = false) :
    ((∀ point ∈ findChangedRect32 before after searchArea, point ∈ before.rect) ∧
      ∀ point ∈ before.rect, point ∈ searchArea → before.pixel point ≠ after.pixel point →
        point ∈ findChangedRect32 before after searchArea) ∨
    (findChangedRect32 before after searchArea = strayRect ∧
      ∀ point ∈ before.rect, point ∉ searchArea) := by
  by_cases meets : ∃ point ∈ searchArea, point ∈ before.rect
  · have spec := find_changed_rect_spec sameSize areaFilled meets
    left
    constructor
    · intro point member
      exact (spec.2 point member).2
    · intro point inside member differs
      exact spec.1 point member inside differs
  · right
    have misses : ∀ point ∈ searchArea, point ∉ before.rect := by
      intro point member inside
      exact meets ⟨point, member, inside⟩
    refine ⟨find_changed_rect_stray areaFilled imageFilled misses, ?_⟩
    intro point inside member
    exact misses point member inside

theorem searchable_of_part {minSearchRect tile : QRect}
    (place : (∀ point ∈ minSearchRect, point ∈ before.rect) ∨ minSearchRect = strayRect)
    (part : ∀ point ∈ tile, point ∈ minSearchRect) :
    (analyzer comparer before after).Searchable tile := by
  rcases place with inside | stray
  · left
    intro point member
    change point ∈ after.rect
    rw [← QImage.same_size_rect sameSize]
    exact inside point (part point member)
  · right
    intro point member
    exact stray ▸ part point member

def MoveFor (comparer : ImageComparer) (before after : QImage) (tile : QRect)
    (move : MoveOperation) : Prop :=
  move.srcRect.isEmpty = false ∧ move.dstPoint = tile.topLeft ∧
    (analyzer comparer before after).FoundMove tile move.srcRect

theorem moves_repair {moves : List MoveOperation}
    (sound : ∀ move ∈ moves, ∃ tile, MoveFor comparer before after tile move) :
    Repairs before after
      (fun point => ∃ move ∈ moves, ∃ tile, MoveFor comparer before after tile move ∧
        TilePixel before tile point)
      (moves.map ofMove) where
  sound := by
    intro point inside stroke drawn
    rcases drawn with ⟨op, opMember, hit⟩
    rcases List.mem_map.mp opMember with ⟨move, member, rfl⟩
    obtain ⟨tile, moved, target, found⟩ := sound move member
    exact (@move_stroke (analyzer comparer before after) tile (ofMove move) sameSize rfl target
      moved found point inside).1 stroke hit
  complete := by
    rintro point inside ⟨move, member, tile, ⟨moved, target, found⟩, pixel⟩ _
    obtain ⟨stroke, hit, shows⟩ := (@move_stroke (analyzer comparer before after) tile
      (ofMove move) sameSize rfl target moved found point inside).2 pixel
    exact ⟨stroke, ⟨ofMove move, List.mem_map_of_mem member, hit⟩, shows⟩

/-- Moves and tiles that make up a rectangle together: the moves repair some part
of it and the tiles cover the rest. -/
structure SplitsInto (before after : QImage) (minSearchRect : QRect)
    (moves : List UpdateOperation) (tiles : List QRect) : Prop where
  parts : ∀ tile ∈ tiles, tile.isEmpty = false ∧ ∀ point ∈ tile, point ∈ minSearchRect
  covered : ∃ moved : QPoint → Prop, Repairs before after moved moves ∧
    ((∀ point ∈ minSearchRect, point ∈ before.rect) → ∀ point ∈ minSearchRect,
      moved point ∨ ∃ tile ∈ tiles, point ∈ tile)

omit sameSize in
theorem splits_into_tiles {minSearchRect : QRect} {tileWidth : Int} (wide : 0 < tileWidth)
    (minFilled : minSearchRect.isEmpty = false) :
    SplitsInto before after minSearchRect [] (splitRectIntoTiles minSearchRect tileWidth tileWidth) where
  parts := (split_rect_into_tiles_spec wide wide minFilled).1
  covered := by
    refine ⟨fun _ => False, Repairs.none before after (by simp), ?_⟩
    intro _ point member
    exact Or.inr ((split_rect_into_tiles_spec wide wide minFilled).2 point member)

theorem splits_into_moves (regionRects : RegionRects) {minSearchRect : QRect} {tileWidth : Int}
    (wide : 0 < tileWidth) (templates : 0 < comparer.settings.moveTileWidth)
    (minFilled : minSearchRect.isEmpty = false)
    (place : (∀ point ∈ minSearchRect, point ∈ before.rect) ∨ minSearchRect = strayRect)
    {additionalSearchAreas leftovers : List QRect} {search later : MoveSearch}
    {moves : List MoveOperation}
    (found : (analyzer comparer before after).findMoveOperations minSearchRect
      additionalSearchAreas search = (moves, leftovers, later)) :
    SplitsInto before after minSearchRect (moves.map ofMove)
      ((verticallyUniteRects (regionRects.rects leftovers)).flatMap fun rect =>
        splitRectIntoTiles rect tileWidth tileWidth) := by
  have small := split_rect_into_tiles_spec templates templates minFilled
  have spec := MoveAnalyzer.move_tiles_spec
    (show QImage.SameSize (analyzer comparer before after).imageBefore
      (analyzer comparer before after).imageAfter from sameSize) additionalSearchAreas
    (splitRectIntoTiles minSearchRect comparer.settings.moveTileWidth
      comparer.settings.moveTileWidth) (MoveAnalyzer.startNewSearch search)
    (fun tile member => ⟨(small.1 tile member).1,
      searchable_of_part sameSize place (small.1 tile member).2⟩)
  simp only [MoveAnalyzer.findMoveOperations] at found
  rw [show (analyzer comparer before after).templateWidth = comparer.settings.moveTileWidth from rfl]
    at found
  rw [found] at spec
  obtain ⟨sound, leftover, complete⟩ := spec
  have united := vertically_unite_exact _ (regionRects.filled leftovers)
  have pieces := fun rect member => split_rect_into_tiles_spec wide wide (united.1 rect member)
  constructor
  · intro tile member
    obtain ⟨rect, rectMember, part⟩ := List.mem_flatMap.mp member
    refine ⟨((pieces rect rectMember).1 tile part).1, ?_⟩
    intro point pointMember
    have hit := ((pieces rect rectMember).1 tile part).2 point pointMember
    obtain ⟨source, sourceMember, inside⟩ :=
      (regionRects.exact _ point).mp ((united.2 point).mp ⟨rect, rectMember, hit⟩)
    exact (small.1 source (leftover source sourceMember)).2 point inside
  · refine ⟨_, @moves_repair before after comparer sameSize moves ?_, ?_⟩
    · intro move member
      obtain ⟨tile, _, facts⟩ := sound move member
      exact ⟨tile, facts⟩
    · intro inside point member
      obtain ⟨tile, tileMember, hit⟩ := small.2 point member
      rcases complete tile tileMember with kept | ⟨move, moveMember, facts⟩
      · right
        obtain ⟨rect, rectMember, covered⟩ := (united.2 point).mpr
          ((regionRects.exact _ point).mpr ⟨tile, kept, hit⟩)
        obtain ⟨piece, pieceMember, within⟩ := (pieces rect rectMember).2 point covered
        exact ⟨piece, List.mem_flatMap.mpr ⟨rect, rectMember, pieceMember⟩, within⟩
      · left
        exact ⟨move, moveMember, tile, facts, hit,
          fun other otherMember => inside other ((small.1 tile tileMember).2 other otherMember)⟩

theorem moves_and_tiles_split (regionRects : RegionRects) (tileable : comparer.settings.Tileable)
    {minSearchRect : QRect} (minFilled : minSearchRect.isEmpty = false)
    (place : (∀ point ∈ minSearchRect, point ∈ before.rect) ∨ minSearchRect = strayRect)
    {additionalSearchAreas tiles : List QRect} {search later : MoveSearch}
    {moves : List UpdateOperation}
    (found : movesAndTiles regionRects comparer before after minSearchRect additionalSearchAreas
      search = (moves, tiles, later)) :
    SplitsInto before after minSearchRect moves tiles := by
  have wide : 0 < comparer.settings.tileWidth := by
    have := tileable.1
    omega
  by_cases fine : (comparer.settings.analyzeMoves && comparer.settings.fineGrainedMoves) = true
  · have grained : comparer.settings.fineGrainedMoves = true := (Bool.and_eq_true _ _ ▸ fine).2
    have templates : 0 < comparer.settings.moveTileWidth := by
      have enough := tileable.2 grained
      simp only [ComparerSettings.moveTileWidth, grained, if_true]
      rw [Int.tdiv_eq_ediv_of_nonneg (by omega)]
      omega
    simp only [movesAndTiles, if_pos fine, Prod.mk.injEq] at found
    obtain ⟨rfl, rfl, _⟩ := found
    exact splits_into_moves sameSize regionRects wide templates minFilled place rfl
  · simp only [movesAndTiles, if_neg fine, Prod.mk.injEq] at found
    obtain ⟨rfl, rfl, _⟩ := found
    exact splits_into_tiles wide minFilled

theorem tiles_repair (mappedReduced : MappedReduced) (minified : Bool) {tiles : List QRect}
    (valid : ∀ tile ∈ tiles, tile.isEmpty = false ∧ (analyzer comparer before after).Searchable tile)
    (op : UpdateOperation) (search : MoveSearch) :
    Repairs before after (fun point => ∃ tile ∈ tiles, TilePixel before tile point)
      (processTiles comparer before after minified tiles op search).1 ∧
    Repairs before after (fun point => ∃ tile ∈ tiles, TilePixel before tile point)
      ((mappedReduced.run (mapProcessRect comparer before after minified) tiles search).1.filter
        fun op => op.type != uotNoOp) := by
  constructor
  · exact (process_tiles_collects minified tiles op search).repairs sameSize valid
  · obtain ⟨outputs, mapped, perm⟩ :=
      mappedReduced.mapped (mapProcessRect comparer before after minified) tiles search
    exact ((mapped_collects minified mapped).congr (draws_reduced perm)).repairs sameSize valid

/-- One search area: its operations repair it. -/
theorem find_update_operations_repairs (regionRects : RegionRects) (mappedReduced : MappedReduced)
    (tileable : comparer.settings.Tileable) (imageFilled : before.rect.isEmpty = false)
    {searchArea : QRect} (areaFilled : searchArea.isEmpty = false)
    (additionalSearchAreas : List QRect) (search : MoveSearch) :
    Repairs before after (fun point => point ∈ searchArea)
      (findUpdateOperations regionRects mappedReduced comparer before after searchArea
        additionalSearchAreas search).1 := by
  have whole := find_changed_cases sameSize areaFilled imageFilled
  have place : (∀ point ∈ findChangedRect32 before after searchArea, point ∈ before.rect) ∨
      findChangedRect32 before after searchArea = strayRect := by
    rcases whole with inside | stray
    · exact Or.inl inside.1
    · exact Or.inr stray.1
  have changed : ∀ point ∈ before.rect, point ∈ searchArea →
      before.pixel point ≠ after.pixel point →
      point ∈ findChangedRect32 before after searchArea ∧
        ∀ other ∈ findChangedRect32 before after searchArea, other ∈ before.rect := by
    intro point inside member differs
    rcases whole with inner | stray
    · exact ⟨inner.2 point inside member differs, inner.1⟩
    · exact absurd member (stray.2 point inside)
  simp only [findUpdateOperations]
  by_cases empty : (findChangedRect32 before after searchArea).isEmpty = true
  · rw [if_pos empty]
    apply Repairs.none
    intro point inside member
    by_contra differs
    have hit := (changed point inside member differs).1
    exact absurd ((QRect.not_empty_of_mem hit).symm.trans empty) (by simp)
  · rw [if_neg empty]
    rw [Bool.not_eq_true] at empty
    rcases found : movesAndTiles regionRects comparer before after
      (findChangedRect32 before after searchArea) additionalSearchAreas search with
      ⟨moves, tiles, later⟩
    have split := moves_and_tiles_split sameSize regionRects tileable empty place found
    have processed := tiles_repair sameSize mappedReduced (useMinifiedTile comparer.settings tiles)
      (fun tile member => ⟨(split.parts tile member).1,
        @searchable_of_part before after comparer sameSize _ tile place (split.parts tile member).2⟩)
      (moves.getLastD UpdateOperation.default) later
    obtain ⟨moved, movesRepair, covered⟩ := split.covered
    have share : ∀ point ∈ before.rect, point ∈ searchArea →
        before.pixel point ≠ after.pixel point →
        moved point ∨ ∃ tile ∈ tiles, TilePixel before tile point := by
      intro point inside member differs
      obtain ⟨hit, within⟩ := changed point inside member differs
      rcases covered within point hit with early | ⟨tile, tileMember, part⟩
      · exact Or.inl early
      · exact Or.inr ⟨tile, tileMember, part, fun other otherMember =>
          within other ((split.parts tile tileMember).2 other otherMember)⟩
    simp only
    split_ifs
    · exact movesRepair.append processed.2 share
    · exact movesRepair.append processed.1 share

theorem content_matches_in_place {rect : QRect}
    (matching : contentMatches before after rect.topLeft rect = true) {point : QPoint}
    (member : point ∈ rect) (inside : point ∈ before.rect) :
    before.pixel point = after.pixel point := by
  have placed : QRect.ofSize rect.topLeft.x rect.topLeft.y rect.width rect.height = rect := by
    cases rect
    simp only [QRect.ofSize, QRect.topLeft, QRect.width, QRect.height]
    congr 1 <;> omega
  simp only [contentMatches, placed, ← QImage.same_size_rect sameSize] at matching
  have met := (QRect.mem_intersected (QRect.not_empty_of_mem member)
    (QRect.not_empty_of_mem inside) point).mpr ⟨member, inside⟩
  rw [QRect.mem_iff] at met
  split_ifs at matching
  have pixels := content_matches_at_sound matching (point.x - (rect.intersected before.rect).x1)
    (point.y - (rect.intersected before.rect).y1) (by omega)
    (by simp only [QRect.width]; omega) (by omega) (by simp only [QRect.height]; omega)
  have same : (⟨(rect.intersected before.rect).topLeft.x +
        (point.x - (rect.intersected before.rect).x1),
      (rect.intersected before.rect).topLeft.y +
        (point.y - (rect.intersected before.rect).y1)⟩ : QPoint) = point := by
    apply QPoint.ext_coordinates
    · simp only [QRect.topLeft]
      omega
    · simp only [QRect.topLeft]
      omega
  rwa [same] at pixels

omit sameSize in
theorem mem_compared_tiles {settings : ComparerSettings} (wide : 1 ≤ settings.tileWidth)
    {point : QPoint} (inside : point ∈ before.rect) :
    ∃ tile ∈ comparedTiles settings before, point ∈ tile ∧ 0 ≤ tile.x1 ∧ 0 ≤ tile.y1 := by
  rw [QImage.mem_rect] at inside
  have axis : ∀ (extent : Nat) (entry : Int), 0 ≤ entry → entry < extent →
      (entry / settings.tileWidth).toNat < (tileCount extent settings.tileWidth).toNat ∧
      0 ≤ entry / settings.tileWidth ∧
      entry / settings.tileWidth * settings.tileWidth ≤ entry ∧
      entry < entry / settings.tileWidth * settings.tileWidth + settings.tileWidth ∧
      0 ≤ entry / settings.tileWidth * settings.tileWidth := by
    intro extent entry lower upper
    have quotient : 0 ≤ entry / settings.tileWidth := Int.ediv_nonneg lower (by omega)
    have division := Int.emod_add_mul_ediv entry settings.tileWidth
    have remainder := Int.emod_nonneg entry (by omega : settings.tileWidth ≠ 0)
    have bound := Int.emod_lt_of_pos entry (by omega : 0 < settings.tileWidth)
    have total := Int.emod_add_mul_ediv (extent : Int) settings.tileWidth
    have totalRemainder := Int.emod_nonneg (extent : Int) (by omega : settings.tileWidth ≠ 0)
    have monotone : entry / settings.tileWidth ≤ (extent : Int) / settings.tileWidth :=
      Int.ediv_le_ediv (by omega) (by omega)
    have product : 0 ≤ entry / settings.tileWidth * settings.tileWidth :=
      Int.mul_nonneg quotient (by omega)
    rw [mul_comm] at division total
    refine ⟨?_, quotient, by omega, by omega, product⟩
    rw [tileCount, Int.tdiv_eq_ediv_of_nonneg (by omega), Int.tmod_eq_emod_of_nonneg (by omega)]
    split_ifs with rest
    · omega
    · have strict : entry / settings.tileWidth ≠ (extent : Int) / settings.tileWidth := by
        intro same
        rw [same] at division
        omega
      omega
  obtain ⟨columnBound, columnNonneg, left, right, columnStart⟩ := axis _ point.x inside.1 inside.2.1
  obtain ⟨rowBound, rowNonneg, top, bottom, rowStart⟩ := axis _ point.y inside.2.2.1 inside.2.2.2
  refine ⟨QRect.ofSize ((point.x / settings.tileWidth).toNat * settings.tileWidth)
    ((point.y / settings.tileWidth).toNat * settings.tileWidth) settings.tileWidth
    settings.tileWidth, ?_, ?_, ?_, ?_⟩
  · exact List.mem_flatMap.mpr ⟨_, List.mem_range.mpr rowBound,
      List.mem_map.mpr ⟨_, List.mem_range.mpr columnBound, rfl⟩⟩
  all_goals rw [Int.toNat_of_nonneg columnNonneg, Int.toNat_of_nonneg rowNonneg]
  · rw [QRect.mem_of_size]
    exact ⟨left, right, top, bottom⟩
  · exact columnStart
  · exact rowStart

/-- Every pixel that differs lies in a marked rectangle. -/
theorem find_differences_covers (regionRects : RegionRects) {settings : ComparerSettings}
    (wide : 1 ≤ settings.tileWidth) {point : QPoint} (inside : point ∈ before.rect)
    (differs : before.pixel point ≠ after.pixel point) :
    ∃ rect ∈ findDifferences regionRects settings before after, point ∈ rect := by
  rw [findDifferences, TiledRegion.mem_rects]
  obtain ⟨tile, tileMember, member, left, top⟩ := mem_compared_tiles wide inside
  have marked : contentMatches before after tile.topLeft tile = false := by
    by_contra matching
    rw [Bool.not_eq_false] at matching
    exact differs (content_matches_in_place sameSize matching member inside)
  have folded : ∀ (tiles : List QRect) (region : TiledRegion),
      region.tileWidth = settings.tileWidth → region.tileHeight = settings.tileWidth →
      region.Covers point ∨ tile ∈ tiles →
      (tiles.foldl (fun region rect =>
        if contentMatches before after rect.topLeft rect then region else region.add rect)
        region).Covers point := by
    intro tiles
    induction tiles with
    | nil =>
        intro region _ _ covered
        simpa using covered
    | cons head tiles induction =>
        intro region sameWidth sameHeight covered
        rw [List.foldl_cons]
        apply induction
        · split_ifs
          · exact sameWidth
          · exact sameWidth
        · split_ifs
          · exact sameHeight
          · exact sameHeight
        · rcases covered with already | later
          · left
            split_ifs
            · exact already
            · exact (TiledRegion.covers_add region head point).mpr (Or.inl already)
          · rcases List.mem_cons.mp later with same | rest
            · left
              subst same
              rw [if_neg (by simp [marked])]
              exact TiledRegion.covers_add_of_mem (by omega) (by omega) left top member
            · exact Or.inr rest
  exact folded _ _ rfl rfl (Or.inr tileMember)

/-- All search areas one after the other. -/
theorem update_operations_of_rects_repair (regionRects : RegionRects)
    (mappedReduced : MappedReduced) (tileable : comparer.settings.Tileable)
    (imageFilled : before.rect.isEmpty = false) (rects : List QRect) (areas : List QRect)
    (areasFilled : ∀ area ∈ areas, area.isEmpty = false) (search : MoveSearch) :
    Repairs before after (fun point => ∃ area ∈ areas, point ∈ area)
      (updateOperationsOfRects regionRects mappedReduced comparer before after rects areas
        search).1 := by
  induction areas generalizing search with
  | nil =>
      apply Repairs.none
      intro point _ member
      simp at member
  | cons area areas induction =>
      simp only [updateOperationsOfRects]
      have first := find_update_operations_repairs sameSize regionRects mappedReduced tileable
        imageFilled (areasFilled area (by simp)) rects search
      apply first.append (induction (fun other member => areasFilled other (by simp [member])) _)
      intro point _ member _
      simpa using member

end Stages

def frameOperations (regionRects : RegionRects) (mappedReduced : MappedReduced)
    (comparer : ImageComparer) (before after : QImage) : List UpdateOperation :=
  let rects := findDifferences regionRects comparer.settings before after
  optimizeUpdateOperations regionRects
    (updateOperationsOfRects regionRects mappedReduced comparer before after rects rects
      comparer.search).1

/-- The image before the change with the operations painted over it. -/
def paintOperations (before after : QImage) (ops : List UpdateOperation) : QImage :=
  { before with pixel := paintAll before.pixel (ops.map (UpdateOperation.patch before after)) }

theorem covers_patch {op : UpdateOperation} {point : QPoint} :
    (op.patch before after).covers point = true ↔
      ∃ stroke, op.strokeAt point = some stroke ∧ stroke.visible before = true := by
  simp [UpdateOperation.patch, Option.any_eq_true]

/-- Operations that repair the whole image turn it into the image after the change. -/
theorem paint_repairs {area : QPoint → Prop} {ops painted : List UpdateOperation}
    (repairs : Repairs before after area ops) (sameSize : QImage.SameSize before after)
    (whole : ∀ point ∈ before.rect, before.pixel point ≠ after.pixel point → area point)
    (perm : painted.Perm ops) :
    QImage.SamePixels (paintOperations before after painted) after := by
  refine ⟨sameSize, ?_⟩
  intro point inside
  change point ∈ before.rect at inside
  apply paint_all_target
  · intro patch member covered
    rcases List.mem_map.mp member with ⟨op, opMember, rfl⟩
    obtain ⟨stroke, drawn, shows⟩ := covers_patch.mp covered
    have sound :=
      (repairs.sound point inside stroke ⟨op, perm.mem_iff.mp opMember, drawn⟩).colour shows
    simpa [UpdateOperation.patch, drawn] using sound
  · by_cases same : before.pixel point = after.pixel point
    · exact Or.inl same
    · right
      obtain ⟨stroke, ⟨op, member, drawn⟩, shows⟩ :=
        repairs.complete point inside (whole point inside same) same
      exact ⟨_, List.mem_map_of_mem (perm.mem_iff.mpr member),
        covers_patch.mpr ⟨stroke, drawn, shows⟩⟩

theorem Repairs.of_empty (empty : before.rect.isEmpty = true) (area : QPoint → Prop)
    (ops : List UpdateOperation) : Repairs before after area ops := by
  have outside : ∀ point, point ∉ before.rect := by
    intro point inside
    exact absurd ((QRect.not_empty_of_mem inside).symm.trans empty) (by simp)
  constructor
  · intro point inside
    exact absurd inside (outside point)
  · intro point inside
    exact absurd inside (outside point)

/-- The operations of a frame repair the whole image. -/
theorem frame_operations_repair (regionRects : RegionRects) (mappedReduced : MappedReduced)
    (sameSize : QImage.SameSize before after) (tileable : comparer.settings.Tileable) :
    Repairs before after (fun _ => True)
      (frameOperations regionRects mappedReduced comparer before after) := by
  cases imageFilled : before.rect.isEmpty with
  | true => exact Repairs.of_empty imageFilled _ _
  | false =>
      have repaired := update_operations_of_rects_repair sameSize regionRects mappedReduced tileable
        imageFilled (findDifferences regionRects comparer.settings before after)
        (findDifferences regionRects comparer.settings before after)
        (TiledRegion.rects_filled regionRects _) comparer.search
      have optimised := repaired.congr (draws_optimize_update_operations regionRects _)
      apply optimised.restrict
      intro point inside _ differs
      exact find_differences_covers sameSize regionRects tileable.1 inside differs

/-- Painted in any order over the old image, the operations of a frame give the
new image, for all settings and every state of the move analyzer. -/
theorem frame_operations_exact (regionRects : RegionRects) (mappedReduced : MappedReduced)
    (comparer : ImageComparer) (tileable : comparer.settings.Tileable) (before after : QImage)
    (sameSize : QImage.SameSize before after) (painted : List UpdateOperation)
    (anyOrder : painted.Perm (frameOperations regionRects mappedReduced comparer before after)) :
    QImage.SamePixels (paintOperations before after painted) after :=
  paint_repairs (frame_operations_repair regionRects mappedReduced sameSize tileable) sameSize
    (fun _ _ _ => trivial) anyOrder

def sampleBefore : QImage := ⟨3, 2, fun _ => 0xFF000000⟩
def sampleAfter : QImage := ⟨3, 2, fun point => if point = ⟨1, 1⟩ then 0xFFFFFFFF else 0xFF000000⟩

/-- A comparer with the default settings that has seen no frame. -/
def sampleComparer : ImageComparer :=
  ImageComparer.setSettings true ComparerSettings.default sampleBefore

theorem sample_tileable : sampleComparer.settings.Tileable := by
  unfold ComparerSettings.Tileable sampleComparer ImageComparer.setSettings
  decide

theorem frame_operations_exact_sample :
    QImage.SamePixels
      (paintOperations sampleBefore sampleAfter
        (frameOperations RegionRects.pixelwise MappedReduced.sequential sampleComparer
          sampleBefore sampleAfter))
      sampleAfter :=
  frame_operations_exact RegionRects.pixelwise MappedReduced.sequential sampleComparer
    sample_tileable sampleBefore sampleAfter ⟨rfl, rfl⟩
    (frameOperations RegionRects.pixelwise MappedReduced.sequential sampleComparer
      sampleBefore sampleAfter) (List.Perm.refl _)

end Viridity.FrameDifference
