import Viridity.DumpReplay

/-!
# Where moves read

A block found by a move search lies in the image before the change, as far as the tile it was
found for lies in the image. The fingerprints have to be those of an image of that size.
-/

namespace Viridity.MoveSources

open Viridity.QtRectangle
open Viridity.ImageAux
open Viridity.FingerPrintSearch
open Viridity.TileOperations
open Viridity.MoveAnalysis
open Viridity.ImageComparerOpTools
open Viridity.FrameComparison
open Viridity.FrameDifference
open Viridity.FullUpdate
open Viridity.BufferRenderer
open Viridity.WorkBuffer
open Viridity.DamageBookkeeping
open Viridity.DumpReplay
open GraphicsSceneBufferRenderer
open MoveAnalyzer (findMovedRectExhaustive findMovedRectAreaFingerPrint findMovedRect
  searchLastVectors searchAreas moveTiles found_move_area_finger_print found_move_process_rect)
open UpdateOperationType

set_option autoImplicit false

/-- The columns of fingerprints fit an image: each is of a block inside it, and no block is
narrower than a template. -/
structure PrintsFit (prints : AreaFingerPrints) (width : Nat) (templateWidth : Int) : Prop where
  positive : 1 ≤ prints.templateWidth
  columns : prints.hashedArea.x1 ≤ prints.hashedArea.x2 + 1
  rows : prints.hashedArea.y1 ≤ prints.hashedArea.y2 + 1
  inside : prints.hashedArea.width ≤ width
  template : templateWidth ≤ prints.templateWidth ∨ (width : Int) < prints.templateWidth

theorem move_tile_width_positive {settings : ComparerSettings} (tileable : settings.Tileable) :
    0 < settings.moveTileWidth := by
  have wide := tileable.1
  unfold ComparerSettings.moveTileWidth
  split_ifs with small
  · rw [Int.tdiv_eq_ediv_of_nonneg (by omega)]
    have enough := tileable.2 small
    omega
  · omega

theorem prints_fit_created {image : QImage} (filled : image.rect.isEmpty = false) {templateWidth : Int}
    (positive : 1 ≤ templateWidth) :
    PrintsFit (AreaFingerPrints.create.initFromImage image image.rect templateWidth) image.width
      templateWidth := by
  have whole : image.rect.intersected image.rect = image.rect :=
    QRect.intersected_inside filled ⟨Int.le_refl _, Int.le_refl _⟩ ⟨Int.le_refl _, Int.le_refl _⟩
  have extent := QRect.not_is_empty_iff.mp filled
  have columns : image.rect.width = image.width := by
    unfold QImage.rect
    exact QRect.of_size_width _ _ _ _
  have area : (AreaFingerPrints.create.initFromImage image image.rect templateWidth).hashedArea =
      image.rect := by
    unfold AreaFingerPrints.initFromImage AreaFingerPrints.updateFromImage
    exact whole
  have width : ((AreaFingerPrints.create.initFromImage image image.rect templateWidth).width : Int) =
      max 0 (image.width - templateWidth + 1) := by
    unfold AreaFingerPrints.initFromImage AreaFingerPrints.updateFromImage
      AreaFingerPrints.initFromSize
    simp only [whole, columns]
    split_ifs with same
    · simp only
      omega
    · simp only [not_or, not_not] at same
      rw [same.1]
  have template : (AreaFingerPrints.create.initFromImage image image.rect
      templateWidth).templateWidth = image.width - max 0 (image.width - templateWidth + 1) + 1 := by
    unfold AreaFingerPrints.templateWidth
    rw [area, width, columns]
  constructor
  · omega
  · rw [area]
    omega
  · rw [area]
    omega
  · rw [area, columns]
  · omega

theorem find_position_inside {prints : AreaFingerPrints} {width : Nat} {templateWidth : Int}
    (fit : PrintsFit prints width templateWidth) {needle : AreaFingerPrint} {searchArea : QRect}
    {positionMatches : QPoint → Bool} {position : QPoint}
    (found : prints.findPosition needle searchArea positionMatches = some position) :
    0 ≤ position.x ∧ position.x + prints.templateWidth ≤ width := by
  have positive := fit.positive
  have inside := fit.inside
  simp only [AreaFingerPrints.findPosition] at found
  split_ifs at found
  obtain ⟨offset, searched, hit⟩ := List.exists_of_findSome?_eq_some found
  have column : position.x = (prints.hashedArea.intersected searchArea).x1 -
      prints.hashedArea.x1 + offset := by
    split at hit
    · exact absurd hit (by simp)
    · split_ifs at hit
      rw [← Option.some.inj hit]
      rfl
  rw [List.mem_range] at searched
  simp only [QRect.moveTo, QRect.setWidth, QRect.topLeft, QPoint.sub] at searched
  rw [QRect.intersected_comm] at searched column
  rcases QRect.intersected_within fit.columns fit.rows with none | ⟨left, right, _, _, _, _⟩
  · rw [none] at searched
    simp only [QRect.null, QRect.width] at searched
    omega
  · simp only [QRect.width] at searched inside
    omega

/-- What a search returns for a tile reads inside the image before the change. -/
def ReadsInside (analyzer : MoveAnalyzer) (tile found : QRect) : Prop :=
  found.isEmpty = false → ∀ point ∈ tile, point ∈ analyzer.imageAfter.rect →
    point.add (found.topLeft.sub tile.topLeft) ∈ analyzer.imageBefore.rect

structure ProperTile (analyzer : MoveAnalyzer) (tile : QRect) : Prop where
  filled : tile.isEmpty = false
  searchable : analyzer.Searchable tile
  narrow : tile.width ≤ analyzer.templateWidth
  low : tile.height ≤ analyzer.templateWidth

theorem reads_inside_null (analyzer : MoveAnalyzer) (tile : QRect) :
    ReadsInside analyzer tile QRect.null :=
  fun filled => absurd filled (by decide)

section Searches

variable {analyzer : MoveAnalyzer} {tile : QRect}
variable (sameSize : QImage.SameSize analyzer.imageBefore analyzer.imageAfter)

include sameSize

/-- The exhaustive search looks at positions where the whole block is in the image. -/
theorem exhaustive_reads_inside (searchArea : QRect) :
    ReadsInside analyzer tile (analyzer.findMovedRectExhaustive searchArea tile) := by
  have sameRect := QImage.same_size_rect sameSize
  simp only [findMovedRectExhaustive]
  split_ifs with empty small
  · exact reads_inside_null analyzer tile
  · exact reads_inside_null analyzer tile
  · split
    · rename_i position found
      have searched := List.mem_of_find?_eq_some found
      rw [QRect.mem_row_major, QRect.mem_of_size] at searched
      simp only [QRect.width, QRect.height] at searched
      intro _ point member visible
      rw [QRect.mem_iff] at member
      have roiMember : point.add ((QRect.ofSize position.x position.y tile.width
          tile.height).topLeft.sub tile.topLeft) ∈ analyzer.exhaustiveRoi searchArea := by
        rw [QRect.mem_iff]
        simp only [QPoint.add, QPoint.sub, QRect.topLeft, QRect.ofSize]
        omega
      rw [sameRect]
      exact QRect.mem_right_of_mem_intersected (QRect.not_empty_of_mem visible) roiMember
    · exact reads_inside_null analyzer tile

variable (proper : ProperTile analyzer tile)

include proper

/-- A match of a stray tile compares one pixel with a whole line of a block, so the tile is that
pixel. -/
theorem match_single_column {prints : AreaFingerPrints} {position : QPoint}
    (fit : PrintsFit prints analyzer.imageBefore.width analyzer.templateWidth)
    (room : 0 ≤ position.x ∧ position.x + prints.templateWidth ≤ analyzer.imageBefore.width)
    (divided : tile.width.tmod prints.templateWidth = 0) (stray : ∀ point ∈ tile, point ∈ strayRect)
    (member : (⟨0, 0⟩ : QPoint) ∈ tile) (visible : (⟨0, 0⟩ : QPoint) ∈ analyzer.imageAfter.rect)
    (accepted : contentMatches analyzer.imageBefore analyzer.imageAfter position tile = true) :
    ∀ other ∈ tile, other = ⟨0, 0⟩ := by
  have extent := QRect.not_is_empty_iff_extent.mp proper.filled
  have narrow := proper.narrow
  have low := proper.low
  have enough : analyzer.templateWidth ≤ prints.templateWidth := by
    rcases fit.template with enough | large
    · exact enough
    · omega
  have wide : tile.width = prints.templateWidth := by
    by_contra different
    rw [Int.tmod_eq_of_lt (by omega) (by omega)] at divided
    omega
  have corner := stray _ (QRect.top_left_mem proper.filled)
  have opposite := stray _ (QRect.bottom_right_mem proper.filled)
  rw [QRect.mem_iff] at corner opposite member
  simp only [strayRect, QRect.topLeft, QRect.bottomRight] at corner opposite member
  have afterFilled := QRect.not_empty_of_mem visible
  have beforeFilled : analyzer.imageBefore.rect.isEmpty = false := by
    rw [QImage.same_size_rect sameSize]
    exact afterFilled
  have block : (QRect.ofSize position.x position.y tile.width tile.height).isEmpty = false := by
    rw [QRect.not_is_empty_iff_extent, QRect.of_size_width, QRect.of_size_height]
    exact extent
  rw [QImage.mem_rect] at visible
  simp only [QRect.width] at wide extent narrow
  simp only [QRect.height] at low extent
  have columns : (QRect.ofSize position.x position.y tile.width tile.height |>.intersected
      analyzer.imageBefore.rect).width = (tile.intersected analyzer.imageAfter.rect).width := by
    simp only [contentMatches] at accepted
    split_ifs at accepted with sizes
    simp only [not_or, not_not] at sizes
    exact sizes.1
  rcases QRect.intersected_cases proper.filled afterFilled with ⟨_, apart⟩ | ⟨_, shown⟩
  · exact absurd ⟨by rw [QRect.mem_iff]; exact member, by rw [QImage.mem_rect]; exact visible⟩
      (apart ⟨0, 0⟩)
  · rw [shown] at columns
    have one : tile.x2 - tile.x1 + 1 = 1 := by
      rcases QRect.intersected_cases block beforeFilled with ⟨none, _⟩ | ⟨_, read⟩
      · rw [none] at columns
        simp only [QRect.width, QRect.null, QImage.rect, QRect.ofSize] at columns
        omega
      · rw [read] at columns
        simp only [QRect.width, QImage.rect, QRect.ofSize] at columns
        omega
    intro other otherMember
    have place := stray other otherMember
    rw [QRect.mem_iff] at otherMember place
    simp only [strayRect] at place
    apply QPoint.ext_coordinates
    · simp only
      omega
    · simp only
      omega

theorem finger_print_reads_inside {prints : AreaFingerPrints}
    (fit : PrintsFit prints analyzer.imageBefore.width analyzer.templateWidth)
    (divided : tile.width.tmod prints.templateWidth = 0) (searchArea : QRect) :
    ReadsInside analyzer tile
      (analyzer.findMovedRectAreaFingerPrint prints searchArea tile) := by
  have sound := found_move_area_finger_print sameSize proper.filled proper.searchable prints
    searchArea
  have extent := QRect.not_is_empty_iff_extent.mp proper.filled
  intro filled point member visible
  rcases sound with missed | ⟨_, moved⟩
  · rw [missed] at filled
    cases filled
  · rcases proper.searchable with inside | stray
    · exact moved.readable inside point member
    · have located : ∃ position, prints.findPosition (initFromImage analyzer.imageAfter tile) searchArea
          (fun position => contentMatches analyzer.imageBefore analyzer.imageAfter position tile) =
            some position := by
        simp only [findMovedRectAreaFingerPrint] at filled
        split at filled
        · rename_i position found
          exact ⟨position, found⟩
        · cases filled
      obtain ⟨position, found⟩ := located
      have accepted := AreaFingerPrints.find_position_matches found
      have room := find_position_inside fit found
      have corner := stray_visible (stray point member) visible
      have single := match_single_column sameSize proper fit room divided stray
        (corner ▸ member) (corner ▸ visible) accepted
      have inside : ∀ other ∈ tile, other ∈ analyzer.imageAfter.rect := by
        intro other otherMember
        rw [single other otherMember, ← corner]
        exact visible
      exact moved.readable inside point member

variable (fit : ∀ prints, analyzer.searchAreaFingerPrints = some prints →
  PrintsFit prints analyzer.imageBefore.width analyzer.templateWidth)

include fit

theorem moved_rect_reads_inside (searchArea : QRect) :
    ReadsInside analyzer tile (analyzer.findMovedRect searchArea tile) := by
  simp only [findMovedRect]
  split
  · rename_i prints compiled
    split_ifs with divided
    · exact finger_print_reads_inside sameSize proper (fit prints compiled) divided searchArea
    · exact exhaustive_reads_inside sameSize searchArea
  · exact exhaustive_reads_inside sameSize searchArea

theorem last_vectors_read_inside (vectors : List VectorEstimate) :
    ReadsInside analyzer tile (analyzer.searchLastVectors tile vectors) := by
  induction vectors with
  | nil => exact reads_inside_null analyzer tile
  | cons moveVector rest induction =>
      simp only [searchLastVectors]
      split_ifs
      · exact induction
      · exact moved_rect_reads_inside sameSize proper fit _
      · exact induction
      · exact moved_rect_reads_inside sameSize proper fit _

theorem search_areas_read_inside (areas : List QRect) (search : MoveSearch) :
    ReadsInside analyzer tile (analyzer.searchAreas tile areas search).1 := by
  induction areas generalizing search with
  | nil => exact reads_inside_null analyzer tile
  | cons searchArea rest induction =>
      simp only [searchAreas]
      split_ifs
      · exact moved_rect_reads_inside sameSize proper fit searchArea
      · exact induction _
      · exact moved_rect_reads_inside sameSize proper fit searchArea

theorem process_rect_reads_inside (additionalSearchAreas : List QRect) (search : MoveSearch) :
    ReadsInside analyzer tile (analyzer.processRect tile additionalSearchAreas search).1 := by
  simp only [MoveAnalyzer.processRect]
  split_ifs
  · exact search_areas_read_inside sameSize proper fit _ _
  · exact search_areas_read_inside sameSize proper fit _ _
  · exact last_vectors_read_inside sameSize proper fit _
  · exact last_vectors_read_inside sameSize proper fit _
  · exact reads_inside_null analyzer tile

end Searches

/-- A move of a tile: its content was found and is read inside the image. -/
structure InsideMove (analyzer : MoveAnalyzer) (move : MoveOperation) : Prop where
  filled : move.srcRect.isEmpty = false
  moved : ∃ tile, move.dstPoint = tile.topLeft ∧ analyzer.FoundMove tile move.srcRect ∧
    ReadsInside analyzer tile move.srcRect

theorem move_tiles_inside {analyzer : MoveAnalyzer}
    (sameSize : QImage.SameSize analyzer.imageBefore analyzer.imageAfter)
    (fit : ∀ prints, analyzer.searchAreaFingerPrints = some prints →
      PrintsFit prints analyzer.imageBefore.width analyzer.templateWidth)
    (additionalSearchAreas : List QRect) {tiles : List QRect}
    (proper : ∀ tile ∈ tiles, ProperTile analyzer tile) (search : MoveSearch) :
    ∀ move ∈ (analyzer.moveTiles additionalSearchAreas tiles search).1, InsideMove analyzer move := by
  induction tiles generalizing search with
  | nil =>
      intro move member
      exact absurd member List.not_mem_nil
  | cons rect rest induction =>
      rw [List.forall_mem_cons] at proper
      have sound := found_move_process_rect sameSize proper.1.filled proper.1.searchable
        additionalSearchAreas search
      have inside := process_rect_reads_inside sameSize proper.1 fit additionalSearchAreas search
      have later := induction proper.2 (analyzer.processRect rect additionalSearchAreas search).2
      simp only [moveTiles]
      split_ifs with missed
      · exact later
      · intro move member
        rcases List.mem_cons.mp member with first | others
        · rw [first]
          exact ⟨by simpa using missed, rect, rfl, sound, inside⟩
        · exact later move others

/-- No stroke of the operations copies a pixel from outside the image before the change. -/
def MovesInside (before : QImage) (ops : List UpdateOperation) : Prop :=
  ∀ point ∈ before.rect, ∀ source, Draws ops point (.fromBefore source) → source ∈ before.rect

section Strokes

variable {before after : QImage} {comparer : ImageComparer}

theorem moves_inside_append {first second : List UpdateOperation}
    (left : MovesInside before first) (right : MovesInside before second) :
    MovesInside before (first ++ second) := by
  intro point inside source drawn
  rcases (draws_append first second point _).mp drawn with early | late
  · exact left point inside source early
  · exact right point inside source late

theorem moves_inside_congr {first second : List UpdateOperation}
    (same : ∀ point stroke, Draws second point stroke ↔ Draws first point stroke)
    (inside : MovesInside before first) : MovesInside before second :=
  fun point within source drawn => inside point within source ((same point _).mp drawn)

theorem moves_inside_nil (before : QImage) : MovesInside before [] :=
  fun point _ _ drawn => absurd drawn (not_draws_nil point _)

theorem moves_inside_still {op : UpdateOperation} (other : op.type ≠ uotMove) :
    MovesInside before [op] := by
  intro point _ source drawn
  rw [draws_singleton] at drawn
  unfold UpdateOperation.strokeAt at drawn
  cases kind : op.type with
  | uotMove => exact absurd kind other
  | uotUpdate =>
      simp only [kind] at drawn
      split_ifs at drawn
      cases drawn
  | uotFill =>
      simp only [kind] at drawn
      split_ifs at drawn
      cases drawn
  | uotNoOp =>
      simp only [kind] at drawn
      cases drawn

variable (sameSize : QImage.SameSize before after)

include sameSize

theorem inside_move_stroke {move : MoveOperation}
    (inside : InsideMove (analyzer comparer before after) move) {op : UpdateOperation}
    (kind : op.type = uotMove) (source : op.srcRect = move.srcRect)
    (target : op.dstPoint = move.dstPoint) : MovesInside before [op] := by
  obtain ⟨tile, corner, found, reads⟩ := inside.moved
  intro point within read drawn
  rw [draws_singleton] at drawn
  simp only [UpdateOperation.strokeAt, kind] at drawn
  split_ifs at drawn with hit
  have place : point.add op.moveVector = read :=
    Stroke.fromBefore.inj (Option.some.inj drawn)
  rw [← place]
  have member : point ∈ tile := by
    rcases found with missed | ⟨size, _⟩
    · exact absurd (inside.filled.symm.trans missed) (by simp)
    · rw [UpdateOperation.dstRect, source, target, corner, size, QRect.of_size_width,
        QRect.of_size_height, QRect.mem_of_size] at hit
      simp only [QRect.topLeft, QRect.width, QRect.height] at hit
      rw [QRect.mem_iff]
      omega
  have readInside := reads inside.filled point member (QImage.same_size_rect sameSize ▸ within)
  rw [UpdateOperation.moveVector, source, target, corner]
  exact readInside

theorem process_rect_moves_inside (fit : ∀ prints, comparer.searchAreaFingerPrints = some prints →
      PrintsFit prints before.width comparer.settings.moveTileWidth)
    (minified : Bool) {tile : QRect}
    (proper : comparer.settings.fineGrainedMoves = false →
      ProperTile (analyzer comparer before after) tile)
    (op : UpdateOperation) (search : MoveSearch) :
    MovesInside before (processRect comparer before after minified tile op search).1.toList := by
  have facts : ∀ moved : QRect × MoveSearch,
      moved = (if (comparer.settings.analyzeMoves && !comparer.settings.fineGrainedMoves) = true then
        (analyzer comparer before after).processRect tile [] search else (QRect.null, search)) →
      moved.1.isEmpty = false →
        InsideMove (analyzer comparer before after) ⟨moved.1, tile.topLeft⟩ := by
    intro moved same filled
    split_ifs at same with looks
    · simp only [Bool.and_eq_true, Bool.not_eq_true'] at looks
      have known := proper looks.2
      refine ⟨filled, tile, rfl, ?_, ?_⟩
      · rw [same]
        exact found_move_process_rect sameSize known.filled known.searchable [] search
      · rw [same]
        exact process_rect_reads_inside sameSize known fit [] search
    · rw [same] at filled
      cases filled
  unfold processRect
  simp only
  generalize (if minified = true then findChangedRect32 before after tile else tile) = minRect
  generalize (if comparer.settings.analyzeFills = true then getSolidRectColor after minRect
    else none) = solidColor
  generalize same : (if (comparer.settings.analyzeMoves && !comparer.settings.fineGrainedMoves) = true
    then (analyzer comparer before after).processRect tile [] search else (QRect.null, search)) =
      moved
  have inside := facts moved same.symm
  split_ifs with empty solid missed
  · exact moves_inside_nil before
  · exact moves_inside_still (by simp)
  · exact moves_inside_still (by simp)
  · exact inside_move_stroke sameSize (inside (by simpa using missed)) rfl rfl rfl

theorem split_tiles_proper {minSearchRect : QRect}
    (place : (∀ point ∈ minSearchRect, point ∈ before.rect) ∨ minSearchRect = strayRect)
    (minFilled : minSearchRect.isEmpty = false) (templates : 0 < comparer.settings.moveTileWidth) :
    ∀ tile ∈ splitRectIntoTiles minSearchRect comparer.settings.moveTileWidth
      comparer.settings.moveTileWidth, ProperTile (analyzer comparer before after) tile := by
  intro tile member
  have extent := QRect.not_is_empty_iff_extent.mp minFilled
  have parts := (split_rect_into_tiles_spec templates templates minFilled).1 tile member
  have sizes := split_rect_sizes templates templates (Int.le_of_lt extent.1) (Int.le_of_lt extent.2)
    tile member
  exact ⟨parts.1, searchable_of_part sameSize place parts.2, sizes.2.1, sizes.2.2⟩

variable (fit : ∀ prints, comparer.searchAreaFingerPrints = some prints →
  PrintsFit prints before.width comparer.settings.moveTileWidth)

include fit

theorem collected_moves_inside {minified : Bool} {tiles : List QRect} {ops : List UpdateOperation}
    (collects : Collects comparer before after minified tiles ops)
    (proper : comparer.settings.fineGrainedMoves = false →
      ∀ tile ∈ tiles, ProperTile (analyzer comparer before after) tile) :
    MovesInside before ops := by
  intro point within source drawn
  obtain ⟨tile, member, op, search, found⟩ := collects.origin point _ drawn
  exact process_rect_moves_inside sameSize fit minified (fun coarse => proper coarse tile member) op
    search point within source found

theorem moves_and_tiles_inside (regionRects : RegionRects) (tileable : comparer.settings.Tileable)
    {minSearchRect : QRect}
    (place : (∀ point ∈ minSearchRect, point ∈ before.rect) ∨ minSearchRect = strayRect)
    (minFilled : minSearchRect.isEmpty = false) (additionalSearchAreas : List QRect)
    (search : MoveSearch) :
    MovesInside before (movesAndTiles regionRects comparer before after minSearchRect
        additionalSearchAreas search).1 ∧
      (comparer.settings.fineGrainedMoves = false → ∀ tile ∈ (movesAndTiles regionRects comparer
        before after minSearchRect additionalSearchAreas search).2.1,
          ProperTile (analyzer comparer before after) tile) := by
  have templates := move_tile_width_positive tileable
  have proper := @split_tiles_proper before after comparer sameSize _ place minFilled templates
  unfold movesAndTiles
  simp only
  split_ifs with fine looks
  · constructor
    · have inside := @move_tiles_inside (analyzer comparer before after) sameSize fit
        additionalSearchAreas _ proper (MoveAnalyzer.startNewSearch search)
      intro point within source drawn
      obtain ⟨op, member, stroke⟩ := drawn
      obtain ⟨move, found, same⟩ := List.mem_map.mp member
      have single : MovesInside before [op] := by
        apply inside_move_stroke sameSize (inside move found)
        all_goals
          rw [← same]
          rfl
      apply single point within source
      rw [draws_singleton]
      exact stroke
    · intro coarse
      simp [coarse] at fine
  all_goals
    refine ⟨moves_inside_nil before, ?_⟩
    intro coarse
    have width : comparer.settings.moveTileWidth = comparer.settings.tileWidth := by
      unfold ComparerSettings.moveTileWidth
      rw [coarse]
      rfl
    rw [← width]
    exact proper

theorem find_update_operations_inside (regionRects : RegionRects) (mappedReduced : MappedReduced)
    (tileable : comparer.settings.Tileable) (imageFilled : before.rect.isEmpty = false)
    {searchArea : QRect} (areaFilled : searchArea.isEmpty = false)
    (additionalSearchAreas : List QRect) (search : MoveSearch) :
    MovesInside before (findUpdateOperations regionRects mappedReduced comparer before after
      searchArea additionalSearchAreas search).1 := by
  have place : (∀ point ∈ findChangedRect32 before after searchArea, point ∈ before.rect) ∨
      findChangedRect32 before after searchArea = strayRect := by
    rcases find_changed_cases sameSize areaFilled imageFilled with inside | stray
    · exact Or.inl inside.1
    · exact Or.inr stray.1
  simp only [findUpdateOperations]
  by_cases empty : (findChangedRect32 before after searchArea).isEmpty = true
  · rw [if_pos empty]
    exact moves_inside_nil before
  · rw [if_neg empty]
    obtain ⟨moves, proper⟩ := moves_and_tiles_inside sameSize fit regionRects tileable place
      (by simpa using empty) additionalSearchAreas search
    generalize movesAndTiles regionRects comparer before after
      (findChangedRect32 before after searchArea) additionalSearchAreas search = found at moves proper ⊢
    split_ifs
    · obtain ⟨outputs, mapped, perm⟩ := mappedReduced.mapped (mapProcessRect comparer before after
        (useMinifiedTile comparer.settings found.2.1)) found.2.1 found.2.2
      exact moves_inside_append moves (collected_moves_inside sameSize fit
        ((mapped_collects _ mapped).congr (draws_reduced perm)) proper)
    · exact moves_inside_append moves (collected_moves_inside sameSize fit
        (process_tiles_collects _ _ _ _) proper)

/-- The moves of a frame read inside the image before the change. -/
theorem frame_operations_inside (regionRects : RegionRects) (mappedReduced : MappedReduced)
    (tileable : comparer.settings.Tileable) :
    MovesInside before (frameOperations regionRects mappedReduced comparer before after) := by
  by_cases imageFilled : before.rect.isEmpty = true
  · intro point within
    exact absurd ((QRect.not_empty_of_mem within).symm.trans imageFilled) (by simp)
  · rw [Bool.not_eq_true] at imageFilled
    have every : ∀ rects areas search, (∀ area ∈ areas, area.isEmpty = false) →
        MovesInside before (updateOperationsOfRects regionRects mappedReduced comparer before after
          rects areas search).1 := by
      intro rects areas
      induction areas with
      | nil => exact fun _ _ => moves_inside_nil before
      | cons area areas induction =>
          intro search filled
          rw [List.forall_mem_cons] at filled
          exact moves_inside_append (find_update_operations_inside sameSize fit regionRects
            mappedReduced tileable imageFilled filled.1 rects search) (induction _ filled.2)
    exact moves_inside_congr (draws_optimize_update_operations regionRects _)
      (every _ _ _ (TiledRegion.rects_filled regionRects _))

end Strokes

def PrintsCurrent {Adapter : Type} (renderer : GraphicsSceneBufferRenderer Adapter) : Prop :=
  renderer.workBuffer.rect.isEmpty = false →
    ∀ prints, renderer.comparer.searchAreaFingerPrints = some prints →
      PrintsFit prints renderer.workBuffer.width renderer.comparer.settings.moveTileWidth

section Renderer

variable {Adapter : Type} {platform : Platform} {stage : Stage Adapter}

theorem prints_same {renderer after : GraphicsSceneBufferRenderer Adapter}
    (current : PrintsCurrent renderer)
    (prints : after.comparer.searchAreaFingerPrints = renderer.comparer.searchAreaFingerPrints)
    (settings : after.comparer.settings = renderer.comparer.settings)
    (work : QImage.SameSize after.workBuffer renderer.workBuffer) : PrintsCurrent after := by
  unfold PrintsCurrent
  rw [prints, settings, QImage.same_size_rect work, work.1]
  exact current

theorem prints_init_comparer {renderer : GraphicsSceneBufferRenderer Adapter}
    (formed : WellFormed renderer) (tileable : renderer.settings.Tileable) :
    PrintsCurrent (initComparer platform renderer) := by
  intro filled prints made
  change renderer.workBuffer.rect.isEmpty = false at filled
  change (if platform.useAreaFingerPrints = true then some (AreaFingerPrints.create.initFromImage
    renderer.otherBuffer renderer.otherBuffer.rect renderer.settings.moveTileWidth) else none) =
      some prints at made
  split_ifs at made
  rw [← Option.some.inj made]
  change PrintsFit _ renderer.workBuffer.width renderer.settings.moveTileWidth
  rw [QImage.same_size_rect formed.sameSize] at filled
  rw [formed.sameSize.1]
  exact prints_fit_created filled (move_tile_width_positive tileable)

theorem prints_of_null {renderer : GraphicsSceneBufferRenderer Adapter}
    (none : renderer.workBuffer = nullImage) : PrintsCurrent renderer := by
  intro filled
  rw [none] at filled
  cases filled

theorem prints_set_size {renderer : GraphicsSceneBufferRenderer Adapter} (prepared : Prepared renderer)
    (current : PrintsCurrent renderer) (width height : Int) :
    PrintsCurrent (renderer.setSize platform width height).1 := by
  have resized : WellFormed { renderer with
      buffer1 := resizeBuffer renderer.buffer1 width height
      buffer2 := resizeBuffer renderer.buffer2 width height } := by
    refine ⟨?_, prepared.formed.wide, prepared.formed.high⟩
    have sizes := prepared.formed.sameSize
    unfold GraphicsSceneBufferRenderer.workBuffer GraphicsSceneBufferRenderer.otherBuffer at sizes ⊢
    split_ifs at sizes ⊢
    · exact resize_buffer_same_size sizes width height
    · exact resize_buffer_same_size sizes width height
  unfold setSize
  split_ifs
  · exact current
  · exact prints_same (prints_init_comparer resized prepared.tileable) rfl rfl ⟨rfl, rfl⟩
  · exact current

theorem swap_prints (regionRects : RegionRects) {comparer : ImageComparer} (imageBefore : QImage)
    {width : Nat}
    (fit : ∀ prints, comparer.searchAreaFingerPrints = some prints →
      PrintsFit prints width comparer.settings.moveTileWidth) :
    ∀ prints, (comparer.swap regionRects imageBefore).searchAreaFingerPrints = some prints →
      PrintsFit prints width comparer.settings.moveTileWidth := by
  have updated : ∀ (rects : List QRect) (prints : AreaFingerPrints),
      PrintsFit prints width comparer.settings.moveTileWidth →
        PrintsFit (rects.foldl (fun prints rect => prints.updateFromImage imageBefore rect) prints)
          width comparer.settings.moveTileWidth := by
    intro rects
    induction rects with
    | nil => exact fun prints fits => fits
    | cons rect rects induction =>
        intro prints fits
        apply induction
        exact ⟨fits.positive, fits.columns, fits.rows, fits.inside, fits.template⟩
  intro prints made
  unfold ImageComparer.swap at made
  split_ifs at made
  · obtain ⟨earlier, compiled, same⟩ := Option.map_eq_some_iff.mp made
    rw [← same]
    exact updated _ earlier (fit earlier compiled)
  · exact fit prints made

theorem prints_paint (scenes : Adapter → Scene) {renderer : GraphicsSceneBufferRenderer Adapter}
    (prepared : Prepared renderer) (current : PrintsCurrent renderer) :
    PrintsCurrent (renderer.paintUpdatesToBuffer platform scenes).1 := by
  have paints := paint_updates_paints platform scenes prepared.formed
  have rest := @paint_updates_rest Adapter platform scenes renderer
  intro filled prints made
  rw [QImage.same_size_rect paints.sameSize] at filled
  rw [rest.1] at made ⊢
  rw [ImageComparer.swap_settings, paints.sameSize.1]
  exact swap_prints platform.regionRects renderer.workBuffer (current filled) prints made

theorem prints_update (scenes : Adapter → Scene) {renderer : GraphicsSceneBufferRenderer Adapter}
    (prepared : Prepared renderer) (current : PrintsCurrent renderer) :
    PrintsCurrent (renderer.updateBufferAndGetUpdateOperations platform scenes).1 := by
  have painted := @prints_paint Adapter platform scenes renderer prepared current
  unfold updateBufferAndGetUpdateOperations
  simp only
  split_ifs
  · exact prints_same painted rfl rfl ⟨rfl, rfl⟩
  · exact painted

/-- The moves of a frame read inside the work buffer before it. -/
theorem update_buffer_moves_inside (scenes : Adapter → Scene)
    {renderer : GraphicsSceneBufferRenderer Adapter} (prepared : Prepared renderer)
    (current : PrintsCurrent renderer) :
    MovesInside renderer.workBuffer
      (renderer.updateBufferAndGetUpdateOperations platform scenes).2 := by
  have paints := paint_updates_paints platform scenes prepared.formed
  have rest := @paint_updates_rest Adapter platform scenes renderer
  have rects := @DamageBookkeeping.paint_updates_rects Adapter platform scenes renderer
  have painted := @prints_paint Adapter platform scenes renderer prepared current
  have settings : (renderer.paintUpdatesToBuffer platform scenes).1.comparer.settings =
      renderer.comparer.settings := by
    rw [rest.1, ImageComparer.swap_settings]
  have tileable : renderer.comparer.settings.Tileable := by
    rw [prepared.settings]
    exact prepared.tileable
  have sizes : QImage.SameSize renderer.workBuffer
      (renderer.paintUpdatesToBuffer platform scenes).1.workBuffer :=
    ⟨paints.sameSize.1.symm, paints.sameSize.2.symm⟩
  unfold updateBufferAndGetUpdateOperations
  simp only
  rw [paints.other] at rects ⊢
  by_cases minimized : (renderer.paintUpdatesToBuffer platform scenes).1.minimizeDamageRegion = true
  · rw [if_pos minimized]
    rcases rects with compared | ⟨nothing, _⟩
    · rw [compared, ← settings]
      intro point within source drawn
      have fit := painted (by
        rw [← QImage.same_size_rect sizes]
        exact QRect.not_empty_of_mem within)
      rw [← sizes.1] at fit
      exact frame_operations_inside sizes fit platform.regionRects platform.mappedReduced
        (settings ▸ tileable) point within source drawn
    · rw [nothing]
      apply moves_inside_congr (draws_optimize_update_operations platform.regionRects _)
      exact moves_inside_nil renderer.workBuffer
  · rw [if_neg minimized]
    intro point _ source drawn
    obtain ⟨op, member, stroke⟩ := drawn
    obtain ⟨rect, _, same⟩ := List.mem_map.mp member
    rw [← same, update_stroke rfl rfl] at stroke
    cases stroke.2

/-- Every slot of the renderer leaves the fingerprints fitting. -/
theorem prints_act [DecidableEq Adapter] (prepared : Prepared stage.renderer)
    (current : PrintsCurrent stage.renderer) {action : StageAction Adapter}
    (tileable : ∀ settings, action = .setSettings settings → settings.Tileable) :
    PrintsCurrent (act platform stage action).renderer := by
  cases action with
  | changeScene adapter scene rects =>
      simp only [act]
      split_ifs
      · have rest := scene_changed_rest stage.renderer rects
        have work := (scene_changed_reports prepared.formed rects).work
        apply prints_same current
        · rw [rest.1]
        · rw [rest.1]
        · rw [work]
          exact ⟨rfl, rfl⟩
      · exact current
  | fullUpdate =>
      have rest := @full_update_rest Adapter stage.renderer
      apply prints_same current
      · exact congrArg ImageComparer.searchAreaFingerPrints rest.1
      · exact congrArg ImageComparer.settings rest.1
      · have work : (act platform stage .fullUpdate).renderer.workBuffer =
            stage.renderer.workBuffer.fill 0 := rest.2.2
        rw [work]
        exact ⟨rfl, rfl⟩
  | setSize width height => exact prints_set_size prepared current width height
  | setTarget adapter =>
      have detached := prepared_detached prepared
      rcases @set_target_cases Adapter _ platform stage adapter with
        same | ⟨_, renderer, origin, same⟩ | ⟨shown, renderer, _, origin, same⟩
      · rw [same]
        exact current
      · rw [same]
        rcases origin with kept | taken
        · rw [kept]
          exact prints_same current rfl rfl ⟨rfl, rfl⟩
        · rw [taken]
          exact prints_of_null (detached_work stage.renderer)
      · rw [same]
        rcases origin with ⟨kept, _⟩ | taken
        · rw [kept]
          exact prints_set_size ⟨well_formed_assigned prepared.formed (some shown), prepared.tileable,
            prepared.settings, prepared.proper⟩ (prints_same current rfl rfl ⟨rfl, rfl⟩) _ _
        · rw [taken]
          exact prints_set_size ⟨well_formed_assigned detached.formed (some shown), detached.tileable,
            detached.settings, detached.proper⟩
            (prints_of_null (detached_work stage.renderer)) _ _
  | destroyAdapter => exact prints_of_null (detached_work { stage.renderer with adapter := none })
  | pushFullFrame image =>
      simp only [act, GraphicsSceneBufferRenderer.pushFullFrame]
      split_ifs
      · exact prints_same current rfl rfl ⟨rfl, rfl⟩
      · exact current
  | setSettings settings =>
      have formed := @well_formed_act Adapter _ platform stage prepared.formed (.setSettings settings)
      exact @prints_init_comparer Adapter platform { stage.renderer with settings := settings }
        ⟨formed.sameSize, formed.wide, formed.high⟩ (tileable settings rfl)
  | setMinimizeDamageRegion value => exact prints_same current rfl rfl ⟨rfl, rfl⟩
  | paintUpdatesToBuffer => exact prints_paint stage.scenes prepared current
  | updateBufferAndGetUpdateOperations => exact prints_update stage.scenes prepared current

end Renderer

end Viridity.MoveSources
