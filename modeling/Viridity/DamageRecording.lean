import Viridity.FrameDifference

/-!
# Recording damage

`MoveAnalyzer::processRect` records each tile it is asked about. The comparer asks about
the tiles of a changed area, unless it paints a tile in one colour before.
-/

namespace Viridity.DamageRecording

open Viridity.QtRectangle
open Viridity.ImageAux
open Viridity.TileOperations
open Viridity.MoveAnalysis
open Viridity.ImageComparerOpTools
open Viridity.FrameComparison
open Viridity.FrameDifference

set_option autoImplicit false

section MoveAnalyzer

variable (moveAnalyzer : MoveAnalyzer)

theorem search_areas_damage (rect : QRect) (areas : List QRect) (search : MoveSearch) :
    (moveAnalyzer.searchAreas rect areas search).2.damagedAreas = search.damagedAreas := by
  induction areas generalizing search with
  | nil => rfl
  | cons searchArea rest induction =>
      unfold MoveAnalyzer.searchAreas
      dsimp only
      split_ifs
      · rfl
      · exact induction _
      · rfl

theorem process_rect_damage (rect : QRect) (additionalSearchAreas : List QRect)
    (search : MoveSearch) :
    (moveAnalyzer.processRect rect additionalSearchAreas search).2.damagedAreas =
      search.damagedAreas ++ [rect] := by
  unfold MoveAnalyzer.processRect
  dsimp only
  split_ifs
  · exact search_areas_damage moveAnalyzer rect _ _
  · exact search_areas_damage moveAnalyzer rect _ _
  · rfl
  · rfl
  · rfl

theorem move_tiles_damage (additionalSearchAreas tiles : List QRect) (search : MoveSearch) :
    (moveAnalyzer.moveTiles additionalSearchAreas tiles search).2.2.damagedAreas =
      search.damagedAreas ++ tiles := by
  induction tiles generalizing search with
  | nil => exact (List.append_nil _).symm
  | cons rect rest induction =>
      have step := process_rect_damage moveAnalyzer rect additionalSearchAreas search
      unfold MoveAnalyzer.moveTiles
      dsimp only
      split_ifs
      · rw [induction, step, List.append_assoc]
        rfl
      · rw [induction, step, List.append_assoc]
        rfl

end MoveAnalyzer

variable (comparer : ImageComparer) (before after : QImage)

def minRect (useMinifiedTile : Bool) (tile : QRect) : QRect :=
  if useMinifiedTile then findChangedRect32 before after tile else tile

def PaintsFill (useMinifiedTile : Bool) (tile : QRect) : Prop :=
  (findChangedRect32 before after tile).isEmpty = false ∧ comparer.settings.analyzeFills = true ∧
    (getSolidRectColor after (minRect before after useMinifiedTile tile)).isSome = true

instance (useMinifiedTile : Bool) (tile : QRect) :
    Decidable (PaintsFill comparer before after useMinifiedTile tile) :=
  inferInstanceAs (Decidable (_ ∧ _ ∧ _))

def recordsTile (useMinifiedTile : Bool) (tile : QRect) : Bool :=
  !(findChangedRect32 before after tile).isEmpty &&
    !decide (PaintsFill comparer before after useMinifiedTile tile) &&
      (comparer.settings.analyzeMoves && !comparer.settings.fineGrainedMoves)

theorem process_tile_damage (useMinifiedTile : Bool) (tile : QRect) (op : UpdateOperation)
    (search : MoveSearch) :
    (processRect comparer before after useMinifiedTile tile op search).2.damagedAreas =
      search.damagedAreas ++
        if recordsTile comparer before after useMinifiedTile tile then [tile] else [] := by
  unfold processRect
  dsimp only
  by_cases empty : (findChangedRect32 before after tile).isEmpty = true
  · rw [if_pos empty, if_neg (by simp [recordsTile, empty]), List.append_nil]
  · rw [if_neg empty]
    have filled : (findChangedRect32 before after tile).isEmpty = false := by
      simpa using empty
    have block : (if useMinifiedTile = true then findChangedRect32 before after tile else tile) =
        minRect before after useMinifiedTile tile := rfl
    rw [block]
    generalize colour : (if comparer.settings.analyzeFills = true then getSolidRectColor after
      (minRect before after useMinifiedTile tile) else none) = solidColor
    have fills_iff : PaintsFill comparer before after useMinifiedTile tile ↔
        solidColor.isSome = true := by
      rw [← colour]
      cases analyzed : comparer.settings.analyzeFills with
      | true =>
          rw [if_pos rfl]
          exact ⟨fun fills => fills.2.2, fun solid => ⟨filled, analyzed, solid⟩⟩
      | false =>
          rw [if_neg Bool.false_ne_true]
          refine ⟨fun fills => ?_, fun solid => absurd solid Bool.false_ne_true⟩
          rw [fills.2.1] at analyzed
          cases analyzed
    by_cases solid : solidColor.isSome = true
    · have silent : recordsTile comparer before after useMinifiedTile tile = false := by
        unfold recordsTile
        rw [decide_eq_true (fills_iff.mpr solid), Bool.not_true, Bool.and_false, Bool.false_and]
      rw [if_pos solid, silent, if_neg Bool.false_ne_true, List.append_nil]
    · have fills : ¬ PaintsFill comparer before after useMinifiedTile tile :=
        fun painted => solid (fills_iff.mp painted)
      rw [if_neg solid]
      cases moves : (comparer.settings.analyzeMoves && !comparer.settings.fineGrainedMoves) with
      | true =>
          have records : recordsTile comparer before after useMinifiedTile tile = true := by
            unfold recordsTile
            rw [filled, moves, decide_eq_false fills]
            rfl
          rw [if_pos rfl, if_pos records]
          split_ifs
          · exact process_rect_damage _ tile [] search
          · exact process_rect_damage _ tile [] search
      | false =>
          have silent : recordsTile comparer before after useMinifiedTile tile = false := by
            unfold recordsTile
            rw [moves, Bool.and_false]
          rw [silent]
          simp only [Bool.false_eq_true, if_false, List.append_nil]
          split_ifs
          · rfl
          · rfl

/-- `QtConcurrent::blockingMappedReduced` runs the operator for each tile, and what the operator
appends to the damaged areas under their mutex is not lost. -/
structure KeepsDamage (mappedReduced : MappedReduced) : Prop where
  kept : ∀ (operator : QRect → MoveSearch → UpdateOperation × MoveSearch) (records : QRect → Bool)
    (tiles : List QRect) (search : MoveSearch),
    (∀ tile seen rect, (rect ∈ seen.damagedAreas ∨ (records tile = true ∧ rect = tile)) →
      rect ∈ (operator tile seen).2.damagedAreas) →
    ∀ rect, (rect ∈ search.damagedAreas ∨ (rect ∈ tiles ∧ records rect = true)) →
      rect ∈ (mappedReduced.run operator tiles search).2.damagedAreas

theorem sequential_keeps_damage : KeepsDamage MappedReduced.sequential where
  kept := by
    intro operator records tiles search appends rect given
    change rect ∈ (mapInOrder operator tiles search).2.damagedAreas
    induction tiles generalizing search with
    | nil =>
        rcases given with old | ⟨impossible, _⟩
        · exact old
        · exact absurd impossible List.not_mem_nil
    | cons tile tiles induction =>
        apply induction
        rcases given with old | ⟨member, recorded⟩
        · exact Or.inl (appends tile search rect (Or.inl old))
        · rcases List.mem_cons.mp member with here | later
          · left
            rw [here] at recorded ⊢
            exact appends tile search tile (Or.inr ⟨recorded, rfl⟩)
          · exact Or.inr ⟨later, recorded⟩

theorem process_tiles_damage (useMinifiedTile : Bool) (tiles : List QRect) (op : UpdateOperation)
    (search : MoveSearch) :
    (processTiles comparer before after useMinifiedTile tiles op search).2.damagedAreas =
      search.damagedAreas ++ tiles.filter (recordsTile comparer before after useMinifiedTile) := by
  induction tiles generalizing op search with
  | nil => exact (List.append_nil _).symm
  | cons tile tiles induction =>
      unfold processTiles
      dsimp only
      rw [induction, process_tile_damage, List.append_assoc, List.filter_cons]
      congr 1
      split_ifs
      · rfl
      · rfl

/-- What is recorded between two states of the move analyzer. -/
structure Records (search later : MoveSearch) (area : QPoint → Prop) : Prop where
  kept : ∀ rect ∈ search.damagedAreas, rect ∈ later.damagedAreas
  covers : ∀ point, area point → ∃ rect ∈ later.damagedAreas, point ∈ rect

variable {comparer before after}

theorem tiles_recorded {mappedReduced : MappedReduced} (keeps : KeepsDamage mappedReduced)
    (minified : Bool) (tiles : List QRect) (op : UpdateOperation) (search : MoveSearch) (rect : QRect)
    (given : rect ∈ search.damagedAreas ∨
      (rect ∈ tiles ∧ recordsTile comparer before after minified rect = true)) :
    rect ∈ (mappedReduced.run (mapProcessRect comparer before after minified) tiles
        search).2.damagedAreas ∧
      rect ∈ (processTiles comparer before after minified tiles op search).2.damagedAreas := by
  constructor
  · apply keeps.kept _ (recordsTile comparer before after minified) tiles search _ rect given
    intro tile seen other recorded
    change other ∈ (processRect comparer before after minified tile UpdateOperation.default
      seen).2.damagedAreas
    rw [process_tile_damage]
    rcases recorded with old | ⟨records, same⟩
    · exact List.mem_append_left _ old
    · rw [if_pos records, same]
      exact List.mem_append_right _ (List.mem_singleton.mpr rfl)
  · rw [process_tiles_damage]
    rcases given with old | ⟨member, records⟩
    · exact List.mem_append_left _ old
    · exact List.mem_append_right _ (List.mem_filter.mpr ⟨member, records⟩)

def Unfilled (comparer : ImageComparer) (before after : QImage) (searchArea : QRect) : Prop :=
  let tiles := splitRectIntoTiles (findChangedRect32 before after searchArea)
    comparer.settings.tileWidth comparer.settings.tileWidth
  ∀ tile ∈ tiles, ¬ PaintsFill comparer before after (useMinifiedTile comparer.settings tiles) tile

def ChangedIn (before after : QImage) (area : QRect) (point : QPoint) : Prop :=
  point ∈ before.rect ∧ point ∈ area ∧ before.pixel point ≠ after.pixel point

section Areas

variable (sameSize : QImage.SameSize before after) (tileable : comparer.settings.Tileable)
  (imageFilled : before.rect.isEmpty = false)

include sameSize imageFilled

theorem changed_in_minimum {searchArea : QRect} {point : QPoint}
    (changed : ChangedIn before after searchArea point) :
    point ∈ findChangedRect32 before after searchArea := by
  rcases find_changed_cases sameSize (QRect.not_empty_of_mem changed.2.1) imageFilled with
    inside | stray
  · exact inside.2 point changed.1 changed.2.1 changed.2.2
  · exact absurd changed.2.1 (stray.2 point changed.1)

omit sameSize imageFilled in
/-- What the search for moves records is kept, and so is what the tiles record behind it. -/
theorem search_and_tiles_recorded (regionRects : RegionRects) {mappedReduced : MappedReduced}
    (keeps : KeepsDamage mappedReduced) {searchArea : QRect}
    (filled : (findChangedRect32 before after searchArea).isEmpty = false)
    (additionalSearchAreas : List QRect) (search : MoveSearch)
    {found : List UpdateOperation × List QRect × MoveSearch}
    (searched : movesAndTiles regionRects comparer before after
      (findChangedRect32 before after searchArea) additionalSearchAreas search = found)
    {rect : QRect}
    (given : rect ∈ found.2.2.damagedAreas ∨ (rect ∈ found.2.1 ∧ recordsTile comparer before after
      (useMinifiedTile comparer.settings found.2.1) rect = true)) :
    rect ∈ (findUpdateOperations regionRects mappedReduced comparer before after searchArea
      additionalSearchAreas search).2.damagedAreas := by
  subst searched
  have both := tiles_recorded keeps _ _ ((movesAndTiles regionRects comparer before after
    (findChangedRect32 before after searchArea) additionalSearchAreas search).1.getLastD
      UpdateOperation.default) _ rect given
  unfold findUpdateOperations
  dsimp only
  rw [filled, if_neg Bool.false_ne_true]
  split_ifs
  · exact both.1
  · exact both.2

include tileable

/-- Small tiles are recorded by the search for moves. -/
theorem fine_grained_records (regionRects : RegionRects) {mappedReduced : MappedReduced}
    (keeps : KeepsDamage mappedReduced) (moves : comparer.settings.analyzeMoves = true)
    (fine : comparer.settings.fineGrainedMoves = true) {searchArea : QRect}
    (filled : (findChangedRect32 before after searchArea).isEmpty = false)
    (additionalSearchAreas : List QRect) (search : MoveSearch) :
    Records search (findUpdateOperations regionRects mappedReduced comparer before after searchArea
      additionalSearchAreas search).2 (ChangedIn before after searchArea) := by
  have outcome := fun rect => @search_and_tiles_recorded comparer before after regionRects
    mappedReduced keeps searchArea filled additionalSearchAreas search _ rfl rect
  have damage : (movesAndTiles regionRects comparer before after
      (findChangedRect32 before after searchArea) additionalSearchAreas
      search).2.2.damagedAreas = search.damagedAreas ++
        splitRectIntoTiles (findChangedRect32 before after searchArea)
          comparer.settings.moveTileWidth comparer.settings.moveTileWidth := by
    unfold movesAndTiles
    rw [moves, fine, Bool.and_self, if_pos rfl]
    exact move_tiles_damage _ _ _ _
  have templates : 0 < comparer.settings.moveTileWidth := by
    have positive := tileable.2 fine
    unfold ComparerSettings.moveTileWidth
    rw [fine, if_pos rfl, Int.tdiv_eq_ediv_of_nonneg (by omega)]
    omega
  rw [damage] at outcome
  constructor
  · intro rect member
    exact outcome rect (Or.inl (List.mem_append_left _ member))
  · intro point changed
    obtain ⟨tile, tileMember, inside⟩ := (split_rect_into_tiles_spec templates templates
      filled).2 point (changed_in_minimum sameSize imageFilled changed)
    exact ⟨tile, outcome tile (Or.inl (List.mem_append_right _ tileMember)), inside⟩

/-- Large tiles are recorded one by one, if none of them is painted in one colour. -/
theorem coarse_records (regionRects : RegionRects) {mappedReduced : MappedReduced}
    (keeps : KeepsDamage mappedReduced) (moves : comparer.settings.analyzeMoves = true)
    (coarse : comparer.settings.fineGrainedMoves = false) {searchArea : QRect}
    (unfilled : Unfilled comparer before after searchArea)
    (filled : (findChangedRect32 before after searchArea).isEmpty = false)
    (additionalSearchAreas : List QRect) (search : MoveSearch) :
    Records search (findUpdateOperations regionRects mappedReduced comparer before after searchArea
      additionalSearchAreas search).2 (ChangedIn before after searchArea) := by
  have wide : 0 < comparer.settings.tileWidth := by
    have positive := tileable.1
    omega
  have plain : movesAndTiles regionRects comparer before after
      (findChangedRect32 before after searchArea) additionalSearchAreas search =
        ([], splitRectIntoTiles (findChangedRect32 before after searchArea)
          comparer.settings.tileWidth comparer.settings.tileWidth,
          MoveAnalyzer.startNewSearch search) := by
    simp only [movesAndTiles, moves, coarse, Bool.and_false, Bool.false_eq_true, if_false, if_true]
  have outcome := fun rect => @search_and_tiles_recorded comparer before after regionRects
    mappedReduced keeps searchArea filled additionalSearchAreas search _ plain rect
  constructor
  · intro rect member
    exact outcome rect (Or.inl member)
  · intro point changed
    obtain ⟨tile, tileMember, inside⟩ := (split_rect_into_tiles_spec wide wide filled).2 point
      (changed_in_minimum sameSize imageFilled changed)
    refine ⟨tile, outcome tile (Or.inr ⟨tileMember, ?_⟩), inside⟩
    have hit := changed_in_minimum sameSize imageFilled
      (show ChangedIn before after tile point from ⟨changed.1, inside, changed.2.2⟩)
    unfold recordsTile
    rw [QRect.not_empty_of_mem hit, decide_eq_false (unfilled tile tileMember), moves, coarse]
    rfl

/-- All changed pixels of an area are recorded when moves are looked for in small tiles, or
when no tile is painted in one colour. -/
theorem find_update_operations_records (regionRects : RegionRects) {mappedReduced : MappedReduced}
    (keeps : KeepsDamage mappedReduced) (moves : comparer.settings.analyzeMoves = true)
    (searchArea : QRect) (unfilled : comparer.settings.fineGrainedMoves = true ∨
      Unfilled comparer before after searchArea)
    (additionalSearchAreas : List QRect) (search : MoveSearch) :
    Records search (findUpdateOperations regionRects mappedReduced comparer before after searchArea
      additionalSearchAreas search).2 (ChangedIn before after searchArea) := by
  cases empty : (findChangedRect32 before after searchArea).isEmpty with
  | true =>
      unfold findUpdateOperations
      dsimp only
      rw [empty, if_pos rfl]
      refine ⟨fun _ member => member, ?_⟩
      intro point changed
      have hit := changed_in_minimum sameSize imageFilled changed
      rw [QRect.not_empty_of_mem hit] at empty
      cases empty
  | false =>
      cases fine : comparer.settings.fineGrainedMoves with
      | true =>
          exact fine_grained_records sameSize tileable imageFilled regionRects keeps moves fine empty
            additionalSearchAreas search
      | false =>
          exact coarse_records sameSize tileable imageFilled regionRects keeps moves fine
            (unfilled.resolve_left (by rw [fine]; decide)) empty additionalSearchAreas search

/-- All areas of a frame one after the other. -/
theorem update_operations_of_rects_record (regionRects : RegionRects) {mappedReduced : MappedReduced}
    (keeps : KeepsDamage mappedReduced) (moves : comparer.settings.analyzeMoves = true)
    (rects areas : List QRect)
    (unfilled : comparer.settings.fineGrainedMoves = true ∨
      ∀ area ∈ areas, Unfilled comparer before after area) (search : MoveSearch) :
    Records search (updateOperationsOfRects regionRects mappedReduced comparer before after rects
      areas search).2 (fun point => ∃ area ∈ areas, ChangedIn before after area point) := by
  induction areas generalizing search with
  | nil =>
      refine ⟨fun _ member => member, ?_⟩
      rintro point ⟨area, impossible, _⟩
      exact absurd impossible List.not_mem_nil
  | cons area areas induction =>
      have first := find_update_operations_records sameSize tileable imageFilled regionRects keeps
        moves area (unfilled.imp_right fun every => every area List.mem_cons_self) rects search
      have rest := induction
        (unfilled.imp_right fun every other member => every other (List.mem_cons_of_mem _ member))
        (findUpdateOperations regionRects mappedReduced comparer before after area rects search).2
      unfold updateOperationsOfRects
      dsimp only
      constructor
      · intro rect member
        exact rest.kept rect (first.kept rect member)
      · rintro point ⟨other, member, changed⟩
        rcases List.mem_cons.mp member with here | later
        · rw [here] at changed
          obtain ⟨rect, recorded, inside⟩ := first.covers point changed
          exact ⟨rect, rest.kept rect recorded, inside⟩
        · exact rest.covers point ⟨other, later, changed⟩

end Areas

end Viridity.DamageRecording
