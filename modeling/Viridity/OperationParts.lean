import Viridity.FrameDifference

/-!
# The operations of a frame, one by one

A property of the operation made for any one tile, and of any one move, is a property of
all operations of a frame. Every operation has pixels to draw, and updates are drawn where
they were read.
-/

namespace Viridity.OperationParts

open Viridity.QtRectangle
open Viridity.ImageAux
open Viridity.TileOperations
open Viridity.MoveAnalysis
open Viridity.ImageComparerOpTools
open Viridity.FrameComparison
open Viridity.FrameDifference
open UpdateOperationType

set_option autoImplicit false

variable {comparer : ImageComparer} {before after : QImage} {holds : UpdateOperation → Prop}

/-- A property of the operations of single tiles and of single moves. -/
structure HoldsOfParts (comparer : ImageComparer) (before after : QImage)
    (holds : UpdateOperation → Prop) : Prop where
  tile : ∀ minified tile op search, tile.isEmpty = false →
    ∀ found ∈ (processRect comparer before after minified tile op search).1, holds found
  move : ∀ move : MoveOperation, move.srcRect.isEmpty = false → holds (ofMove move)
  idle : holds UpdateOperation.default

theorem move_tiles_filled (analyzer : MoveAnalyzer) (areas tiles : List QRect) (search : MoveSearch) :
    ∀ move ∈ (analyzer.moveTiles areas tiles search).1, move.srcRect.isEmpty = false := by
  induction tiles generalizing search with
  | nil =>
      intro move member
      exact absurd member List.not_mem_nil
  | cons rect rest induction =>
      have later := induction (analyzer.processRect rect areas search).2
      simp only [MoveAnalyzer.moveTiles]
      split_ifs with missed
      · exact later
      · intro move member
        rcases List.mem_cons.mp member with first | rest
        · rw [first]
          simpa using missed
        · exact later move rest

theorem moves_and_tiles_filled (regionRects : RegionRects) (tileable : comparer.settings.Tileable)
    {minSearchRect : QRect} (minFilled : minSearchRect.isEmpty = false)
    (additionalSearchAreas : List QRect) (search : MoveSearch) :
    let found := movesAndTiles regionRects comparer before after minSearchRect additionalSearchAreas
      search
    (∀ op ∈ found.1, ∃ move : MoveOperation, move.srcRect.isEmpty = false ∧ op = ofMove move) ∧
      ∀ tile ∈ found.2.1, tile.isEmpty = false := by
  have wide : 0 < comparer.settings.tileWidth := by
    have positive := tileable.1
    omega
  unfold movesAndTiles
  dsimp only
  split_ifs
  · constructor
    · intro op member
      obtain ⟨move, found, same⟩ := List.mem_map.mp member
      exact ⟨move, move_tiles_filled _ _ _ _ move found, same.symm⟩
    · intro tile member
      obtain ⟨rect, united, part⟩ := List.mem_flatMap.mp member
      have filled := (vertically_unite_exact _ (regionRects.filled _)).1 rect united
      exact ((split_rect_into_tiles_spec wide wide filled).1 tile part).1
  all_goals
    constructor
    · intro op member
      exact absurd member List.not_mem_nil
    · intro tile part
      exact ((split_rect_into_tiles_spec wide wide minFilled).1 tile part).1

section Parts

variable (parts : HoldsOfParts comparer before after holds)

include parts

theorem process_tiles_hold (minified : Bool) {tiles : List QRect}
    (filled : ∀ tile ∈ tiles, tile.isEmpty = false) (op : UpdateOperation) (search : MoveSearch) :
    ∀ found ∈ (processTiles comparer before after minified tiles op search).1, holds found := by
  induction tiles generalizing op search with
  | nil =>
      intro found member
      exact absurd member List.not_mem_nil
  | cons tile tiles induction =>
      rw [List.forall_mem_cons] at filled
      intro found member
      rcases List.mem_append.mp member with first | later
      · exact parts.tile minified tile op search filled.1 found (Option.mem_toList.mp first)
      · exact induction filled.2 _ _ found later

theorem mapped_hold (mappedReduced : MappedReduced) (minified : Bool) {tiles : List QRect}
    (filled : ∀ tile ∈ tiles, tile.isEmpty = false) (search : MoveSearch) :
    ∀ found ∈ (mappedReduced.run (mapProcessRect comparer before after minified) tiles search).1,
      holds found := by
  obtain ⟨outputs, mapped, perm⟩ :=
    mappedReduced.mapped (mapProcessRect comparer before after minified) tiles search
  have outputsHold : ∀ found ∈ outputs, holds found := by
    clear perm
    induction mapped with
    | nil =>
        intro found member
        exact absurd member List.not_mem_nil
    | @cons tile output tiles outputs produced _ induction =>
        rw [List.forall_mem_cons] at filled
        obtain ⟨seen, same⟩ := produced
        have single := parts.tile minified tile UpdateOperation.default seen filled.1
        intro found member
        rcases List.mem_cons.mp member with first | later
        · rw [first, same]
          unfold mapProcessRect
          generalize processRect comparer before after minified tile UpdateOperation.default seen =
            outcome at single ⊢
          rcases outcome with ⟨made, state⟩
          cases made with
          | some made => exact single made rfl
          | none => exact parts.idle
        · exact induction filled.2 found later
  exact fun found member => outputsHold found (perm.mem_iff.mp member)

theorem find_update_operations_hold (regionRects : RegionRects) (mappedReduced : MappedReduced)
    (tileable : comparer.settings.Tileable) (searchArea : QRect)
    (additionalSearchAreas : List QRect) (search : MoveSearch) :
    ∀ found ∈ (findUpdateOperations regionRects mappedReduced comparer before after searchArea
      additionalSearchAreas search).1, holds found := by
  simp only [findUpdateOperations]
  by_cases empty : (findChangedRect32 before after searchArea).isEmpty = true
  · rw [if_pos empty]
    intro found member
    exact absurd member List.not_mem_nil
  · rw [if_neg empty]
    obtain ⟨moves, tiles⟩ := @moves_and_tiles_filled comparer before after regionRects tileable
      (findChangedRect32 before after searchArea) (by simpa using empty) additionalSearchAreas search
    have movesHold : ∀ op ∈ (movesAndTiles regionRects comparer before after
        (findChangedRect32 before after searchArea) additionalSearchAreas search).1, holds op := by
      intro op member
      obtain ⟨move, filled, same⟩ := moves op member
      rw [same]
      exact parts.move move filled
    intro found member
    split_ifs at member
    · rcases List.mem_append.mp member with moved | mapped
      · exact movesHold found moved
      · exact mapped_hold parts mappedReduced _ tiles _ found (List.mem_filter.mp mapped).1
    · rcases List.mem_append.mp member with moved | processed
      · exact movesHold found moved
      · exact process_tiles_hold parts _ tiles _ _ found processed

/-- All operations of a frame before they are optimised. -/
theorem update_operations_hold (regionRects : RegionRects) (mappedReduced : MappedReduced)
    (tileable : comparer.settings.Tileable) (rects areas : List QRect) (search : MoveSearch) :
    ∀ found ∈ (updateOperationsOfRects regionRects mappedReduced comparer before after rects areas
      search).1, holds found := by
  induction areas generalizing search with
  | nil =>
      intro found member
      exact absurd member List.not_mem_nil
  | cons area areas induction =>
      intro found member
      rcases List.mem_append.mp member with first | later
      · exact find_update_operations_hold parts regionRects mappedReduced tileable area rects search
          found first
      · exact induction _ found later

end Parts

def DrawnInPlace (op : UpdateOperation) : Prop :=
  op.type = uotUpdate → op.dstPoint = op.srcRect.topLeft

def DrawsPixels (op : UpdateOperation) : Prop := op.type ≠ uotNoOp → op.srcRect.isEmpty = false

theorem drawn_in_place_parts : HoldsOfParts comparer before after DrawnInPlace where
  tile := by
    intro minified tile op search _ found member kind
    unfold processRect at member
    simp only at member
    split_ifs at member
    all_goals
      simp only [Option.mem_def, Option.some.injEq, reduceCtorEq] at member
    all_goals
      subst member
      first
        | rfl
        | cases kind
  move := fun _ _ impossible => by cases impossible
  idle := fun impossible => by cases impossible

theorem draws_pixels_parts : HoldsOfParts comparer before after DrawsPixels where
  tile := by
    intro minified tile op search filled found member _
    unfold processRect at member
    simp only at member
    by_cases empty : (findChangedRect32 before after tile).isEmpty = true
    · rw [if_pos empty] at member
      cases member
    · rw [if_neg empty] at member
      have minimum : (if minified = true then findChangedRect32 before after tile
          else tile).isEmpty = false := by
        split_ifs
        · simpa using empty
        · exact filled
      generalize (if minified = true then findChangedRect32 before after tile else tile) = minRect
        at member minimum
      generalize (if (comparer.settings.analyzeMoves && !comparer.settings.fineGrainedMoves) = true then
        (analyzer comparer before after).processRect tile [] search else (QRect.null, search)) = moved
        at member
      by_cases solid : (if comparer.settings.analyzeFills = true then getSolidRectColor after minRect
          else none).isSome = true
      · rw [if_pos solid, Option.mem_def, Option.some.injEq] at member
        rw [← member]
        exact minimum
      · rw [if_neg solid] at member
        split_ifs at member with missed
        · rw [Option.mem_def, Option.some.injEq] at member
          rw [← member]
          exact minimum
        · rw [Option.mem_def, Option.some.injEq] at member
          rw [← member]
          simpa using missed
  move := fun _ filled _ => filled
  idle := fun idle => absurd rfl idle

/-- The optimiser makes operations of rectangles that are not empty, or keeps those it has. -/
theorem draws_pixels_optimize (regionRects : RegionRects) {ops : List UpdateOperation}
    (drawing : ∀ op ∈ ops, DrawsPixels op) :
    ∀ op ∈ optimizeUpdateOperations regionRects ops, DrawsPixels op := by
  have united : ∀ (others : List UpdateOperation), ∀ rect ∈ unitedRects regionRects others,
      rect.isEmpty = false :=
    fun others => (vertically_unite_exact _ (regionRects.filled _)).1
  have kept : ∀ type, ∀ op ∈ ofType type ops, DrawsPixels op :=
    fun type op member => drawing op (mem_of_type.mp member).1
  have chosen : ∀ {newOps others : List UpdateOperation}, (∀ op ∈ newOps, DrawsPixels op) →
      (∀ op ∈ others, DrawsPixels op) → ∀ op ∈ chooseShorter newOps others, DrawsPixels op := by
    intro newOps others left right
    unfold chooseShorter
    split_ifs
    · exact left
    · exact right
  have vectorized : ∀ type hashed, ∀ op ∈ optimizeVectorizedOperations regionRects type hashed,
      DrawsPixels op := by
    intro type hashed op member _
    obtain ⟨entry, _, opMember⟩ := List.mem_flatMap.mp member
    obtain ⟨rect, rectMember, same⟩ := List.mem_map.mp opMember
    rw [← same]
    exact united entry.2 rect rectMember
  have filled : ∀ hashed, ∀ op ∈ optimizeFillOperations regionRects hashed, DrawsPixels op := by
    intro hashed op member _
    obtain ⟨entry, _, opMember⟩ := List.mem_flatMap.mp member
    obtain ⟨rect, rectMember, same⟩ := List.mem_map.mp opMember
    rw [← same]
    exact united entry.2 rect rectMember
  intro op member
  rcases List.mem_append.mp member with drawn | idle
  · rcases List.mem_append.mp drawn with still | moves
    · rcases List.mem_append.mp still with updates | fills
      · exact chosen (vectorized _ _) (kept _) op updates
      · exact chosen (filled _) (kept _) op fills
    · exact chosen (vectorized _ _) (kept _) op moves
  · exact kept _ op idle

end Viridity.OperationParts
