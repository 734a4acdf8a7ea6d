import Viridity.ImageComparerOpTools
import Viridity.MoveAnalysis

/-!
# Comparing two frames

`findDifferences` marks the tiles that differ and `findUpdateOperations` turns
one marked rectangle into operations. With multithreading the tiles are mapped
in an unspecified order, each from whatever state the other threads have left
in the move analyzer, and reduced in an unspecified order.
-/

namespace Viridity.FrameComparison

open Viridity.QtRectangle
open Viridity.ImageAux
open Viridity.FingerPrintSearch
open Viridity.TileOperations
open Viridity.MoveAnalysis
open Viridity.ImageComparerOpTools
open UpdateOperationType

set_option autoImplicit false

structure ComparerSettings where
  tileWidth : Int
  useMultithreading : Bool
  minifyTiles : Bool
  minifyTileCountThreshold : Int
  analyzeFills : Bool
  analyzeMoves : Bool
  fineGrainedMoves : Bool
deriving DecidableEq, Repr

def ComparerSettings.default : ComparerSettings where
  tileWidth := 32
  useMultithreading := true
  minifyTiles := true
  minifyTileCountThreshold := 10
  analyzeFills := true
  analyzeMoves := false
  fineGrainedMoves := false

/-- The template width `setSettings` gives the move analyzer. -/
def ComparerSettings.moveTileWidth (settings : ComparerSettings) : Int :=
  if settings.fineGrainedMoves then settings.tileWidth.tdiv 2 else settings.tileWidth

/-- Tile widths for which tiles and templates have at least one pixel. -/
def ComparerSettings.Tileable (settings : ComparerSettings) : Prop :=
  1 ≤ settings.tileWidth ∧ (settings.fineGrainedMoves = true → 2 ≤ settings.tileWidth)

/-- `QtConcurrent::blockingMappedReduced` with an unordered reduce. -/
structure MappedReduced where
  run : (QRect → MoveSearch → UpdateOperation × MoveSearch) → List QRect → MoveSearch →
    List UpdateOperation × MoveSearch
  mapped : ∀ operator tiles search, ∃ outputs : List UpdateOperation,
    List.Forall₂ (fun tile output => ∃ seen, output = (operator tile seen).1) tiles outputs ∧
    (run operator tiles search).1.Perm outputs

def mapInOrder (operator : QRect → MoveSearch → UpdateOperation × MoveSearch) :
    List QRect → MoveSearch → List UpdateOperation × MoveSearch
  | [], search => ([], search)
  | tile :: tiles, search =>
      let outcome := operator tile search
      let remaining := mapInOrder operator tiles outcome.2
      (outcome.1 :: remaining.1, remaining.2)

def MappedReduced.sequential : MappedReduced where
  run := mapInOrder
  mapped := by
    intro operator tiles search
    refine ⟨(mapInOrder operator tiles search).1, ?_, List.Perm.refl _⟩
    induction tiles generalizing search with
    | nil => exact List.Forall₂.nil
    | cons tile tiles induction => exact List.Forall₂.cons ⟨search, rfl⟩ (induction _)

/-- A comparer without its image pointers: settings and the move analyzer.
`searchAreaFingerPrints` is `none` when the fingerprints are compiled out. -/
structure ImageComparer where
  settings : ComparerSettings
  searchRadius : Int
  searchMissesThreshold : Int
  searchAreaFingerPrints : Option AreaFingerPrints
  search : MoveSearch

namespace ImageComparer

/-- `setSettings`, which also builds a new move analyzer. -/
def setSettings (useAreaFingerPrints : Bool) (settings : ComparerSettings) (imageBefore : QImage) :
    ImageComparer where
  settings := settings
  searchRadius := 200
  searchMissesThreshold := 50
  searchAreaFingerPrints :=
    if useAreaFingerPrints then
      some (AreaFingerPrints.create.initFromImage imageBefore imageBefore.rect settings.moveTileWidth)
    else none
  search := ⟨[], 0, true, []⟩

/-- `swap`, given what `imageBefore_` points to afterwards. -/
def swap (regionRects : RegionRects) (comparer : ImageComparer) (imageBefore : QImage) :
    ImageComparer :=
  if comparer.settings.analyzeMoves then
    { comparer with
      searchAreaFingerPrints := comparer.searchAreaFingerPrints.map fun prints =>
        (regionRects.rects comparer.search.damagedAreas).foldl
          (fun prints rect => prints.updateFromImage imageBefore rect) prints
      search :=
        { comparer.search with
          damagedAreas := []
          lastSuccessfulMoveVectors := comparer.search.lastSuccessfulMoveVectors.take 200 } }
  else comparer

@[simp] theorem swap_settings (regionRects : RegionRects) (comparer : ImageComparer)
    (imageBefore : QImage) : (comparer.swap regionRects imageBefore).settings = comparer.settings := by
  unfold swap
  split_ifs
  · rfl
  · rfl

end ImageComparer

def analyzer (comparer : ImageComparer) (before after : QImage) : MoveAnalyzer where
  imageBefore := before
  imageAfter := after
  templateWidth := comparer.settings.moveTileWidth
  searchRadius := comparer.searchRadius
  searchMissesThreshold := comparer.searchMissesThreshold
  searchAreaFingerPrints := comparer.searchAreaFingerPrints

def tileCount (extent : Nat) (tileWidth : Int) : Int :=
  (extent : Int).tdiv tileWidth + if (extent : Int).tmod tileWidth ≠ 0 then 1 else 0

def comparedTiles (settings : ComparerSettings) (before : QImage) : List QRect :=
  (List.range (tileCount before.height settings.tileWidth).toNat).flatMap fun (y : Nat) =>
    (List.range (tileCount before.width settings.tileWidth).toNat).map fun (x : Nat) =>
      QRect.ofSize (x * settings.tileWidth) (y * settings.tileWidth)
        settings.tileWidth settings.tileWidth

def differingRegion (settings : ComparerSettings) (before after : QImage) : TiledRegion :=
  (comparedTiles settings before).foldl
    (fun region rect =>
      if contentMatches before after rect.topLeft rect then region else region.add rect)
    (TiledRegion.create settings.tileWidth settings.tileWidth)

def findDifferences (regionRects : RegionRects) (settings : ComparerSettings)
    (before after : QImage) : List QRect :=
  (differingRegion settings before after).rects regionRects

/-- `processRect`: the operation for one tile, `none` where the source returns false.
`op` is the object the caller passes; fields that are not assigned keep their value. -/
def processRect (comparer : ImageComparer) (before after : QImage) (useMinifiedTile : Bool)
    (rect : QRect) (op : UpdateOperation) (search : MoveSearch) :
    Option UpdateOperation × MoveSearch :=
  let changedRect := findChangedRect32 before after rect
  if changedRect.isEmpty then (none, search)
  else
    let minRect := if useMinifiedTile then changedRect else rect
    let solidColor :=
      if comparer.settings.analyzeFills then getSolidRectColor after minRect else none
    if solidColor.isSome then
      (some { op with
        type := uotFill
        srcRect := minRect
        dstPoint := minRect.topLeft
        fillColor := solidColor }, search)
    else
      let moved :=
        if comparer.settings.analyzeMoves && !comparer.settings.fineGrainedMoves then
          (analyzer comparer before after).processRect rect [] search
        else (QRect.null, search)
      if moved.1.isEmpty then
        (some { op with type := uotUpdate, srcRect := minRect, dstPoint := minRect.topLeft }, moved.2)
      else
        (some { op with type := uotMove, srcRect := moved.1, dstPoint := rect.topLeft }, moved.2)

def mapProcessRect (comparer : ImageComparer) (before after : QImage) (useMinifiedTile : Bool)
    (rect : QRect) (search : MoveSearch) : UpdateOperation × MoveSearch :=
  let (outcome, after) :=
    processRect comparer before after useMinifiedTile rect UpdateOperation.default search
  (outcome.getD UpdateOperation.default, after)

/-- The loop over the tiles without multithreading: one `op` is passed to every
call and appended when the call returns true. -/
def processTiles (comparer : ImageComparer) (before after : QImage) (useMinifiedTile : Bool) :
    List QRect → UpdateOperation → MoveSearch → List UpdateOperation × MoveSearch
  | [], _, search => ([], search)
  | rect :: rest, op, search =>
      let outcome := processRect comparer before after useMinifiedTile rect op search
      let remaining := processTiles comparer before after useMinifiedTile rest
        (outcome.1.getD op) outcome.2
      (outcome.1.toList ++ remaining.1, remaining.2)

def ofMove (move : MoveOperation) : UpdateOperation :=
  { UpdateOperation.default with
    type := uotMove, srcRect := move.srcRect, dstPoint := move.dstPoint }

def movesAndTiles (regionRects : RegionRects) (comparer : ImageComparer) (before after : QImage)
    (minSearchRect : QRect) (additionalSearchAreas : List QRect) (search : MoveSearch) :
    List UpdateOperation × List QRect × MoveSearch :=
  let tileWidth := comparer.settings.tileWidth
  if comparer.settings.analyzeMoves && comparer.settings.fineGrainedMoves then
    let (moves, leftovers, later) :=
      (analyzer comparer before after).findMoveOperations minSearchRect additionalSearchAreas search
    (moves.map ofMove,
      (verticallyUniteRects (regionRects.rects leftovers)).flatMap fun rect =>
        splitRectIntoTiles rect tileWidth tileWidth,
      later)
  else
    ([], splitRectIntoTiles minSearchRect tileWidth tileWidth,
      if comparer.settings.analyzeMoves then MoveAnalyzer.startNewSearch search else search)

def useMinifiedTile (settings : ComparerSettings) (tiles : List QRect) : Bool :=
  settings.minifyTiles && (settings.minifyTileCountThreshold == -1 ||
    tiles.length ≤ settings.minifyTileCountThreshold)

def findUpdateOperations (regionRects : RegionRects) (mappedReduced : MappedReduced)
    (comparer : ImageComparer) (before after : QImage) (searchArea : QRect)
    (additionalSearchAreas : List QRect) (search : MoveSearch) :
    List UpdateOperation × MoveSearch :=
  let minSearchRect := findChangedRect32 before after searchArea
  if minSearchRect.isEmpty then ([], search)
  else
    let (moves, tiles, later) :=
      movesAndTiles regionRects comparer before after minSearchRect additionalSearchAreas search
    let minified := useMinifiedTile comparer.settings tiles
    if comparer.settings.useMultithreading then
      let (outputs, final) :=
        mappedReduced.run (mapProcessRect comparer before after minified) tiles later
      (moves ++ outputs.filter fun op => op.type != uotNoOp, final)
    else
      let (ops, final) := processTiles comparer before after minified tiles
        (moves.getLastD UpdateOperation.default) later
      (moves ++ ops, final)

def updateOperationsOfRects (regionRects : RegionRects) (mappedReduced : MappedReduced)
    (comparer : ImageComparer) (before after : QImage) (rects : List QRect) :
    List QRect → MoveSearch → List UpdateOperation × MoveSearch
  | [], search => ([], search)
  | rect :: rest, search =>
      let (ops, later) :=
        findUpdateOperations regionRects mappedReduced comparer before after rect rects search
      let (others, final) :=
        updateOperationsOfRects regionRects mappedReduced comparer before after rects rest later
      (ops ++ others, final)

/-- A stroke that shows leaves the colour of the image after the change, and moves
occur only between images that have a pixel in common. -/
structure SoundStroke (before after : QImage) (point : QPoint) (stroke : Stroke) : Prop where
  colour : stroke.visible before = true → stroke.colour before after = after.pixel point
  shared : ∀ source, stroke = .fromBefore source → QImage.SharePixel before after

/-- What one stage promises about the operations for the pixels of `area`. -/
structure Repairs (before after : QImage) (area : QPoint → Prop) (ops : List UpdateOperation) :
    Prop where
  sound : ∀ point ∈ before.rect, ∀ stroke, Draws ops point stroke →
    SoundStroke before after point stroke
  complete : ∀ point ∈ before.rect, area point → before.pixel point ≠ after.pixel point →
    ∃ stroke, Draws ops point stroke ∧ stroke.visible before = true

/-- The pixels of a tile that lies in the image. A tile that sticks out belongs to
a search area outside the image, where nothing has to be repaired. -/
def TilePixel (before : QImage) (tile : QRect) (point : QPoint) : Prop :=
  point ∈ tile ∧ ∀ other ∈ tile, other ∈ before.rect

theorem Repairs.none (before after : QImage) {area : QPoint → Prop}
    (unchanged : ∀ point ∈ before.rect, area point → before.pixel point = after.pixel point) :
    Repairs before after area [] where
  sound := by
    intro point _ stroke drawn
    rcases drawn with ⟨op, member, _⟩
    exact absurd member List.not_mem_nil
  complete := by
    intro point inside member differs
    exact absurd (unchanged point inside member) differs

theorem Repairs.append {before after : QImage} {first second area : QPoint → Prop}
    {firstOps secondOps : List UpdateOperation} (left : Repairs before after first firstOps)
    (right : Repairs before after second secondOps)
    (split : ∀ point ∈ before.rect, area point → before.pixel point ≠ after.pixel point →
      first point ∨ second point) :
    Repairs before after area (firstOps ++ secondOps) where
  sound := by
    intro point inside stroke drawn
    rcases (draws_append firstOps secondOps point stroke).mp drawn with early | late
    · exact left.sound point inside stroke early
    · exact right.sound point inside stroke late
  complete := by
    intro point inside member differs
    rcases split point inside member differs with early | late
    · obtain ⟨stroke, drawn, shows⟩ := left.complete point inside early differs
      exact ⟨stroke, (draws_append firstOps secondOps point stroke).mpr (Or.inl drawn), shows⟩
    · obtain ⟨stroke, drawn, shows⟩ := right.complete point inside late differs
      exact ⟨stroke, (draws_append firstOps secondOps point stroke).mpr (Or.inr drawn), shows⟩

theorem Repairs.congr {before after : QImage} {area : QPoint → Prop}
    {ops others : List UpdateOperation}
    (same : ∀ point stroke, Draws others point stroke ↔ Draws ops point stroke)
    (repairs : Repairs before after area ops) : Repairs before after area others where
  sound := by
    intro point inside stroke drawn
    exact repairs.sound point inside stroke ((same point stroke).mp drawn)
  complete := by
    intro point inside member differs
    obtain ⟨stroke, drawn, shows⟩ := repairs.complete point inside member differs
    exact ⟨stroke, (same point stroke).mpr drawn, shows⟩

theorem Repairs.restrict {before after : QImage} {area larger : QPoint → Prop}
    {ops : List UpdateOperation} (repairs : Repairs before after larger ops)
    (within : ∀ point ∈ before.rect, area point → before.pixel point ≠ after.pixel point →
      larger point) : Repairs before after area ops where
  sound := repairs.sound
  complete := by
    intro point inside member differs
    exact repairs.complete point inside (within point inside member differs) differs

theorem draws_singleton (op : UpdateOperation) (point : QPoint) (stroke : Stroke) :
    Draws [op] point stroke ↔ op.strokeAt point = some stroke := by
  simp [Draws]

theorem update_stroke {op : UpdateOperation} (kind : op.type = uotUpdate)
    (inPlace : op.dstPoint = op.srcRect.topLeft) (point : QPoint) (stroke : Stroke) :
    op.strokeAt point = some stroke ↔ point ∈ op.srcRect ∧ stroke = .fromAfter point := by
  have still : point.add op.moveVector = point := by
    apply QPoint.ext_coordinates
    · simp only [UpdateOperation.moveVector, inPlace, QPoint.add_x, QPoint.sub_x]
      omega
    · simp only [UpdateOperation.moveVector, inPlace, QPoint.add_y, QPoint.sub_y]
      omega
  simp only [UpdateOperation.strokeAt, kind, UpdateOperation.mem_dst_rect, still]
  split_ifs with member
  · simp [member, eq_comm]
  · simp [member]

/-- A move found for `tile` leaves the right pixels, and on a tile inside the image
it leaves one everywhere. -/
theorem move_stroke {moveAnalyzer : MoveAnalyzer} {tile : QRect} {op : UpdateOperation}
    (sameSize : QImage.SameSize moveAnalyzer.imageBefore moveAnalyzer.imageAfter)
    (kind : op.type = uotMove) (target : op.dstPoint = tile.topLeft)
    (moved : op.srcRect.isEmpty = false) (found : moveAnalyzer.FoundMove tile op.srcRect)
    {point : QPoint} (inside : point ∈ moveAnalyzer.imageBefore.rect) :
    (∀ stroke, op.strokeAt point = some stroke →
      SoundStroke moveAnalyzer.imageBefore moveAnalyzer.imageAfter point stroke) ∧
    (TilePixel moveAnalyzer.imageBefore tile point → ∃ stroke, op.strokeAt point = some stroke ∧
      stroke.visible moveAnalyzer.imageBefore = true) := by
  have sameRect := QImage.same_size_rect sameSize
  rcases found with empty | ⟨shape, matching⟩
  · exact absurd (empty.symm.trans moved) (by simp)
  · have sameWidth : op.srcRect.width = tile.width := by
      have right := congrArg QRect.x2 shape
      simp only [QRect.ofSize] at right
      simp only [QRect.width] at right ⊢
      omega
    have sameHeight : op.srcRect.height = tile.height := by
      have bottom := congrArg QRect.y2 shape
      simp only [QRect.ofSize] at bottom
      simp only [QRect.height] at bottom ⊢
      omega
    have sameTile : op.dstRect = tile := by
      rw [UpdateOperation.dstRect, target, sameWidth, sameHeight]
      cases tile
      simp only [QRect.ofSize, QRect.topLeft, QRect.width, QRect.height]
      congr 1 <;> omega
    simp only [UpdateOperation.strokeAt, kind, sameTile]
    constructor
    · intro stroke drawn
      split_ifs at drawn with member
      simp only [Option.some.injEq] at drawn
      subst drawn
      constructor
      · simp only [Stroke.visible, Stroke.colour, UpdateOperation.moveVector, target,
          QRect.contains_iff]
        exact matching.equal point member (sameRect ▸ inside)
      · intro source _
        exact matching.compared ⟨point, member, sameRect ▸ inside⟩
    · rintro ⟨member, whole⟩
      have shown := matching.readable (fun other otherMember => sameRect ▸ whole other otherMember)
        point member
      refine ⟨_, if_pos member, ?_⟩
      simp only [Stroke.visible, UpdateOperation.moveVector, target, QRect.contains_iff]
      exact shown

section OneOperation

variable {before after : QImage} {area : QPoint → Prop} {op : UpdateOperation}

theorem fill_repairs (kind : op.type = uotFill) {colour : QRgb} (sameColour : op.fillColor = some colour)
    (solid : ∀ point ∈ before.rect, point ∈ op.srcRect → after.pixel point = colour)
    (covers : ∀ point ∈ before.rect, area point → before.pixel point ≠ after.pixel point →
      point ∈ op.srcRect) : Repairs before after area [op] where
  sound := by
    intro point inside stroke drawn
    rw [draws_singleton, fill_stroke kind] at drawn
    rcases drawn with ⟨member, rfl⟩
    constructor
    · intro _
      simp only [Stroke.colour, sameColour, Option.getD_some]
      exact (solid point inside member).symm
    · intro source impossible
      exact absurd impossible (by simp)
  complete := by
    intro point inside member differs
    refine ⟨.solid op.fillColor, ?_, rfl⟩
    rw [draws_singleton, fill_stroke kind]
    exact ⟨covers point inside member differs, rfl⟩

theorem update_repairs (kind : op.type = uotUpdate) (inPlace : op.dstPoint = op.srcRect.topLeft)
    (covers : ∀ point ∈ before.rect, area point → before.pixel point ≠ after.pixel point →
      point ∈ op.srcRect) : Repairs before after area [op] where
  sound := by
    intro point inside stroke drawn
    rw [draws_singleton, update_stroke kind inPlace] at drawn
    rcases drawn with ⟨member, rfl⟩
    constructor
    · intro _
      rfl
    · intro source impossible
      exact absurd impossible (by simp)
  complete := by
    intro point inside member differs
    refine ⟨.fromAfter point, ?_, rfl⟩
    rw [draws_singleton, update_stroke kind inPlace]
    exact ⟨covers point inside member differs, rfl⟩

theorem move_repairs {moveAnalyzer : MoveAnalyzer} {tile : QRect}
    (sameSize : QImage.SameSize moveAnalyzer.imageBefore moveAnalyzer.imageAfter)
    (kind : op.type = uotMove) (target : op.dstPoint = tile.topLeft)
    (moved : op.srcRect.isEmpty = false) (found : moveAnalyzer.FoundMove tile op.srcRect) :
    Repairs moveAnalyzer.imageBefore moveAnalyzer.imageAfter
      (TilePixel moveAnalyzer.imageBefore tile) [op] where
  sound := by
    intro point inside stroke drawn
    rw [draws_singleton] at drawn
    exact (move_stroke sameSize kind target moved found inside).1 stroke drawn
  complete := by
    intro point inside member differs
    obtain ⟨stroke, drawn, shows⟩ :=
      (move_stroke sameSize kind target moved found inside).2 member
    exact ⟨stroke, (draws_singleton op point stroke).mpr drawn, shows⟩

end OneOperation

/-- One tile: the operation repairs it, and no operation means nothing changed. -/
theorem process_rect_repairs {before after : QImage} (sameSize : QImage.SameSize before after)
    (comparer : ImageComparer) (minified : Bool) {rect : QRect} (filled : rect.isEmpty = false)
    (searchable : (analyzer comparer before after).Searchable rect)
    (op : UpdateOperation) (search : MoveSearch) :
    Repairs before after (TilePixel before rect)
      (processRect comparer before after minified rect op search).1.toList := by
  have changed : ∀ point ∈ before.rect, TilePixel before rect point →
      before.pixel point ≠ after.pixel point → point ∈ findChangedRect32 before after rect := by
    intro point pointImage member differs
    exact (find_changed_rect_spec sameSize filled ⟨point, member.1, pointImage⟩).1 point
      member.1 pointImage differs
  have sameRect := QImage.same_size_rect sameSize
  by_cases empty : (findChangedRect32 before after rect).isEmpty = true
  · simp only [processRect, empty, if_true, Option.toList]
    apply Repairs.none
    intro point pointImage member
    by_contra differs
    have hit := changed point pointImage member differs
    exact absurd ((QRect.not_empty_of_mem hit).symm.trans empty) (by simp)
  · obtain ⟨minRect, sameMin⟩ : ∃ minRect,
        minRect = if minified = true then findChangedRect32 before after rect else rect := ⟨_, rfl⟩
    have minFilled : minRect.isEmpty = false := by
      rw [sameMin]
      split_ifs
      · simpa using empty
      · exact filled
    have minCovers : ∀ point ∈ before.rect, TilePixel before rect point →
        before.pixel point ≠ after.pixel point → point ∈ minRect := by
      intro point pointImage member differs
      rw [sameMin]
      split_ifs
      · exact changed point pointImage member differs
      · exact member.1
    have moveSound := MoveAnalyzer.found_move_process_rect
      (show QImage.SameSize (analyzer comparer before after).imageBefore
        (analyzer comparer before after).imageAfter from sameSize) filled searchable [] search
    have solidSound : ∀ colour,
        (if comparer.settings.analyzeFills = true then getSolidRectColor after minRect else none) =
          some colour →
        ∀ point ∈ before.rect, point ∈ minRect → after.pixel point = colour := by
      intro colour sameColour point pointImage member
      split_ifs at sameColour
      exact solid_rect_color_sound sameColour minFilled member (sameRect ▸ pointImage)
    simp only [processRect, empty, ← sameMin, Bool.false_eq_true, if_false]
    generalize (if comparer.settings.analyzeFills = true then getSolidRectColor after minRect
      else none) = solidColor at solidSound ⊢
    cases solidColor with
    | some colour => exact fill_repairs rfl rfl (solidSound colour rfl) minCovers
    | none =>
        simp only [Option.isSome_none, Bool.false_eq_true, if_false]
        split_ifs with active missed missed
        · exact update_repairs rfl rfl minCovers
        · rw [Bool.not_eq_true] at missed
          change Repairs (analyzer comparer before after).imageBefore
            (analyzer comparer before after).imageAfter
            (TilePixel (analyzer comparer before after).imageBefore rect) [_]
          exact move_repairs sameSize rfl rfl missed moveSound
        · exact update_repairs rfl rfl minCovers
        · exact absurd rfl missed

end Viridity.FrameComparison
