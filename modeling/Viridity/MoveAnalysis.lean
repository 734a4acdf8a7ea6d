import Viridity.FingerPrintSearch
import Viridity.TileOperations

/-!
# Move analysis

The part of a `MoveAnalyzer` that stays fixed while a frame is compared (images,
template width, radius, fingerprints) is kept apart from the part that every
`processRect` reads and writes. Move vectors hold whole pixels, which a
`QVector2D` represents exactly for all image sizes.
-/

namespace Viridity.MoveAnalysis

open Viridity.QtRectangle
open Viridity.ImageAux
open Viridity.FingerPrintSearch
open Viridity.TileOperations

set_option autoImplicit false

structure VectorEstimate where
  vector : QPoint
  extentX : Int
  extentY : Int
deriving DecidableEq, Repr

structure MoveOperation where
  srcRect : QRect
  dstPoint : QPoint
deriving DecidableEq, Repr

structure MoveAnalyzer where
  imageBefore : QImage
  imageAfter : QImage
  templateWidth : Int
  searchRadius : Int
  searchMissesThreshold : Int
  /-- `none` when `VIRIDITY_USE_AREAFINGERPRINTS` is not defined. -/
  searchAreaFingerPrints : Option AreaFingerPrints

structure MoveSearch where
  damagedAreas : List QRect
  movedRectSearchMisses : Int
  movedRectSearchEnabled : Bool
  lastSuccessfulMoveVectors : List VectorEstimate

namespace MoveAnalyzer

/-- The block of `imageBefore` at `source` holds what `imageAfter` shows in
`templateRect`, and reads nothing outside unless the template itself sticks out. A
template that meets the image has at least one of its pixels compared. -/
structure MovedFrom (analyzer : MoveAnalyzer) (source : QPoint) (templateRect : QRect) : Prop where
  equal : ∀ point ∈ templateRect, point ∈ analyzer.imageAfter.rect →
    point.add (source.sub templateRect.topLeft) ∈ analyzer.imageBefore.rect →
    analyzer.imageBefore.pixel (point.add (source.sub templateRect.topLeft)) =
      analyzer.imageAfter.pixel point
  readable : (∀ point ∈ templateRect, point ∈ analyzer.imageAfter.rect) →
    ∀ point ∈ templateRect,
      point.add (source.sub templateRect.topLeft) ∈ analyzer.imageBefore.rect
  compared : (∃ point ∈ templateRect, point ∈ analyzer.imageAfter.rect) →
    QImage.SharePixel analyzer.imageBefore analyzer.imageAfter

/-- The tiles a comparer searches for: inside the image, or part of the rectangle
`findChangedRect32` returns for an area outside it. -/
def Searchable (analyzer : MoveAnalyzer) (templateRect : QRect) : Prop :=
  (∀ point ∈ templateRect, point ∈ analyzer.imageAfter.rect) ∨
    ∀ point ∈ templateRect, point ∈ strayRect

def exhaustiveRoi (analyzer : MoveAnalyzer) (searchArea : QRect) : QRect :=
  (searchArea.intersected analyzer.imageBefore.rect).intersected analyzer.imageAfter.rect

/-- The test at one position: the first pixels one by one, then the whole block. -/
def templateMatches (analyzer : MoveAnalyzer) (templateRect : QRect) (comparedFirst : Nat)
    (position : QPoint) : Bool :=
  ((List.range comparedFirst).all fun (column : Nat) =>
    analyzer.imageBefore.pixel ⟨position.x + column, position.y⟩ ==
      analyzer.imageAfter.pixel ⟨templateRect.x1 + column, templateRect.y1⟩) &&
  contentMatchesAt analyzer.imageBefore position analyzer.imageAfter templateRect.topLeft
    templateRect.width templateRect.height

def comparedFirst (templateRect : QRect) : Nat := if templateRect.width ≥ 4 then 4 else 1

/-- `findMovedRectExhaustive`. Its two loops differ in how many pixels they compare
before the block: four when the template has at least four columns, else one. -/
def findMovedRectExhaustive (analyzer : MoveAnalyzer) (searchArea templateRect : QRect) : QRect :=
  let roi := analyzer.exhaustiveRoi searchArea
  if roi.isEmpty then QRect.null
  else
    let templateWidth := templateRect.width
    let templateHeight := templateRect.height
    let roiBottom := roi.height - templateHeight + 1
    let roiRight := roi.width - templateWidth + 1
    if roiBottom < 1 ∨ roiRight < 1 then QRect.null
    else
      match (QRect.rowMajor (QRect.ofSize roi.x1 roi.y1 roiRight roiBottom)).find?
          (analyzer.templateMatches templateRect (comparedFirst templateRect)) with
      | some position => QRect.ofSize position.x position.y templateWidth templateHeight
      | none => QRect.null

/-- `findMovedRectAreaFingerPrint` with its position matcher. -/
def findMovedRectAreaFingerPrint (analyzer : MoveAnalyzer) (prints : AreaFingerPrints)
    (searchArea templateRect : QRect) : QRect :=
  let templateFingerPrint := initFromImage analyzer.imageAfter templateRect
  match prints.findPosition templateFingerPrint searchArea fun position =>
      contentMatches analyzer.imageBefore analyzer.imageAfter position templateRect with
  | some result => QRect.ofSize result.x result.y templateRect.width templateRect.height
  | none => QRect.null

def findMovedRect (analyzer : MoveAnalyzer) (searchArea templateRect : QRect) : QRect :=
  match analyzer.searchAreaFingerPrints with
  | some prints =>
      if templateRect.width.tmod prints.templateWidth = 0 then
        analyzer.findMovedRectAreaFingerPrint prints searchArea templateRect
      else analyzer.findMovedRectExhaustive searchArea templateRect
  | none => analyzer.findMovedRectExhaustive searchArea templateRect

def startNewSearch (search : MoveSearch) : MoveSearch :=
  { search with movedRectSearchMisses := 0, movedRectSearchEnabled := true }

def searchLastVectors (analyzer : MoveAnalyzer) (rect : QRect) : List VectorEstimate → QRect
  | [] => QRect.null
  | moveVector :: rest =>
      let translated := rect.translate ⟨-moveVector.vector.x, -moveVector.vector.y⟩
      let movedRectSearchArea :=
        if moveVector.extentX > 0 ∨ moveVector.extentY > 0 then
          translated.adjusted (-moveVector.extentX) (-moveVector.extentY)
            moveVector.extentX moveVector.extentY
        else translated
      let movedSrcRect := analyzer.findMovedRect movedRectSearchArea rect
      if movedSrcRect.isEmpty then analyzer.searchLastVectors rect rest else movedSrcRect

/-- The loop over the search areas; a miss that reaches the threshold switches the
search off. -/
def searchAreas (analyzer : MoveAnalyzer) (rect : QRect) :
    List QRect → MoveSearch → QRect × MoveSearch
  | [], search => (QRect.null, search)
  | searchArea :: rest, search =>
      let movedSrcRect := analyzer.findMovedRect searchArea rect
      if movedSrcRect.isEmpty then
        let missed := { search with movedRectSearchMisses := search.movedRectSearchMisses + 1 }
        if missed.movedRectSearchMisses = analyzer.searchMissesThreshold then
          (movedSrcRect, { missed with movedRectSearchEnabled := false })
        else analyzer.searchAreas rect rest missed
      else (movedSrcRect, search)

/-- The vector of a successful search moves to the front of the list. -/
def rememberVector (search : MoveSearch) (rect movedSrcRect : QRect) : MoveSearch :=
  let currentMoveVector : VectorEstimate := ⟨rect.topLeft.sub movedSrcRect.topLeft, 0, 0⟩
  { search with
    lastSuccessfulMoveVectors :=
      currentMoveVector :: search.lastSuccessfulMoveVectors.erase currentMoveVector }

def processRect (analyzer : MoveAnalyzer) (rect : QRect) (additionalSearchAreas : List QRect)
    (search : MoveSearch) : QRect × MoveSearch :=
  let damaged := { search with damagedAreas := search.damagedAreas ++ [rect] }
  if damaged.movedRectSearchEnabled then
    let byVector := analyzer.searchLastVectors rect damaged.lastSuccessfulMoveVectors
    let outcome :=
      if byVector.isNull then
        analyzer.searchAreas rect
          (additionalSearchAreas ++ [rect.adjusted (-analyzer.searchRadius) (-analyzer.searchRadius)
            analyzer.searchRadius analyzer.searchRadius]) damaged
      else (byVector, damaged)
    if outcome.1.isEmpty then outcome
    else (outcome.1, rememberVector outcome.2 rect outcome.1)
  else (QRect.null, damaged)

/-- The loop of `findMoveOperations` over the tiles: moves found, tiles left over
and the state after it. -/
def moveTiles (analyzer : MoveAnalyzer) (additionalSearchAreas : List QRect) :
    List QRect → MoveSearch → List MoveOperation × List QRect × MoveSearch
  | [], search => ([], [], search)
  | rect :: rest, search =>
      let (movedSrcRect, after) := analyzer.processRect rect additionalSearchAreas search
      let (moves, leftovers, final) := analyzer.moveTiles additionalSearchAreas rest after
      if movedSrcRect.isEmpty then (moves, rect :: leftovers, final)
      else (⟨movedSrcRect, rect.topLeft⟩ :: moves, leftovers, final)

def findMoveOperations (analyzer : MoveAnalyzer) (searchArea : QRect)
    (additionalSearchAreas : List QRect) (search : MoveSearch) :
    List MoveOperation × List QRect × MoveSearch :=
  analyzer.moveTiles additionalSearchAreas
    (splitRectIntoTiles searchArea analyzer.templateWidth analyzer.templateWidth)
    (startNewSearch search)

/-- What every search returns: nothing, or a block of the template's size whose
content is the template's. -/
def FoundMove (analyzer : MoveAnalyzer) (templateRect movedSrcRect : QRect) : Prop :=
  movedSrcRect.isEmpty = true ∨
    (movedSrcRect = QRect.ofSize movedSrcRect.x1 movedSrcRect.y1 templateRect.width
      templateRect.height ∧ analyzer.MovedFrom movedSrcRect.topLeft templateRect)

section Soundness

variable {analyzer : MoveAnalyzer} {templateRect : QRect}
variable (sameSize : QImage.SameSize analyzer.imageBefore analyzer.imageAfter)

include sameSize

theorem found_move_exhaustive (searchArea : QRect) :
    analyzer.FoundMove templateRect
      (analyzer.findMovedRectExhaustive searchArea templateRect) := by
  have sameRect := QImage.same_size_rect sameSize
  simp only [findMovedRectExhaustive]
  split_ifs with empty small
  · exact Or.inl rfl
  · exact Or.inl rfl
  · split
    · rename_i position found
      right
      have accepted := List.find?_some found
      have searched := List.mem_of_find?_eq_some found
      simp only [templateMatches, Bool.and_eq_true] at accepted
      rw [QRect.mem_row_major, QRect.mem_of_size] at searched
      simp only [QRect.width, QRect.height] at searched
      have source : ∀ point : QPoint,
          point.add ((QRect.ofSize position.x position.y templateRect.width
            templateRect.height).topLeft.sub templateRect.topLeft) =
          ⟨position.x + (point.x - templateRect.x1), position.y + (point.y - templateRect.y1)⟩ := by
        intro point
        apply QPoint.ext_coordinates
        · simp only [QPoint.add, QPoint.sub, QRect.topLeft, QRect.ofSize]
          omega
        · simp only [QPoint.add, QPoint.sub, QRect.topLeft, QRect.ofSize]
          omega
      have equal : ∀ point ∈ templateRect, analyzer.imageBefore.pixel
            ⟨position.x + (point.x - templateRect.x1), position.y + (point.y - templateRect.y1)⟩ =
          analyzer.imageAfter.pixel point := by
        intro point member
        rw [QRect.mem_iff] at member
        have pixels := content_matches_at_sound accepted.2 (point.x - templateRect.x1)
          (point.y - templateRect.y1) (by omega) (by simp only [QRect.width]; omega) (by omega)
          (by simp only [QRect.height]; omega)
        have target : (⟨templateRect.topLeft.x + (point.x - templateRect.x1),
            templateRect.topLeft.y + (point.y - templateRect.y1)⟩ : QPoint) = point := by
          apply QPoint.ext_coordinates
          · simp only [QRect.topLeft]
            omega
          · simp only [QRect.topLeft]
            omega
        rwa [target] at pixels
      have readable : analyzer.imageAfter.rect.isEmpty = false → ∀ point ∈ templateRect,
          (⟨position.x + (point.x - templateRect.x1), position.y + (point.y - templateRect.y1)⟩ :
            QPoint) ∈ analyzer.imageBefore.rect := by
        intro imageFilled point member
        rw [QRect.mem_iff] at member
        rw [sameRect]
        have roiMember : (⟨position.x + (point.x - templateRect.x1),
            position.y + (point.y - templateRect.y1)⟩ : QPoint) ∈
              analyzer.exhaustiveRoi searchArea := by
          rw [QRect.mem_iff]
          simp only
          omega
        exact QRect.mem_right_of_mem_intersected imageFilled roiMember
      refine ⟨rfl, ?_, ?_, ?_⟩
      · intro point member _ _
        rw [source]
        exact equal point member
      · intro inside point member
        rw [source]
        exact readable (QRect.not_empty_of_mem (inside point member)) point member
      · rintro ⟨point, member, visible⟩
        exact ⟨_, readable (QRect.not_empty_of_mem visible) point member, point, visible,
          equal point member⟩
    · exact Or.inl rfl

variable (filled : templateRect.isEmpty = false) (searchable : analyzer.Searchable templateRect)

include filled searchable

theorem found_move_area_finger_print (prints : AreaFingerPrints) (searchArea : QRect) :
    analyzer.FoundMove templateRect
      (analyzer.findMovedRectAreaFingerPrint prints searchArea templateRect) := by
  simp only [findMovedRectAreaFingerPrint]
  split
  · rename_i result found
    right
    have accepted := AreaFingerPrints.find_position_matches found
    have sound (inside : ∀ point ∈ templateRect, point ∈ analyzer.imageAfter.rect) :=
      content_matches_sound (by
        rw [QImage.same_size_rect sameSize]
        exact QRect.not_empty_of_mem (inside _ (QRect.top_left_mem filled))) filled inside accepted
    refine ⟨rfl, ?_, ?_, ?_⟩
    · intro point member visible source
      rcases searchable with inside | stray
      · exact (sound inside point member).2
      · apply content_matches_single member visible _ source accepted
        intro other otherMember otherVisible
        exact (stray_visible (stray other otherMember) otherVisible).trans
          (stray_visible (stray point member) visible).symm
    · intro inside point member
      exact (sound inside point member).1
    · rintro ⟨point, member, visible⟩
      exact content_matches_shared (by
        rw [QImage.same_size_rect sameSize]
        exact QRect.not_empty_of_mem visible) member visible accepted
  · exact Or.inl rfl

theorem found_move (searchArea : QRect) :
    analyzer.FoundMove templateRect (analyzer.findMovedRect searchArea templateRect) := by
  simp only [findMovedRect]
  split
  · split_ifs
    · exact found_move_area_finger_print sameSize filled searchable _ searchArea
    · exact found_move_exhaustive sameSize searchArea
  · exact found_move_exhaustive sameSize searchArea

theorem found_move_last_vectors (vectors : List VectorEstimate) :
    analyzer.FoundMove templateRect (analyzer.searchLastVectors templateRect vectors) := by
  induction vectors with
  | nil => exact Or.inl rfl
  | cons moveVector rest induction =>
      simp only [searchLastVectors]
      split_ifs
      · exact induction
      · exact found_move sameSize filled searchable _
      · exact induction
      · exact found_move sameSize filled searchable _

theorem found_move_search_areas (areas : List QRect) (search : MoveSearch) :
    analyzer.FoundMove templateRect (analyzer.searchAreas templateRect areas search).1 := by
  induction areas generalizing search with
  | nil => exact Or.inl rfl
  | cons searchArea rest induction =>
      simp only [searchAreas]
      split_ifs
      · exact found_move sameSize filled searchable searchArea
      · exact induction _
      · exact found_move sameSize filled searchable searchArea

/-- A search returns a sound move from every state of the analyzer. -/
theorem found_move_process_rect (additionalSearchAreas : List QRect) (search : MoveSearch) :
    analyzer.FoundMove templateRect
      (analyzer.processRect templateRect additionalSearchAreas search).1 := by
  simp only [processRect]
  split_ifs
  · exact found_move_search_areas sameSize filled searchable _ _
  · exact found_move_search_areas sameSize filled searchable _ _
  · exact found_move_last_vectors sameSize filled searchable _
  · exact found_move_last_vectors sameSize filled searchable _
  · exact Or.inl rfl

end Soundness

/-- Every tile becomes a sound move or is left over. -/
theorem move_tiles_spec {analyzer : MoveAnalyzer}
    (sameSize : QImage.SameSize analyzer.imageBefore analyzer.imageAfter)
    (additionalSearchAreas tiles : List QRect) (search : MoveSearch)
    (valid : ∀ tile ∈ tiles, tile.isEmpty = false ∧ analyzer.Searchable tile) :
    (∀ move ∈ (analyzer.moveTiles additionalSearchAreas tiles search).1, ∃ tile ∈ tiles,
      move.srcRect.isEmpty = false ∧ move.dstPoint = tile.topLeft ∧
      analyzer.FoundMove tile move.srcRect) ∧
    (∀ tile ∈ (analyzer.moveTiles additionalSearchAreas tiles search).2.1, tile ∈ tiles) ∧
    ∀ tile ∈ tiles, tile ∈ (analyzer.moveTiles additionalSearchAreas tiles search).2.1 ∨
      ∃ move ∈ (analyzer.moveTiles additionalSearchAreas tiles search).1,
        move.srcRect.isEmpty = false ∧ move.dstPoint = tile.topLeft ∧
        analyzer.FoundMove tile move.srcRect := by
  induction tiles generalizing search with
  | nil => simp [moveTiles]
  | cons rect rest induction =>
      have sound := found_move_process_rect sameSize (valid rect (by simp)).1
        (valid rect (by simp)).2 additionalSearchAreas search
      obtain ⟨moves, leftovers, complete⟩ :=
        induction (analyzer.processRect rect additionalSearchAreas search).2
          (fun tile member => valid tile (by simp [member]))
      simp only [moveTiles]
      split_ifs with missed
      · refine ⟨?_, ?_, ?_⟩
        · intro move member
          obtain ⟨tile, tileMember, facts⟩ := moves move member
          exact ⟨tile, by simp [tileMember], facts⟩
        · intro tile member
          rcases List.mem_cons.mp member with same | later
          · simp [same]
          · simp [leftovers tile later]
        · intro tile member
          rcases List.mem_cons.mp member with same | later
          · simp [same]
          · rcases complete tile later with left | found
            · exact Or.inl (by simp [left])
            · exact Or.inr found
      · have movedRect : (analyzer.processRect rect additionalSearchAreas search).1.isEmpty = false := by
          simpa using missed
        refine ⟨?_, ?_, ?_⟩
        · intro move member
          rcases List.mem_cons.mp member with same | later
          · exact ⟨rect, by simp, by rw [same]; exact ⟨movedRect, rfl, sound⟩⟩
          · obtain ⟨tile, tileMember, facts⟩ := moves move later
            exact ⟨tile, by simp [tileMember], facts⟩
        · intro tile member
          simp [leftovers tile member]
        · intro tile member
          rcases List.mem_cons.mp member with same | later
          · exact Or.inr ⟨_, List.mem_cons_self, by rw [same]; exact ⟨movedRect, rfl, sound⟩⟩
          · rcases complete tile later with left | ⟨move, moveMember, facts⟩
            · exact Or.inl left
            · exact Or.inr ⟨move, by simp [moveMember], facts⟩

end MoveAnalyzer

end Viridity.MoveAnalysis
