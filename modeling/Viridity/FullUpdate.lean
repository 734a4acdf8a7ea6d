import Viridity.OperationParts
import Viridity.WorkBuffer

/-!
# Full updates and the client's canvases

The client draws every operation on its back canvas; a move reads the front
canvas and clears its target first. A full update fills both server buffers, and
the copy in `swapWorkBuffer` leaves a frame of zeros as the one to compare with.
-/

namespace Viridity.FullUpdate

open Viridity.QtRectangle
open Viridity.ImageAux
open Viridity.PaintedCanvas
open Viridity.TileOperations
open Viridity.MoveAnalysis
open Viridity.ImageComparerOpTools
open Viridity.FrameComparison
open Viridity.FrameDifference
open Viridity.BufferRenderer
open Viridity.OperationParts
open Viridity.WorkBuffer
open Viridity.LabelledRuns
open GraphicsSceneBufferRenderer
open UpdateOperationType

set_option autoImplicit false

/-- What one operation of a frame draws on the back canvas: `dI` and `fR` carry the
source rectangle only, `mI` copies from the front canvas. Patches are lossless. -/
def drawnPatch (frame frontCanvas : QImage) (op : UpdateOperation) : Patch QPoint QRgb where
  covers point :=
    match op.type with
    | uotUpdate => op.srcRect.contains point
    | uotMove => op.dstRect.contains point
    | uotFill => op.srcRect.contains point
    | uotNoOp => false
  colour point :=
    match op.type with
    | uotUpdate => frame.pixel point
    | uotMove =>
        if point.add op.moveVector ∈ frontCanvas.rect then
          frontCanvas.pixel (point.add op.moveVector)
        else 0
    | uotFill => op.fillColor.getD 0xFF000000
    | uotNoOp => 0

def drawOperations (frame frontCanvas backCanvas : QImage) (ops : List UpdateOperation) : QImage :=
  { backCanvas with pixel := paintAll backCanvas.pixel (ops.map (drawnPatch frame frontCanvas)) }

/-- Updates are drawn where they were read. -/
def InPlace (ops : List UpdateOperation) : Prop :=
  ∀ op ∈ ops, op.type = uotUpdate → op.dstPoint = op.srcRect.topLeft

theorem in_place_append {first second : List UpdateOperation} (left : InPlace first)
    (right : InPlace second) : InPlace (first ++ second) := by
  intro op member kind
  rcases List.mem_append.mp member with early | late
  · exact left op early kind
  · exact right op late kind

theorem in_place_of_type {type : UpdateOperationType} {ops : List UpdateOperation}
    (uniform : ∀ op ∈ ops, op.type = type) (other : type ≠ uotUpdate) : InPlace ops := by
  intro op member kind
  exact absurd ((uniform op member).symm.trans kind) other

theorem in_place_of_subset {first second : List UpdateOperation} (inPlace : InPlace second)
    (included : ∀ op ∈ first, op ∈ second) : InPlace first := by
  intro op member kind
  exact inPlace op (included op member) kind

theorem in_place_choose_shorter {newOps ops : List UpdateOperation} (left : InPlace newOps)
    (right : InPlace ops) : InPlace (chooseShorter newOps ops) := by
  unfold chooseShorter
  split_ifs
  · exact left
  · exact right

/-- Updates in place have the vector zero, so the optimiser leaves them in place. -/
theorem in_place_optimize (regionRects : RegionRects) {ops : List UpdateOperation}
    (inPlace : InPlace ops) : InPlace (optimizeUpdateOperations regionRects ops) := by
  have kept : ∀ type, InPlace (ofType type ops) := fun type =>
    in_place_of_subset inPlace (fun op member => (mem_of_type.mp member).1)
  have updates : InPlace (optimizeVectorizedOperations regionRects uotUpdate
      (hashOperations UpdateOperation.moveVector (ofType uotUpdate ops))) := by
    intro op member _
    obtain ⟨entry, entryMember, opMember⟩ := List.mem_flatMap.mp member
    obtain ⟨rect, rectMember, rfl⟩ := List.mem_map.mp opMember
    obtain ⟨point, hit⟩ : ∃ point, point ∈ rect :=
      ⟨_, QRect.top_left_mem ((vertically_unite_exact _ (regionRects.filled _)).1 rect rectMember)⟩
    obtain ⟨source, sourceMember, _⟩ :=
      (mem_united_rects regionRects entry.2 point).mp ⟨rect, rectMember, hit⟩
    have original := (mem_hash_operations UpdateOperation.moveVector (ofType uotUpdate ops) entry.1
      source).mp ⟨entry, entryMember, rfl, sourceMember⟩
    have still := inPlace source (mem_of_type.mp original.1).1 (mem_of_type.mp original.1).2
    have zero : entry.1 = ⟨0, 0⟩ := by
      rw [← original.2, UpdateOperation.moveVector, still]
      simp [QPoint.sub]
    simp [zero, QPoint.sub]
  have fills : InPlace (optimizeFillOperations regionRects
      (hashOperations UpdateOperation.fillColor (ofType uotFill ops))) := by
    apply @in_place_of_type uotFill _ _ (by decide)
    intro op member
    obtain ⟨entry, _, opMember⟩ := List.mem_flatMap.mp member
    rcases List.mem_map.mp opMember with ⟨rect, _, rfl⟩
    rfl
  have moves : InPlace (optimizeVectorizedOperations regionRects uotMove
      (hashOperations UpdateOperation.moveVector (ofType uotMove ops))) := by
    apply @in_place_of_type uotMove _ _ (by decide)
    intro op member
    obtain ⟨entry, _, opMember⟩ := List.mem_flatMap.mp member
    rcases List.mem_map.mp opMember with ⟨rect, _, rfl⟩
    rfl
  exact in_place_append
    (in_place_append
      (in_place_append (in_place_choose_shorter updates (kept uotUpdate))
        (in_place_choose_shorter fills (kept uotFill)))
      (in_place_choose_shorter moves (kept uotMove)))
    (kept uotNoOp)

variable {Adapter : Type} {renderer : GraphicsSceneBufferRenderer Adapter}

/-- One update for each marked rectangle, as sent with `minimizeDamageRegion_` off. -/
def rectOperations (rects : List QRect) : List UpdateOperation :=
  rects.map fun rect => ⟨uotUpdate, rect, rect.topLeft, none⟩

theorem in_place_rect_operations (rects : List QRect) : InPlace (rectOperations rects) := by
  intro op member _
  rcases List.mem_map.mp member with ⟨rect, _, rfl⟩
  rfl

theorem rect_operations_repair {before after : QImage} (sameSize : QImage.SameSize before after)
    (regionRects : RegionRects) {settings : ComparerSettings} (wide : 1 ≤ settings.tileWidth) :
    Repairs before after (fun _ => True)
      (rectOperations (findDifferences regionRects settings before after)) where
  sound := by
    intro point _ stroke drawn
    rcases drawn with ⟨op, member, hit⟩
    rcases List.mem_map.mp member with ⟨rect, _, rfl⟩
    rw [update_stroke rfl rfl] at hit
    rcases hit with ⟨_, rfl⟩
    constructor
    · intro _
      rfl
    · intro source impossible
      exact absurd impossible (by simp)
  complete := by
    intro point inside _ differs
    obtain ⟨rect, member, hit⟩ := find_differences_covers sameSize regionRects wide inside differs
    refine ⟨.fromAfter point, ⟨_, List.mem_map_of_mem member, ?_⟩, rfl⟩
    rw [update_stroke rfl rfl]
    exact ⟨hit, rfl⟩

theorem paint_updates_rects (platform : Platform) (scenes : Adapter → Scene) {adapter : Adapter}
    (attached : renderer.adapter = some adapter) :
    (renderer.paintUpdatesToBuffer platform scenes).2 =
      findDifferences platform.regionRects
        (renderer.paintUpdatesToBuffer platform scenes).1.comparer.settings
        (renderer.paintUpdatesToBuffer platform scenes).1.otherBuffer
        (renderer.paintUpdatesToBuffer platform scenes).1.workBuffer := by
  have kept : ∀ image : QImage,
      ((renderer.swapWorkBuffer platform).setWorkBuffer image).adapter = some adapter := by
    intro image
    rw [set_work_rest, swap_work_buffer_rest]
    exact attached
  unfold paintUpdatesToBuffer
  simp only [kept, Option.isSome_some, Bool.true_or, if_true]
  rfl

theorem paint_updates_settings (platform : Platform) (scenes : Adapter → Scene) :
    (renderer.paintUpdatesToBuffer platform scenes).1.comparer.settings =
        renderer.comparer.settings ∧
      (renderer.paintUpdatesToBuffer platform scenes).1.minimizeDamageRegion =
        renderer.minimizeDamageRegion := by
  have kept : ∀ image : QImage,
      ((renderer.swapWorkBuffer platform).setWorkBuffer image).comparer.settings =
          renderer.comparer.settings ∧
        ((renderer.swapWorkBuffer platform).setWorkBuffer image).minimizeDamageRegion =
          renderer.minimizeDamageRegion := by
    intro image
    rw [set_work_rest, swap_work_buffer_rest]
    exact ⟨ImageComparer.swap_settings _ _ _, rfl⟩
  exact kept _

theorem update_buffer_operations (platform : Platform) (scenes : Adapter → Scene)
    {adapter : Adapter} (attached : renderer.adapter = some adapter) :
    (renderer.updateBufferAndGetUpdateOperations platform scenes).2 =
      if renderer.minimizeDamageRegion then
        frameOperations platform.regionRects platform.mappedReduced
          (renderer.paintUpdatesToBuffer platform scenes).1.comparer
          (renderer.paintUpdatesToBuffer platform scenes).1.otherBuffer
          (renderer.paintUpdatesToBuffer platform scenes).1.workBuffer
      else rectOperations (renderer.paintUpdatesToBuffer platform scenes).2 := by
  have rects := paint_updates_rects platform scenes attached
  rw [← (paint_updates_settings platform scenes).2]
  unfold updateBufferAndGetUpdateOperations
  simp only
  split_ifs
  · unfold frameOperations
    rw [rects]
  · rfl

/-- The frame a renderer sends repairs the image it had before and has its updates
in place. -/
theorem update_buffer_repairs (platform : Platform) (scenes : Adapter → Scene)
    (formed : WellFormed renderer) {adapter : Adapter} (attached : renderer.adapter = some adapter)
    (tileable : renderer.comparer.settings.Tileable) :
    Repairs renderer.workBuffer (renderer.paintUpdatesToBuffer platform scenes).1.workBuffer
        (fun _ => True) (renderer.updateBufferAndGetUpdateOperations platform scenes).2 ∧
      InPlace (renderer.updateBufferAndGetUpdateOperations platform scenes).2 := by
  have paints := paint_updates_paints platform scenes formed
  have settings := (@paint_updates_settings Adapter renderer platform scenes).1
  have sameSize : QImage.SameSize renderer.workBuffer
      (renderer.paintUpdatesToBuffer platform scenes).1.workBuffer :=
    ⟨paints.sameSize.1.symm, paints.sameSize.2.symm⟩
  rw [update_buffer_operations platform scenes attached]
  split_ifs
  · rw [paints.other]
    constructor
    · exact frame_operations_repair platform.regionRects platform.mappedReduced sameSize
        (settings ▸ tileable)
    · exact in_place_optimize platform.regionRects
        (update_operations_hold drawn_in_place_parts platform.regionRects platform.mappedReduced
          (settings ▸ tileable) _ _ _)
  · rw [paint_updates_rects platform scenes attached, paints.other]
    constructor
    · exact rect_operations_repair sameSize platform.regionRects (settings ▸ tileable.1)
    · exact in_place_rect_operations _

/-- A full update leaves a work buffer of zeros and changes nothing but buffers,
damage and the flag. -/
theorem full_update_spec (renderer : GraphicsSceneBufferRenderer Adapter) :
    renderer.fullUpdate.1.workBuffer = renderer.workBuffer.fill 0 ∧
      renderer.fullUpdate.1.adapter = renderer.adapter ∧
      renderer.fullUpdate.1.comparer = renderer.comparer ∧
      renderer.fullUpdate.1.minimizeDamageRegion = renderer.minimizeDamageRegion := by
  let cleared := renderer.setOtherBuffer (renderer.otherBuffer.fill 0xFFFFFFFF)
  let filled := cleared.setWorkBuffer (cleared.workBuffer.fill 0)
  have work : filled.workBuffer = renderer.workBuffer.fill 0 := by
    simp only [filled, cleared, work_set_work, work_set_other]
  have rest : filled = { renderer with buffer1 := filled.buffer1, buffer2 := filled.buffer2 } := by
    simp only [filled, cleared]
    rw [set_work_rest, set_other_rest]
  refine ⟨work, ?_, ?_, ?_⟩
  · exact congrArg (fun after => after.adapter) rest
  · exact congrArg (fun after => after.comparer) rest
  · exact congrArg (fun after => after.minimizeDamageRegion) rest

/-- The renderer when the frame after a full update has been painted. -/
def repaint (platform : Platform) (stage : Stage Adapter) : GraphicsSceneBufferRenderer Adapter :=
  (stage.renderer.fullUpdate.1.paintUpdatesToBuffer platform stage.scenes).1

def repaintOperations (platform : Platform) (stage : Stage Adapter) : List UpdateOperation :=
  (stage.renderer.fullUpdate.1.updateBufferAndGetUpdateOperations platform stage.scenes).2

/-- The adapter shows `frame`, and the buffers have its size. -/
structure Shows (stage : Stage Adapter) (adapter : Adapter) (frame : QImage) : Prop where
  attached : stage.renderer.adapter = some adapter
  sameSize : QImage.SameSize frame stage.renderer.workBuffer
  pixels : ∀ point ∈ frame.rect, (stage.scenes adapter).pixel point = frame.pixel point

theorem repaint_pixels {platform : Platform} {stage : Stage Adapter} {adapter : Adapter}
    {frame : QImage} (formed : WellFormed stage.renderer) (shows : Shows stage adapter frame) :
    QImage.SamePixels (repaint platform stage).workBuffer frame := by
  have whole := well_formed_full_update formed
  have spec := full_update_spec stage.renderer
  have paints := paint_updates_paints platform stage.scenes whole.1
  have sizes : QImage.SameSize (repaint platform stage).workBuffer frame := by
    have same := paints.sameSize
    rw [spec.1] at same
    exact ⟨same.1.trans shows.sameSize.1.symm, same.2.trans shows.sameSize.2.symm⟩
  refine ⟨sizes, ?_⟩
  intro point inside
  rw [← shows.pixels point (QImage.same_size_rect sizes ▸ inside)]
  apply paints.drawn adapter (spec.2.1.trans shows.attached)
  apply whole.2
  rw [← QImage.same_size_rect paints.sameSize]
  exact inside

/-- A full update brings every client to `frame`, whatever its canvases hold and in
whatever order the operations are drawn. -/
def Resynchronises [DecidableEq Adapter] (adapter : Adapter) (frame : QImage) : Prop :=
  ∀ (platform : Platform) (stage : Stage Adapter),
    Reach (StageStep platform) always (Fresh platform) stage →
    Shows stage adapter frame → stage.renderer.comparer.settings.Tileable →
    ∀ frontCanvas backCanvas : QImage, QImage.SameSize frontCanvas frame →
      QImage.SameSize backCanvas frame →
      ∀ drawn : List UpdateOperation, drawn.Perm (repaintOperations platform stage) →
        QImage.SamePixels
          (drawOperations (repaint platform stage).workBuffer frontCanvas backCanvas drawn) frame

/-- Against a frame of zeros a frame without zeros has no moves and differs everywhere. -/
theorem resynchronises_of_nonzero [DecidableEq Adapter] (adapter : Adapter) {frame : QImage}
    (nonzero : ∀ point ∈ frame.rect, frame.pixel point ≠ 0) : Resynchronises adapter frame := by
  intro platform stage reached shows tileable frontCanvas backCanvas _ backSize drawn anyOrder
  have formed := reach_well_formed reached
  have spec := full_update_spec stage.renderer
  have whole := well_formed_full_update formed
  have painted := @repaint_pixels Adapter platform stage adapter frame formed shows
  have repairs := update_buffer_repairs platform stage.scenes whole.1
    (spec.2.1.trans shows.attached) (spec.2.2.1 ▸ tileable)
  have unshared : ¬QImage.SharePixel stage.renderer.fullUpdate.1.workBuffer
      (repaint platform stage).workBuffer := by
    rintro ⟨source, _, target, targetInside, same⟩
    have inFrame := QImage.same_size_rect painted.1 ▸ targetInside
    apply nonzero target inFrame
    rw [← painted.2 target targetInside, ← same, spec.1]
    rfl
  refine ⟨backSize, ?_⟩
  intro point inside
  have inFrame : point ∈ frame.rect := QImage.same_size_rect backSize ▸ inside
  have inRepaint : point ∈ (repaint platform stage).workBuffer.rect :=
    (QImage.same_size_rect painted.1).symm ▸ inFrame
  have inBefore : point ∈ stage.renderer.fullUpdate.1.workBuffer.rect := by
    rw [spec.1]
    exact QImage.same_size_rect shows.sameSize ▸ inFrame
  have differs : stage.renderer.fullUpdate.1.workBuffer.pixel point ≠
      (repaint platform stage).workBuffer.pixel point := by
    rw [painted.2 point inRepaint, spec.1]
    exact (nonzero point inFrame).symm
  apply paint_all_target
  · intro patch member covered
    rcases List.mem_map.mp member with ⟨op, opMember, rfl⟩
    have sound := fun stroke (hit : op.strokeAt point = some stroke) =>
      repairs.1.sound point inBefore stroke ⟨op, anyOrder.mem_iff.mp opMember, hit⟩
    cases kind : op.type with
    | uotUpdate =>
        simp only [drawnPatch, kind]
        exact painted.2 point inRepaint
    | uotMove =>
        simp only [drawnPatch, kind] at covered
        have moved : op.strokeAt point = some (.fromBefore (point.add op.moveVector)) := by
          simp only [UpdateOperation.strokeAt, kind]
          rw [if_pos (QRect.contains_iff.mp covered)]
        exact absurd ((sound _ moved).shared _ rfl) unshared
    | uotFill =>
        simp only [drawnPatch, kind] at covered ⊢
        have filled : op.strokeAt point = some (.solid op.fillColor) :=
          (fill_stroke kind point _).mpr ⟨QRect.contains_iff.mp covered, rfl⟩
        rw [← painted.2 point inRepaint]
        exact (sound _ filled).colour rfl
    | uotNoOp => exact absurd covered (by simp [drawnPatch, kind])
  · right
    obtain ⟨stroke, ⟨op, member, hit⟩, _⟩ := repairs.1.complete point inBefore trivial differs
    refine ⟨_, List.mem_map_of_mem (anyOrder.mem_iff.mpr member), ?_⟩
    cases kind : op.type with
    | uotUpdate =>
        rw [update_stroke kind (repairs.2 op member kind)] at hit
        simp only [drawnPatch, kind]
        exact QRect.contains_iff.mpr hit.1
    | uotMove =>
        simp only [UpdateOperation.strokeAt, kind] at hit
        split_ifs at hit with target
        simp only [drawnPatch, kind]
        exact QRect.contains_iff.mpr target
    | uotFill =>
        rw [fill_stroke kind] at hit
        simp only [drawnPatch, kind]
        exact QRect.contains_iff.mpr hit.1
    | uotNoOp => exact absurd hit (by simp [UpdateOperation.strokeAt, kind])

def pixelSettings : ComparerSettings :=
  { ComparerSettings.default with tileWidth := 1 }

theorem unit_tile_matches {before after : QImage} (sameSize : QImage.SameSize before after)
    {point : QPoint} (inside : point ∈ before.rect)
    (same : before.pixel point = after.pixel point) :
    contentMatches before after point (QRect.ofSize point.x point.y 1 1) = true := by
  have single : point ∈ QRect.ofSize point.x point.y 1 1 := by
    rw [QRect.mem_of_size]
    omega
  have met := (QRect.mem_intersected (QRect.not_empty_of_mem single)
    (QRect.not_empty_of_mem inside) point).mpr ⟨single, inside⟩
  have pixel : ((QRect.ofSize point.x point.y 1 1).intersected before.rect).IsPixel point := by
    apply QRect.is_pixel_of_single (QRect.not_empty_of_mem met)
    intro other member
    have both := (QRect.mem_intersected (QRect.not_empty_of_mem single)
      (QRect.not_empty_of_mem inside) other).mp member
    rw [QRect.mem_of_size] at both
    apply QPoint.ext_coordinates
    · omega
    · omega
  have extent : (QRect.ofSize point.x point.y 1 1).width = 1 ∧
      (QRect.ofSize point.x point.y 1 1).height = 1 := by
    simp [QRect.width, QRect.height, QRect.ofSize]
  simp only [contentMatches, extent, ← QImage.same_size_rect sameSize]
  rw [if_neg (by simp)]
  apply content_matches_at_complete (by rw [pixel.2.1]; omega)
  intro x y left right top bottom
  rw [pixel.2.1] at right
  rw [pixel.2.2] at bottom
  have origin : x = 0 ∧ y = 0 := by omega
  rw [origin.1, origin.2, pixel.1]
  simpa using same

theorem find_differences_unit {before after : QImage} (sameSize : QImage.SameSize before after)
    (regionRects : RegionRects) {point : QPoint}
    (marked : ∃ rect ∈ findDifferences regionRects pixelSettings before after, point ∈ rect) :
    before.pixel point ≠ after.pixel point := by
  rw [findDifferences, TiledRegion.mem_rects] at marked
  have folded : ∀ (tiles : List QRect) (region : TiledRegion),
      region.tileWidth = 1 → region.tileHeight = 1 →
      (tiles.foldl (fun region rect =>
        if contentMatches before after rect.topLeft rect then region else region.add rect)
        region).Covers point →
      region.Covers point ∨ ∃ tile ∈ tiles, point ∈ tile ∧
        contentMatches before after tile.topLeft tile = false := by
    intro tiles
    induction tiles with
    | nil =>
        intro region _ _ covered
        exact Or.inl covered
    | cons head tiles induction =>
        intro region sameWidth sameHeight covered
        rw [List.foldl_cons] at covered
        cases matching : contentMatches before after head.topLeft head with
        | true =>
            rw [matching, if_pos rfl] at covered
            rcases induction region sameWidth sameHeight covered with early | ⟨tile, member, hit⟩
            · exact Or.inl early
            · exact Or.inr ⟨tile, List.mem_cons_of_mem head member, hit⟩
        | false =>
            rw [matching, if_neg (by simp)] at covered
            rcases induction (region.add head) sameWidth sameHeight covered with
              early | ⟨tile, member, hit⟩
            · rcases (TiledRegion.covers_add region head point).mp early with old | new
              · exact Or.inl old
              · have exact : region.alignedRect head = head := by
                  cases head
                  simp [TiledRegion.alignedRect, sameWidth, sameHeight]
                rw [exact] at new
                exact Or.inr ⟨head, List.mem_cons_self, new, matching⟩
            · exact Or.inr ⟨tile, List.mem_cons_of_mem head member, hit⟩
  rcases folded _ _ rfl rfl marked with none | ⟨tile, member, hit, differing⟩
  · exact absurd none (TiledRegion.not_covers_clear (TiledRegion.create 1 1) point)
  · obtain ⟨y, yMember, row⟩ := List.mem_flatMap.mp member
    obtain ⟨x, xMember, rfl⟩ := List.mem_map.mp row
    rw [QRect.mem_of_size] at hit
    simp only [pixelSettings, Int.mul_one, List.mem_range, tileCount, Int.tdiv_one, Int.tmod_one]
      at hit xMember yMember differing
    have position : point = ⟨x, y⟩ := by
      apply QPoint.ext_coordinates
      · simp only
        omega
      · simp only
        omega
    intro same
    have matching := @unit_tile_matches before after sameSize point
      (by rw [QImage.mem_rect, position]; simp at xMember yMember ⊢; omega) same
    rw [position] at matching
    exact absurd (matching.symm.trans differing) (by simp)

/-- A renderer that compares pixel by pixel and sends the marked rectangles as they
are, attached to the scene `frame`. -/
def attachedStage [DecidableEq Adapter] (platform : Platform) (adapter : Adapter) (frame : QImage) :
    Stage Adapter :=
  act platform
    (act platform
      (act platform ⟨create platform, fun _ => ⟨frame.width, frame.height, frame.pixel⟩⟩
        (.setSettings pixelSettings))
      (.setMinimizeDamageRegion false))
    (.setTarget (some adapter))

theorem attached_stage_reached [DecidableEq Adapter] (platform : Platform) (adapter : Adapter)
    (frame : QImage) :
    Reach (StageStep platform) always (Fresh platform) (attachedStage platform adapter frame) := by
  have fresh : Reach (StageStep platform) always (Fresh platform)
      (⟨create platform, fun _ => ⟨frame.width, frame.height, frame.pixel⟩⟩ : Stage Adapter) :=
    Reach.start rfl
  exact reach_act
    (reach_act (reach_act fresh (.setSettings pixelSettings) trivial trivial)
      (.setMinimizeDamageRegion false) trivial trivial)
    (.setTarget (some adapter)) trivial trivial

theorem attached_stage_spec [DecidableEq Adapter] (platform : Platform) (adapter : Adapter)
    {frame : QImage} (filled : 0 < frame.width ∧ 0 < frame.height) :
    Shows (attachedStage platform adapter frame) adapter frame ∧
      (attachedStage platform adapter frame).renderer.comparer.settings = pixelSettings ∧
      (attachedStage platform adapter frame).renderer.minimizeDamageRegion = false := by
  have resizes : ¬((frame.width : Int) = 0 ∨ (frame.height : Int) = 0) ∧
      (((nullImage.width : Nat) : Int) ≠ frame.width ∨
        ((nullImage.height : Nat) : Int) ≠ frame.height) := by
    simp only [nullImage]
    omega
  have sized : blankImage frame.width frame.height = ⟨frame.width, frame.height, fun _ => 0⟩ := by
    unfold blankImage
    rw [if_pos (by omega)]
    rfl
  have resized : resizeBuffer nullImage frame.width frame.height =
      ⟨frame.width, frame.height, fun _ => 0⟩ := by
    unfold resizeBuffer
    rw [if_pos (by simp only [nullImage]; omega),
      if_pos (show isNullImage nullImage = true from rfl), sized]
  have attach : (attachedStage platform adapter frame).renderer =
      ((setMinimizeDamageRegion (setSettings platform (create platform) pixelSettings) false :
        GraphicsSceneBufferRenderer Adapter).setTargetGraphicsSceneAdapter platform
        (fun _ => ⟨frame.width, frame.height, frame.pixel⟩) (some adapter)).1 := rfl
  simp only [setTargetGraphicsSceneAdapter, setMinimizeDamageRegion, setSettings, initComparer,
    create, Option.isSome_none, Bool.false_eq_true, if_false, ne_eq, reduceCtorEq, not_false_eq_true,
    if_true, setSize, if_neg resizes.1, if_pos resizes.2, resized] at attach
  refine ⟨⟨?_, ?_, fun point _ => rfl⟩, ?_, ?_⟩
  · rw [attach]
    rfl
  · rw [attach]
    exact ⟨rfl, rfl⟩
  · rw [attach]
    rfl
  · rw [attach]
    rfl

/-- A pixel of the frame that is 0 is not marked, so the client keeps what it had. -/
theorem not_resynchronises_of_zero [DecidableEq Adapter] (adapter : Adapter) {frame : QImage}
    {point : QPoint} (inside : point ∈ frame.rect) (zero : frame.pixel point = 0) :
    ¬Resynchronises adapter frame := by
  intro holds
  have bounds := QImage.mem_rect.mp inside
  have filled : 0 < frame.width ∧ 0 < frame.height := by omega
  obtain ⟨shows, settings, minimize⟩ := attached_stage_spec Platform.reference adapter filled
  have reached := attached_stage_reached Platform.reference adapter frame
  have formed := reach_well_formed reached
  have spec := full_update_spec (attachedStage Platform.reference adapter frame).renderer
  have whole := well_formed_full_update formed
  have painted := @repaint_pixels Adapter Platform.reference _ adapter frame formed shows
  have paints := paint_updates_paints Platform.reference
    (attachedStage Platform.reference adapter frame).scenes whole.1
  have attached := spec.2.1.trans shows.attached
  have synchronised := holds Platform.reference (attachedStage Platform.reference adapter frame)
    reached shows (by rw [settings]; exact ⟨by decide, by decide⟩)
    (frame.fill 0xFFFFFFFF) (frame.fill 0xFFFFFFFF) ⟨rfl, rfl⟩ ⟨rfl, rfl⟩ _ (List.Perm.refl _)
  have white := synchronised.2 point inside
  rw [zero] at white
  have untouched : ∀ patch ∈
      (repaintOperations Platform.reference (attachedStage Platform.reference adapter frame)).map
        (drawnPatch (repaint Platform.reference
          (attachedStage Platform.reference adapter frame)).workBuffer (frame.fill 0xFFFFFFFF)),
      patch.covers point = false := by
    intro patch member
    rcases List.mem_map.mp member with ⟨op, opMember, rfl⟩
    rw [repaintOperations, update_buffer_operations _ _ attached, spec.2.2.2, minimize,
      if_neg (by simp), paint_updates_rects _ _ attached,
      (paint_updates_settings _ _).1, spec.2.2.1, settings] at opMember
    rcases List.mem_map.mp opMember with ⟨rect, rectMember, rfl⟩
    simp only [drawnPatch]
    by_contra hit
    rw [Bool.not_eq_false] at hit
    have sizes : QImage.SameSize
        ((attachedStage Platform.reference adapter frame).renderer.fullUpdate.1.paintUpdatesToBuffer
          Platform.reference
          (attachedStage Platform.reference adapter frame).scenes).1.otherBuffer
        ((attachedStage Platform.reference adapter frame).renderer.fullUpdate.1.paintUpdatesToBuffer
          Platform.reference
          (attachedStage Platform.reference adapter frame).scenes).1.workBuffer := by
      rw [paints.other]
      exact ⟨paints.sameSize.1.symm, paints.sameSize.2.symm⟩
    have differs := find_differences_unit sizes _ ⟨rect, rectMember, hit⟩
    apply differs
    rw [paints.other, spec.1]
    have shown := painted.2 point ((QImage.same_size_rect painted.1).symm ▸ inside)
    rw [zero] at shown
    exact shown.symm
  rw [drawOperations] at white
  simp only at white
  rw [paint_all_uncovered _ _ _ untouched] at white
  change (0xFFFFFFFF : QRgb) = 0 at white
  exact absurd white (by decide)

/-- A full update resynchronises the client for exactly the frames without a fully
transparent black pixel, the value the server's buffer is filled with. -/
theorem full_update_resynchronises [DecidableEq Adapter] (adapter : Adapter) (frame : QImage) :
    Resynchronises adapter frame ↔ ∀ point ∈ frame.rect, frame.pixel point ≠ 0 := by
  constructor
  · intro holds point inside zero
    exact not_resynchronises_of_zero adapter inside zero holds
  · exact resynchronises_of_nonzero adapter

/-- A transparent black scene of one pixel, compared with the default settings. -/
def transparentStage : Stage Unit :=
  act Platform.reference ⟨create Platform.reference, fun _ => ⟨1, 1, fun _ => 0⟩⟩
    (.setTarget (some ()))

theorem full_update_leaves_white_pixel :
    ¬∀ frame : QImage, Resynchronises () frame := by
  intro holds
  have reached : Reach (StageStep Platform.reference) always (Fresh Platform.reference)
      transparentStage := by
    have fresh : Reach (StageStep Platform.reference) always (Fresh Platform.reference)
        (⟨create Platform.reference, fun _ => ⟨1, 1, fun _ => 0⟩⟩ : Stage Unit) := Reach.start rfl
    exact reach_act fresh (.setTarget (some ())) trivial trivial
  have shows : Shows transparentStage () ⟨1, 1, fun _ => 0⟩ := ⟨rfl, ⟨rfl, rfl⟩, fun _ _ => rfl⟩
  have synchronised := holds ⟨1, 1, fun _ => 0⟩ Platform.reference transparentStage reached shows
    ⟨by decide, by decide⟩ ⟨1, 1, fun _ => 0xFFFFFFFF⟩ ⟨1, 1, fun _ => 0xFFFFFFFF⟩ ⟨rfl, rfl⟩
    ⟨rfl, rfl⟩ (repaintOperations Platform.reference transparentStage) (List.Perm.refl _)
  have white := synchronised.2 ⟨0, 0⟩ (by decide)
  have nothing : repaintOperations Platform.reference transparentStage = [] := by decide
  rw [nothing] at white
  exact absurd white (by decide)

end Viridity.FullUpdate
