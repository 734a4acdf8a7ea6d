import Viridity.DamageRecording
import Viridity.WorkBuffer

/-!
# The damage bookkeeping of the move analyzer

Beside the renderer stands the image its fingerprints were last computed from. At each swap
the recorded areas are computed again from the new image before; they have to contain every
pixel that is not the same in both.
-/

namespace Viridity.DamageBookkeeping

open Viridity.QtRectangle
open Viridity.ImageAux
open Viridity.TileOperations
open Viridity.MoveAnalysis
open Viridity.FrameComparison
open Viridity.FrameDifference
open Viridity.BufferRenderer
open Viridity.LabelledRuns
open Viridity.WorkBuffer
open Viridity.DamageRecording
open GraphicsSceneBufferRenderer

set_option autoImplicit false

variable {Adapter : Type}

/-- A stage and the image content the fingerprints were last computed from. -/
structure Tracked (Adapter : Type) where
  stage : Stage Adapter
  fingerprinted : QImage

/-- The image content behind the fingerprints after a swap. -/
def refreshed (regionRects : RegionRects) (comparer : ImageComparer)
    (imageBefore fingerprinted : QImage) : QImage :=
  if comparer.settings.analyzeMoves then
    { imageBefore with
      pixel := fun point =>
        if (regionRects.rects comparer.search.damagedAreas).any fun rect => rect.contains point then
          imageBefore.pixel point
        else fingerprinted.pixel point }
  else fingerprinted

def attachedBuffers (stage : Stage Adapter) : GraphicsSceneBufferRenderer Adapter :=
  if stage.renderer.adapter.isSome then stage.renderer.sceneDetached else stage.renderer

/-- The slots that build a new move analyzer, which computes all fingerprints from the other
buffer. -/
def Rebuilds (stage : Stage Adapter) : StageAction Adapter → Prop
  | .setSettings _ => True
  | .setSize width height => Resizes stage.renderer width height
  | .setTarget (some adapter) =>
      some adapter ≠ stage.renderer.adapter ∧
        Resizes (attachedBuffers stage) (stage.scenes adapter).width (stage.scenes adapter).height
  | _ => False

/-- What a slot leaves of the image content behind the fingerprints. -/
def kept (platform : Platform) (tracked : Tracked Adapter) : StageAction Adapter → QImage
  | .updateBufferAndGetUpdateOperations =>
      refreshed platform.regionRects tracked.stage.renderer.comparer
        tracked.stage.renderer.workBuffer tracked.fingerprinted
  | _ => tracked.fingerprinted

/-- A slot of the renderer. `paintUpdatesToBuffer` is private and only a part of a frame. -/
def TrackStep [DecidableEq Adapter] (platform : Platform) (tracked : Tracked Adapter)
    (action : StageAction Adapter) (after : Tracked Adapter) : Prop :=
  action ≠ .paintUpdatesToBuffer ∧
    (∀ settings, action = .setSettings settings → settings.Tileable) ∧
    after.stage = act platform tracked.stage action ∧
    (Rebuilds tracked.stage action → after.fingerprinted = after.stage.renderer.otherBuffer) ∧
    (¬Rebuilds tracked.stage action → after.fingerprinted = kept platform tracked action)

def FreshTracked (platform : Platform) (tracked : Tracked Adapter) : Prop :=
  Fresh platform tracked.stage ∧ tracked.fingerprinted = tracked.stage.renderer.otherBuffer

/-- At the swap the next frame begins with, each pixel at which the new image before is not
what the fingerprints were computed from lies in a rectangle given to `updateArea`. -/
def DamageComplete (platform : Platform) (tracked : Tracked Adapter) : Prop :=
  tracked.stage.renderer.comparer.settings.analyzeMoves = true →
    ∀ point ∈ tracked.stage.renderer.workBuffer.rect,
      tracked.stage.renderer.workBuffer.pixel point ≠ tracked.fingerprinted.pixel point →
        ∃ rect ∈ platform.regionRects.rects tracked.stage.renderer.comparer.search.damagedAreas,
          point ∈ rect

def nextFrame (platform : Platform) (stage : Stage Adapter) : QImage :=
  (stage.renderer.paintUpdatesToBuffer platform stage.scenes).1.workBuffer

/-- A frame that changes a pixel is minimised, and no changed tile of it is painted in one
colour unless moves are looked for in small tiles. -/
def FrameRecorded (platform : Platform) (stage : Stage Adapter) : Prop :=
  (∃ point ∈ stage.renderer.workBuffer.rect,
    stage.renderer.workBuffer.pixel point ≠ (nextFrame platform stage).pixel point) →
  stage.renderer.minimizeDamageRegion = true ∧
    (stage.renderer.comparer.settings.fineGrainedMoves = true ∨
      ∀ rect ∈ findDifferences platform.regionRects stage.renderer.comparer.settings
          stage.renderer.workBuffer (nextFrame platform stage),
        Unfilled stage.renderer.comparer stage.renderer.workBuffer (nextFrame platform stage) rect)

/-- Both buffers have the same pixels where a new size keeps them. -/
def SameWithin (renderer : GraphicsSceneBufferRenderer Adapter) (width height : Int) : Prop :=
  ∀ point ∈ renderer.workBuffer.rect, point.x < width → point.y < height →
    renderer.workBuffer.pixel point = renderer.otherBuffer.pixel point

/-- The slots after which the recorded damage is complete again: a full update when all pixels
that are not 0 are recorded, a new move analyzer when both buffers are the same, and a frame
that records what it changes. -/
def KeepsComplete (platform : Platform) (tracked : Tracked Adapter) : StageAction Adapter → Prop
  | .fullUpdate =>
      tracked.stage.renderer.comparer.settings.analyzeMoves = true →
        ∀ point ∈ tracked.stage.renderer.workBuffer.rect,
          tracked.stage.renderer.workBuffer.pixel point ≠ 0 →
            ∃ rect ∈ tracked.stage.renderer.comparer.search.damagedAreas, point ∈ rect
  | .setSettings settings =>
      settings.analyzeMoves = true →
        SameWithin tracked.stage.renderer tracked.stage.renderer.workBuffer.width
          tracked.stage.renderer.workBuffer.height
  | .setSize width height =>
      tracked.stage.renderer.settings.analyzeMoves = true →
        Resizes tracked.stage.renderer width height →
          SameWithin tracked.stage.renderer width height
  | .setTarget (some adapter) =>
      tracked.stage.renderer.adapter = none →
        tracked.stage.renderer.settings.analyzeMoves = true →
          Resizes tracked.stage.renderer (tracked.stage.scenes adapter).width
            (tracked.stage.scenes adapter).height →
            SameWithin tracked.stage.renderer (tracked.stage.scenes adapter).width
              (tracked.stage.scenes adapter).height
  | .updateBufferAndGetUpdateOperations =>
      tracked.stage.renderer.comparer.settings.analyzeMoves = true →
        FrameRecorded platform tracked.stage
  | _ => True

section Frame

variable {platform : Platform} {scenes : Adapter → Scene}
  {renderer : GraphicsSceneBufferRenderer Adapter}

theorem paint_updates_rest :
    (renderer.paintUpdatesToBuffer platform scenes).1.comparer =
        renderer.comparer.swap platform.regionRects renderer.workBuffer ∧
      (renderer.paintUpdatesToBuffer platform scenes).1.minimizeDamageRegion =
        renderer.minimizeDamageRegion ∧
      (renderer.paintUpdatesToBuffer platform scenes).1.settings = renderer.settings := by
  unfold paintUpdatesToBuffer clearDamage
  dsimp only
  rw [set_work_rest, swap_work_buffer_rest]
  exact ⟨rfl, rfl, rfl⟩

theorem paint_updates_rects :
    (renderer.paintUpdatesToBuffer platform scenes).2 =
        findDifferences platform.regionRects renderer.comparer.settings
          (renderer.paintUpdatesToBuffer platform scenes).1.otherBuffer
          (renderer.paintUpdatesToBuffer platform scenes).1.workBuffer ∨
      ((renderer.paintUpdatesToBuffer platform scenes).2 = [] ∧
        (renderer.paintUpdatesToBuffer platform scenes).1.workBuffer = renderer.workBuffer) := by
  have buffers := swap_work_buffer_buffers renderer platform
  unfold paintUpdatesToBuffer
  dsimp only
  split_ifs with shown
  · left
    rw [set_work_rest, swap_work_buffer_rest]
    simp only [ImageComparer.swap_settings]
    rfl
  · right
    rw [set_work_rest] at shown
    dsimp only at shown
    rw [Bool.or_eq_true, not_or, Bool.not_eq_true, Bool.not_eq_true, Bool.not_eq_false'] at shown
    refine ⟨rfl, ?_⟩
    change ((renderer.swapWorkBuffer platform).setWorkBuffer _).workBuffer = _
    rw [work_set_work]
    unfold paintedBuffer
    split
    · rename_i adapter attached
      rw [attached] at shown
      cases shown.1
    · rw [if_pos shown.2]
      exact buffers.1

theorem update_buffer_rest (stage : Stage Adapter) :
    (stage.renderer.updateBufferAndGetUpdateOperations platform stage.scenes).1.settings =
        stage.renderer.settings ∧
      (stage.renderer.updateBufferAndGetUpdateOperations platform
        stage.scenes).1.comparer.settings = stage.renderer.comparer.settings ∧
      (stage.renderer.updateBufferAndGetUpdateOperations platform stage.scenes).1.workBuffer =
        nextFrame platform stage := by
  have rest := @paint_updates_rest Adapter platform stage.scenes stage.renderer
  unfold updateBufferAndGetUpdateOperations
  dsimp only
  split_ifs
  · exact ⟨rest.2.2, by rw [rest.1, ImageComparer.swap_settings], rfl⟩
  · exact ⟨rest.2.2, by rw [rest.1, ImageComparer.swap_settings], rfl⟩

theorem full_update_rest : renderer.fullUpdate.1.comparer = renderer.comparer ∧
    renderer.fullUpdate.1.settings = renderer.settings ∧
      renderer.fullUpdate.1.workBuffer = renderer.workBuffer.fill 0 := by
  refine ⟨?_, ?_, ?_⟩
  · unfold fullUpdate emitUpdatesAvailable addDamage
    dsimp only
    rw [set_work_rest, set_other_rest]
  · unfold fullUpdate emitUpdatesAvailable addDamage
    dsimp only
    rw [set_work_rest, set_other_rest]
  · change (GraphicsSceneBufferRenderer.setWorkBuffer _ _).workBuffer = _
    rw [work_set_work, work_set_other]

end Frame

/-- Settings that divide the buffers into tiles, and complete damage. -/
structure Bookkept (platform : Platform) (tracked : Tracked Adapter) : Prop where
  tileable : tracked.stage.renderer.settings.Tileable
  settings : tracked.stage.renderer.comparer.settings = tracked.stage.renderer.settings
  complete : DamageComplete platform tracked

section Slots

variable {platform : Platform} {tracked after : Tracked Adapter}

/-- A pixel that is not recorded is the one the fingerprints were computed from. -/
theorem unrecorded_same (complete : DamageComplete platform tracked)
    (moves : tracked.stage.renderer.comparer.settings.analyzeMoves = true) {point : QPoint}
    (inside : point ∈ tracked.stage.renderer.workBuffer.rect)
    (unrecorded : ¬ ∃ rect ∈ tracked.stage.renderer.comparer.search.damagedAreas, point ∈ rect) :
    tracked.stage.renderer.workBuffer.pixel point = tracked.fingerprinted.pixel point := by
  by_contra differs
  exact unrecorded ((platform.regionRects.exact _ point).mp (complete moves point inside differs))

theorem bookkept_same (bookkept : Bookkept platform tracked)
    (comparer : after.stage.renderer.comparer = tracked.stage.renderer.comparer)
    (settings : after.stage.renderer.settings = tracked.stage.renderer.settings)
    (work : after.stage.renderer.workBuffer = tracked.stage.renderer.workBuffer)
    (fingerprinted : after.fingerprinted = tracked.fingerprinted) : Bookkept platform after := by
  refine ⟨settings ▸ bookkept.tileable, ?_, ?_⟩
  · rw [comparer, settings]
    exact bookkept.settings
  · unfold DamageComplete
    rw [comparer, work, fingerprinted]
    exact bookkept.complete

theorem bookkept_empty (bookkept : Bookkept platform tracked)
    (comparer : after.stage.renderer.comparer = tracked.stage.renderer.comparer)
    (settings : after.stage.renderer.settings = tracked.stage.renderer.settings)
    (work : after.stage.renderer.workBuffer = nullImage) : Bookkept platform after := by
  refine ⟨settings ▸ bookkept.tileable, ?_, ?_⟩
  · rw [comparer, settings]
    exact bookkept.settings
  · intro _ point inside
    rw [work, QImage.mem_rect] at inside
    simp only [nullImage] at inside
    omega

theorem detached_work (renderer : GraphicsSceneBufferRenderer Adapter) :
    renderer.sceneDetached.workBuffer = nullImage := by
  unfold workBuffer sceneDetached clearDamage
  split_ifs
  · rfl
  · rfl

theorem scene_changed_rest (renderer : GraphicsSceneBufferRenderer Adapter) (rects : List QRect) :
    (renderer.sceneChanged rects).1.comparer = renderer.comparer ∧
      (renderer.sceneChanged rects).1.settings = renderer.settings := by
  have folded : ∀ renderer : GraphicsSceneBufferRenderer Adapter,
      (rects.foldl (fun renderer rect =>
        renderer.addDamage ((rect.adjusted (-2) (-2) 2 2).intersected renderer.workBuffer.rect))
        renderer).comparer = renderer.comparer ∧
      (rects.foldl (fun renderer rect =>
        renderer.addDamage ((rect.adjusted (-2) (-2) 2 2).intersected renderer.workBuffer.rect))
        renderer).settings = renderer.settings := by
    induction rects with
    | nil => exact fun renderer => ⟨rfl, rfl⟩
    | cons rect rects induction => exact fun renderer => induction _
  exact folded renderer

theorem bookkept_full_update (bookkept : Bookkept platform tracked)
    (allowed : KeepsComplete platform tracked .fullUpdate)
    (stage : after.stage = { tracked.stage with renderer := tracked.stage.renderer.fullUpdate.1 })
    (fingerprinted : after.fingerprinted = tracked.fingerprinted) : Bookkept platform after := by
  have rest : after.stage.renderer.comparer = tracked.stage.renderer.comparer ∧
      after.stage.renderer.settings = tracked.stage.renderer.settings ∧
        after.stage.renderer.workBuffer = tracked.stage.renderer.workBuffer.fill 0 := by
    rw [stage]
    exact full_update_rest
  have work := rest.2.2
  refine ⟨rest.2.1 ▸ bookkept.tileable, ?_, ?_⟩
  · rw [rest.1, rest.2.1]
    exact bookkept.settings
  · intro moves point inside differs
    rw [rest.1] at moves ⊢
    rw [work] at inside differs
    rw [fingerprinted] at differs
    apply (platform.regionRects.exact _ point).mpr
    by_contra unrecorded
    have same := unrecorded_same bookkept.complete moves inside unrecorded
    exact unrecorded (allowed moves point inside fun black => differs (black.symm.trans same))

theorem resized_same {first second : QImage} (sizes : QImage.SameSize first second)
    {width height : Int} (same : ∀ point ∈ first.rect, point.x < width → point.y < height →
      first.pixel point = second.pixel point) {point : QPoint}
    (inside : point ∈ (resizeBuffer first width height).rect) :
    (resizeBuffer first width height).pixel point =
      (resizeBuffer second width height).pixel point := by
  have rects := QImage.same_size_rect sizes
  unfold resizeBuffer isNullImage blankImage resizedCopy at inside ⊢
  rw [← sizes.1, ← sizes.2, ← rects]
  split_ifs at inside ⊢ with changes null positive
  · rfl
  · rfl
  · rw [QImage.mem_rect] at inside
    dsimp only at inside ⊢
    split_ifs with old
    · exact same point old (by omega) (by omega)
    · rfl
  · rfl
  · rw [QImage.mem_rect] at inside
    apply same point (QImage.mem_rect.mpr inside)
    · omega
    · omega

theorem bookkept_set_size (formed : WellFormed tracked.stage.renderer)
    (bookkept : Bookkept platform tracked) (width height : Int)
    (same : tracked.stage.renderer.settings.analyzeMoves = true →
      Resizes tracked.stage.renderer width height → SameWithin tracked.stage.renderer width height)
    (renderer : after.stage.renderer = (tracked.stage.renderer.setSize platform width height).1)
    (rebuilt : Resizes tracked.stage.renderer width height →
      after.fingerprinted = after.stage.renderer.otherBuffer)
    (unchanged : ¬ Resizes tracked.stage.renderer width height →
      after.fingerprinted = tracked.fingerprinted) : Bookkept platform after := by
  by_cases resizes : Resizes tracked.stage.renderer width height
  · have fingerprinted := rebuilt resizes
    let resized := { tracked.stage.renderer with
      buffer1 := resizeBuffer tracked.stage.renderer.buffer1 width height
      buffer2 := resizeBuffer tracked.stage.renderer.buffer2 width height }
    have sized : after.stage.renderer = (((initComparer platform resized).clearDamage.addDamage
        (initComparer platform resized).clearDamage.bufferRect).emitUpdatesAvailable).1 := by
      rw [renderer]
      unfold setSize
      rw [if_neg resizes.1, if_pos resizes.2]
    have work : after.stage.renderer.workBuffer =
        resizeBuffer tracked.stage.renderer.workBuffer width height := by
      rw [sized]
      change resized.workBuffer = _
      unfold workBuffer
      split_ifs
      · rfl
      · rfl
    have other : after.stage.renderer.otherBuffer =
        resizeBuffer tracked.stage.renderer.otherBuffer width height := by
      rw [sized]
      change resized.otherBuffer = _
      unfold otherBuffer
      split_ifs
      · rfl
      · rfl
    have settings : after.stage.renderer.settings = tracked.stage.renderer.settings ∧
        after.stage.renderer.comparer.settings = tracked.stage.renderer.settings := by
      rw [sized]
      exact ⟨rfl, rfl⟩
    refine ⟨settings.1 ▸ bookkept.tileable, settings.2.trans settings.1.symm, ?_⟩
    intro moves point inside differs
    rw [settings.2] at moves
    rw [fingerprinted, work, other] at differs
    rw [work] at inside
    exact absurd (resized_same formed.sameSize (same moves resizes) inside) differs
  · have fingerprinted := unchanged resizes
    have kept : after.stage.renderer = tracked.stage.renderer := by
      rw [renderer]
      unfold setSize
      unfold Resizes at resizes
      split_ifs with degenerate changes
      · rfl
      · exact absurd ⟨degenerate, changes⟩ resizes
      · rfl
    apply bookkept_same bookkept _ _ _ fingerprinted
    · rw [kept]
    · rw [kept]
    · rw [kept]

/-- A frame takes the recorded pixels from the work buffer and records what it changes. -/
theorem bookkept_frame (keeps : KeepsDamage platform.mappedReduced)
    (formed : WellFormed tracked.stage.renderer) (bookkept : Bookkept platform tracked)
    (allowed : KeepsComplete platform tracked .updateBufferAndGetUpdateOperations)
    (renderer : after.stage.renderer = (tracked.stage.renderer.updateBufferAndGetUpdateOperations
      platform tracked.stage.scenes).1)
    (fingerprinted : after.fingerprinted =
      kept platform tracked .updateBufferAndGetUpdateOperations) : Bookkept platform after := by
  have paints := paint_updates_paints platform tracked.stage.scenes formed
  have rest := @paint_updates_rest Adapter platform tracked.stage.scenes tracked.stage.renderer
  have rects := @paint_updates_rects Adapter platform tracked.stage.scenes tracked.stage.renderer
  have settings : after.stage.renderer.settings = tracked.stage.renderer.settings ∧
      after.stage.renderer.comparer.settings = tracked.stage.renderer.comparer.settings ∧
        after.stage.renderer.workBuffer = nextFrame platform tracked.stage := by
    rw [renderer]
    exact update_buffer_rest tracked.stage
  have work := settings.2.2
  refine ⟨settings.1 ▸ bookkept.tileable,
    settings.2.1.trans (bookkept.settings.trans settings.1.symm), ?_⟩
  intro moves point inside differs
  rw [settings.2.1] at moves
  rw [work] at inside differs
  have sameRect : (nextFrame platform tracked.stage).rect = tracked.stage.renderer.workBuffer.rect :=
    QImage.same_size_rect paints.sameSize
  rw [sameRect] at inside
  -- behind the swap the fingerprints are those of the buffer the frame is painted over
  have swapped : after.fingerprinted.pixel point = tracked.stage.renderer.workBuffer.pixel point := by
    rw [fingerprinted]
    unfold kept refreshed
    dsimp only
    rw [if_pos moves]
    dsimp only
    split_ifs with updated
    · rfl
    · symm
      apply unrecorded_same bookkept.complete moves inside
      intro recorded
      apply updated
      rw [List.any_eq_true]
      exact (platform.regionRects.exact _ point).mpr recorded
  rw [swapped] at differs
  obtain ⟨minimized, unfilled⟩ := allowed moves ⟨point, inside, fun same => differs same.symm⟩
  have compared := rects.resolve_right fun nothing =>
    differs (congrArg (fun image => QImage.pixel image point) nothing.2)
  have search : after.stage.renderer.comparer.search = (updateOperationsOfRects platform.regionRects
      platform.mappedReduced
      (tracked.stage.renderer.comparer.swap platform.regionRects tracked.stage.renderer.workBuffer)
      tracked.stage.renderer.workBuffer (nextFrame platform tracked.stage)
      (findDifferences platform.regionRects tracked.stage.renderer.comparer.settings
        tracked.stage.renderer.workBuffer (nextFrame platform tracked.stage))
      (findDifferences platform.regionRects tracked.stage.renderer.comparer.settings
        tracked.stage.renderer.workBuffer (nextFrame platform tracked.stage))
      (tracked.stage.renderer.comparer.swap platform.regionRects
        tracked.stage.renderer.workBuffer).search).2 := by
    rw [paints.other] at compared
    rw [renderer]
    unfold updateBufferAndGetUpdateOperations
    dsimp only
    rw [rest.2.1, if_pos minimized, compared, paints.other, rest.1]
    rfl
  have sizes : QImage.SameSize tracked.stage.renderer.workBuffer (nextFrame platform tracked.stage) :=
    ⟨paints.sameSize.1.symm, paints.sameSize.2.symm⟩
  have records := @update_operations_of_rects_record
    (tracked.stage.renderer.comparer.swap platform.regionRects tracked.stage.renderer.workBuffer)
    tracked.stage.renderer.workBuffer (nextFrame platform tracked.stage) sizes
    (by rw [ImageComparer.swap_settings, bookkept.settings]; exact bookkept.tileable)
    (QRect.not_empty_of_mem inside) platform.regionRects platform.mappedReduced keeps
    (by rw [ImageComparer.swap_settings]; exact moves)
    (findDifferences platform.regionRects tracked.stage.renderer.comparer.settings
      tracked.stage.renderer.workBuffer (nextFrame platform tracked.stage))
    (findDifferences platform.regionRects tracked.stage.renderer.comparer.settings
      tracked.stage.renderer.workBuffer (nextFrame platform tracked.stage))
    (by
      unfold Unfilled PaintsFill at unfilled ⊢
      rw [ImageComparer.swap_settings]
      exact unfilled)
    (tracked.stage.renderer.comparer.swap platform.regionRects
      tracked.stage.renderer.workBuffer).search
  have wide : 1 ≤ tracked.stage.renderer.comparer.settings.tileWidth := by
    rw [bookkept.settings]
    exact bookkept.tileable.1
  obtain ⟨rect, member, hit⟩ := find_differences_covers sizes platform.regionRects wide inside
    (fun same => differs same.symm)
  rw [search]
  exact (platform.regionRects.exact _ point).mpr
    (records.covers point ⟨rect, member, inside, hit, fun same => differs same.symm⟩)

theorem bookkept_fresh (fresh : FreshTracked platform tracked) : Bookkept platform tracked := by
  have settings : tracked.stage.renderer.settings = ComparerSettings.default ∧
      tracked.stage.renderer.comparer.settings = ComparerSettings.default := by
    rw [fresh.1]
    exact ⟨rfl, rfl⟩
  refine ⟨?_, settings.2.trans settings.1.symm, ?_⟩
  · rw [settings.1]
    unfold ComparerSettings.Tileable
    decide
  · intro moves
    rw [settings.2] at moves
    cases moves

/-- The state in which an adapter is set but not yet given its size. -/
def attaching (tracked : Tracked Adapter) (shown : Adapter) : Tracked Adapter where
  stage := { tracked.stage with
    renderer := { attachedBuffers tracked.stage with adapter := some shown } }
  fingerprinted := tracked.fingerprinted

section Steps

variable [DecidableEq Adapter]

omit [DecidableEq Adapter] in
/-- The buffers an adapter is attached to are those of a bare renderer, or none at all. -/
theorem bookkept_attaching (formed : WellFormed tracked.stage.renderer)
    (bookkept : Bookkept platform tracked) (shown : Adapter)
    (allowed : KeepsComplete platform tracked (.setTarget (some shown))) :
    WellFormed (attaching tracked shown).stage.renderer ∧
      Bookkept platform (attaching tracked shown) ∧
      ((attaching tracked shown).stage.renderer.settings.analyzeMoves = true →
        Resizes (attaching tracked shown).stage.renderer (tracked.stage.scenes shown).width
          (tracked.stage.scenes shown).height →
        SameWithin (attaching tracked shown).stage.renderer (tracked.stage.scenes shown).width
          (tracked.stage.scenes shown).height) := by
  cases attached : tracked.stage.renderer.adapter with
  | none =>
      have renderer : (attaching tracked shown).stage.renderer =
          { tracked.stage.renderer with adapter := some shown } := by
        unfold attaching attachedBuffers
        rw [attached]
        rfl
      refine ⟨?_, ?_, ?_⟩
      · rw [renderer]
        exact ⟨formed.sameSize, formed.wide, formed.high⟩
      · apply bookkept_same bookkept
        · rw [renderer]
        · rw [renderer]
        · rw [renderer]
          rfl
        · rfl
      · rw [renderer]
        exact allowed attached
  | some other =>
      have renderer : (attaching tracked shown).stage.renderer =
          { tracked.stage.renderer.sceneDetached with adapter := some shown } := by
        unfold attaching attachedBuffers
        rw [attached]
        rfl
      have detached := (well_formed_detached formed).1
      have empty : (attaching tracked shown).stage.renderer.workBuffer = nullImage := by
        rw [renderer]
        exact detached_work tracked.stage.renderer
      refine ⟨?_, ?_, ?_⟩
      · rw [renderer]
        exact ⟨detached.sameSize, detached.wide, detached.high⟩
      · apply bookkept_empty bookkept _ _ empty
        · rw [renderer]
          rfl
        · rw [renderer]
          rfl
      · intro _ _ point inside
        rw [empty, QImage.mem_rect] at inside
        simp only [nullImage] at inside
        omega

theorem bookkept_set_target (formed : WellFormed tracked.stage.renderer)
    (bookkept : Bookkept platform tracked) (adapter : Option Adapter)
    (allowed : KeepsComplete platform tracked (.setTarget adapter))
    (stage : after.stage = act platform tracked.stage (.setTarget adapter))
    (rebuilt : Rebuilds tracked.stage (.setTarget adapter) →
      after.fingerprinted = after.stage.renderer.otherBuffer)
    (unchanged : ¬ Rebuilds tracked.stage (.setTarget adapter) →
      after.fingerprinted = tracked.fingerprinted) : Bookkept platform after := by
  by_cases changed : adapter = tracked.stage.renderer.adapter
  · have kept : after.stage = tracked.stage := by
      rw [stage]
      unfold act setTargetGraphicsSceneAdapter
      dsimp only
      rw [if_neg (not_not.mpr changed)]
    have notRebuilt : ¬ Rebuilds tracked.stage (.setTarget adapter) := by
      cases adapter with
      | none => exact id
      | some shown => exact fun rebuilds => rebuilds.1 changed
    apply bookkept_same bookkept _ _ _ (unchanged notRebuilt)
    · rw [kept]
    · rw [kept]
    · rw [kept]
  · cases adapter with
    | none =>
        -- an adapter is taken away, and the buffers with it
        have detached : after.stage.renderer =
            { tracked.stage.renderer.sceneDetached with adapter := none } := by
          rw [stage]
          unfold act setTargetGraphicsSceneAdapter
          dsimp only
          rw [if_pos changed]
          cases shown : tracked.stage.renderer.adapter with
          | none => exact absurd shown.symm changed
          | some other => rfl
        apply bookkept_empty bookkept
        · rw [detached]
          rfl
        · rw [detached]
          rfl
        · rw [detached]
          exact detached_work tracked.stage.renderer
    | some shown =>
        have sized : after.stage.renderer = ((attaching tracked shown).stage.renderer.setSize platform
            (tracked.stage.scenes shown).width (tracked.stage.scenes shown).height).1 := by
          rw [stage]
          unfold act setTargetGraphicsSceneAdapter
          dsimp only
          rw [if_pos changed]
          rfl
        have middle := bookkept_attaching formed bookkept shown allowed
        exact bookkept_set_size middle.1 middle.2.1 _ _ middle.2.2 sized
          (fun resizes => rebuilt ⟨changed, resizes⟩)
          (fun same => unchanged fun rebuilds => same rebuilds.2)

theorem bookkept_step (keeps : KeepsDamage platform.mappedReduced)
    (formed : WellFormed tracked.stage.renderer) (bookkept : Bookkept platform tracked)
    {action : StageAction Adapter} (allowed : KeepsComplete platform tracked action)
    (step : TrackStep platform tracked action after) : Bookkept platform after := by
  obtain ⟨notPrivate, tileable, stage, rebuilt, unchanged⟩ := step
  cases action with
  | changeScene adapter scene rects =>
      have same : after.stage.renderer.comparer = tracked.stage.renderer.comparer ∧
          after.stage.renderer.settings = tracked.stage.renderer.settings ∧
          after.stage.renderer.workBuffer = tracked.stage.renderer.workBuffer := by
        rw [stage]
        unfold act
        dsimp only
        split_ifs
        · have rest := scene_changed_rest tracked.stage.renderer rects
          exact ⟨rest.1, rest.2, (scene_changed_reports formed rects).work⟩
        · exact ⟨rfl, rfl, rfl⟩
      exact bookkept_same bookkept same.1 same.2.1 same.2.2 (unchanged id)
  | fullUpdate => exact bookkept_full_update bookkept allowed stage (unchanged id)
  | setSize width height =>
      exact bookkept_set_size formed bookkept width height allowed (by rw [stage]; rfl) rebuilt unchanged
  | setTarget adapter =>
      exact bookkept_set_target formed bookkept adapter allowed stage rebuilt unchanged
  | destroyAdapter =>
      apply bookkept_empty bookkept
      · rw [stage]
        rfl
      · rw [stage]
        rfl
      · rw [stage]
        exact detached_work { tracked.stage.renderer with adapter := none }
  | pushFullFrame image =>
      have same : after.stage.renderer.comparer = tracked.stage.renderer.comparer ∧
          after.stage.renderer.settings = tracked.stage.renderer.settings ∧
          after.stage.renderer.workBuffer = tracked.stage.renderer.workBuffer := by
        rw [stage]
        unfold act GraphicsSceneBufferRenderer.pushFullFrame
        dsimp only
        split_ifs
        · exact ⟨rfl, rfl, rfl⟩
        · exact ⟨rfl, rfl, rfl⟩
      exact bookkept_same bookkept same.1 same.2.1 same.2.2 (unchanged id)
  | setSettings settings =>
      have fingerprinted := rebuilt trivial
      have renderer : after.stage.renderer = tracked.stage.renderer.setSettings platform settings := by
        rw [stage]
        rfl
      refine ⟨?_, ?_, ?_⟩
      · rw [renderer]
        exact tileable settings rfl
      · rw [renderer]
        rfl
      · intro moves point inside differs
        rw [fingerprinted, renderer] at differs
        rw [renderer] at moves inside
        have bounds := QImage.mem_rect.mp inside
        exact absurd (allowed moves point inside bounds.2.1 bounds.2.2.2) differs
  | setMinimizeDamageRegion value =>
      apply bookkept_same bookkept _ _ _ (unchanged id)
      · rw [stage]
        rfl
      · rw [stage]
        rfl
      · rw [stage]
        rfl
  | paintUpdatesToBuffer => exact absurd rfl notPrivate
  | updateBufferAndGetUpdateOperations =>
      exact bookkept_frame keeps formed bookkept allowed (by rw [stage]; rfl) (unchanged id)

/-- In every run whose slots keep the damage complete, it is complete at every swap. -/
theorem damage_complete_in_runs (keeps : KeepsDamage platform.mappedReduced)
    (reached : Reach (TrackStep platform) (KeepsComplete platform) (FreshTracked platform) tracked) :
    DamageComplete platform tracked := by
  have invariant : WellFormed tracked.stage.renderer ∧ Bookkept platform tracked := by
    apply reached.invariant
    · intro start fresh
      exact ⟨well_formed_fresh platform fresh.1, bookkept_fresh fresh⟩
    · rintro state action next ⟨formed, bookkept⟩ allowed step
      refine ⟨?_, bookkept_step keeps formed bookkept allowed step⟩
      rw [step.2.2.1]
      exact well_formed_act formed action
  exact invariant.2.complete

end Steps

end Slots

/-- A renderer that looks for moves in tiles of two pixels, and an adapter of one pixel. -/
def movingStage (fineGrainedMoves : Bool) : Stage Unit :=
  act Platform.reference bareStage (.setSettings { ComparerSettings.default with
    tileWidth := 2, analyzeMoves := true, fineGrainedMoves := fineGrainedMoves })

def attachedStage (fineGrainedMoves : Bool) : Stage Unit :=
  act Platform.reference (movingStage fineGrainedMoves) (.setTarget (some ()))

def attachedTracked (fineGrainedMoves : Bool) : Tracked Unit :=
  ⟨attachedStage fineGrainedMoves, (attachedStage fineGrainedMoves).renderer.otherBuffer⟩

def paintedTracked (fineGrainedMoves : Bool) : Tracked Unit where
  stage := act Platform.reference (attachedStage fineGrainedMoves) .updateBufferAndGetUpdateOperations
  fingerprinted := kept Platform.reference (attachedTracked fineGrainedMoves)
    .updateBufferAndGetUpdateOperations

theorem painted_tracked_reached {allowed : Tracked Unit → StageAction Unit → Prop}
    (fineGrainedMoves : Bool)
    (permitted : ∀ state action, KeepsComplete Platform.reference state action →
      allowed state action)
    (frame : allowed (attachedTracked fineGrainedMoves) .updateBufferAndGetUpdateOperations) :
    Reach (TrackStep Platform.reference) allowed (FreshTracked Platform.reference)
      (paintedTracked fineGrainedMoves) := by
  have empty : ∀ renderer : GraphicsSceneBufferRenderer Unit, renderer.workBuffer = nullImage →
      ∀ width height, SameWithin renderer width height := by
    intro renderer null width height point inside
    rw [null, QImage.mem_rect] at inside
    simp only [nullImage] at inside
    omega
  have fresh : FreshTracked Platform.reference
      (⟨bareStage, bareStage.renderer.otherBuffer⟩ : Tracked Unit) := ⟨bare_stage_fresh, rfl⟩
  have settings : TrackStep Platform.reference ⟨bareStage, bareStage.renderer.otherBuffer⟩
      (.setSettings { ComparerSettings.default with
        tileWidth := 2, analyzeMoves := true, fineGrainedMoves := fineGrainedMoves })
      ⟨movingStage fineGrainedMoves, (movingStage fineGrainedMoves).renderer.otherBuffer⟩ := by
    refine ⟨by simp, ?_, rfl, fun _ => rfl, fun kept => absurd trivial kept⟩
    intro given same
    cases same
    exact ⟨(by decide : (1 : Int) ≤ 2), fun _ => le_refl (2 : Int)⟩
  have attached : TrackStep Platform.reference
      ⟨movingStage fineGrainedMoves, (movingStage fineGrainedMoves).renderer.otherBuffer⟩
      (.setTarget (some ())) (attachedTracked fineGrainedMoves) := by
    refine ⟨by simp, by simp, rfl, fun _ => rfl, fun kept => absurd ?_ kept⟩
    have width : ((1 : Int) = 0 ∨ (1 : Int) = 0) ↔ False := by
      decide
    exact ⟨Option.some_ne_none (), width.mp, Or.inl (by decide : (0 : Int) ≠ 1)⟩
  have reached := Reach.next (Reach.start fresh)
    (permitted _ _ (show KeepsComplete _ _ (.setSettings _) from fun _ => empty _ rfl _ _)) settings
  have sized := Reach.next reached
    (permitted _ _ (show KeepsComplete _ _ (.setTarget (some ())) from
      fun _ _ _ => empty _ rfl _ _)) attached
  exact Reach.next sized frame ⟨by simp, by simp, rfl, False.elim, fun _ => rfl⟩

theorem damage_complete_in_small_tiles :
    DamageComplete Platform.reference (paintedTracked true) :=
  damage_complete_in_runs sequential_keeps_damage
    (painted_tracked_reached true (fun _ _ allowed => allowed)
      (fun _ _ => ⟨rfl, Or.inl rfl⟩))

/-- The black pixel is painted as a fill, which no one records. -/
theorem damage_of_fill_missed :
    ¬ ∀ tracked : Tracked Unit,
      Reach (TrackStep Platform.reference) always (FreshTracked Platform.reference) tracked →
        DamageComplete Platform.reference tracked := by
  intro holds
  have complete := holds (paintedTracked false)
    (painted_tracked_reached false (fun _ _ _ => trivial) trivial)
  have moves : (paintedTracked false).stage.renderer.comparer.settings.analyzeMoves = true := by
    decide
  have inside : (⟨0, 0⟩ : QPoint) ∈ (paintedTracked false).stage.renderer.workBuffer.rect := by
    decide
  have differs : (paintedTracked false).stage.renderer.workBuffer.pixel ⟨0, 0⟩ ≠
      (paintedTracked false).fingerprinted.pixel ⟨0, 0⟩ := by
    decide
  have nothing : Platform.reference.regionRects.rects
      (paintedTracked false).stage.renderer.comparer.search.damagedAreas = [] := by
    decide
  obtain ⟨rect, member, _⟩ := complete moves ⟨0, 0⟩ inside differs
  rw [nothing] at member
  exact absurd member List.not_mem_nil

end Viridity.DamageBookkeeping
