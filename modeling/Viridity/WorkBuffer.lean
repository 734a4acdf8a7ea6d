import Mathlib.Logic.Function.Basic
import Viridity.BufferRenderer

/-!
# The work buffer and the damage region

Outside the damage region the work buffer shows the scene. Every slot keeps that,
except attaching an adapter to a renderer that has none: when its buffers already
have the size of the scene, nothing is added to the damage region.
-/

namespace Viridity.WorkBuffer

open Viridity.QtRectangle
open Viridity.ImageAux
open Viridity.TileOperations
open Viridity.FrameComparison
open Viridity.BufferRenderer
open Viridity.LabelledRuns
open GraphicsSceneBufferRenderer

set_option autoImplicit false

variable {Adapter : Type}

/-- A renderer and what every adapter shows at the moment. -/
structure Stage (Adapter : Type) where
  renderer : GraphicsSceneBufferRenderer Adapter
  scenes : Adapter → Scene

inductive StageAction (Adapter : Type) where
  | changeScene (adapter : Adapter) (scene : Scene) (rects : List QRect)
  | fullUpdate
  | setSize (width height : Int)
  | setTarget (adapter : Option Adapter)
  | destroyAdapter
  | pushFullFrame (image : QImage)
  | setSettings (settings : ComparerSettings)
  | setMinimizeDamageRegion (value : Bool)
  | paintUpdatesToBuffer
  | updateBufferAndGetUpdateOperations

def act [DecidableEq Adapter] (platform : Platform) (stage : Stage Adapter) :
    StageAction Adapter → Stage Adapter
  | .changeScene adapter scene rects =>
      { renderer :=
          if stage.renderer.adapter = some adapter then (stage.renderer.sceneChanged rects).1
          else stage.renderer
        scenes := Function.update stage.scenes adapter scene }
  | .fullUpdate => { stage with renderer := stage.renderer.fullUpdate.1 }
  | .setSize width height =>
      { stage with renderer := (stage.renderer.setSize platform width height).1 }
  | .setTarget adapter =>
      { stage with
        renderer := (stage.renderer.setTargetGraphicsSceneAdapter platform stage.scenes adapter).1 }
  | .destroyAdapter => { stage with renderer := stage.renderer.sceneDestroyed }
  | .pushFullFrame image => { stage with renderer := (stage.renderer.pushFullFrame image).1 }
  | .setSettings settings => { stage with renderer := stage.renderer.setSettings platform settings }
  | .setMinimizeDamageRegion value =>
      { stage with renderer := stage.renderer.setMinimizeDamageRegion value }
  | .paintUpdatesToBuffer =>
      { stage with renderer := (stage.renderer.paintUpdatesToBuffer platform stage.scenes).1 }
  | .updateBufferAndGetUpdateOperations =>
      { stage with
        renderer := (stage.renderer.updateBufferAndGetUpdateOperations platform stage.scenes).1 }

/-- A scene is changed together with a report that contains all changed pixels. -/
def Reported (stage : Stage Adapter) : StageAction Adapter → Prop
  | .changeScene adapter scene rects =>
      ∀ point, (stage.scenes adapter).pixel point ≠ scene.pixel point → ∃ rect ∈ rects, point ∈ rect
  | _ => True

def StageStep [DecidableEq Adapter] (platform : Platform) (stage : Stage Adapter)
    (action : StageAction Adapter) (after : Stage Adapter) : Prop :=
  Reported stage action ∧ after = act platform stage action

def Fresh (platform : Platform) (stage : Stage Adapter) : Prop :=
  stage.renderer = create platform

def WholeDamaged (renderer : GraphicsSceneBufferRenderer Adapter) : Prop :=
  ∀ point ∈ renderer.workBuffer.rect, renderer.damageRegion.Covers point

def Resizes (renderer : GraphicsSceneBufferRenderer Adapter) (width height : Int) : Prop :=
  ¬(width = 0 ∨ height = 0) ∧
    ((renderer.buffer1.width : Int) ≠ width ∨ (renderer.buffer1.height : Int) ≠ height)

/-- An adapter attached to a renderer without one finds buffers of another size,
or buffers that are damaged as a whole. -/
def AttachesAfresh (stage : Stage Adapter) : StageAction Adapter → Prop
  | .setTarget (some adapter) =>
      stage.renderer.adapter = none →
        Resizes stage.renderer (stage.scenes adapter).width (stage.scenes adapter).height ∨
          WholeDamaged stage.renderer
  | _ => True

/-- Each pixel of the work buffer outside the damage region is the scene's. -/
def Current (stage : Stage Adapter) : Prop :=
  ∀ adapter, stage.renderer.adapter = some adapter → ∀ point ∈ stage.renderer.workBuffer.rect,
    ¬stage.renderer.damageRegion.Covers point →
      stage.renderer.workBuffer.pixel point = (stage.scenes adapter).pixel point

/-- What every renderer satisfies: buffers of one size, a proper tile grid. -/
structure WellFormed (renderer : GraphicsSceneBufferRenderer Adapter) : Prop where
  sameSize : QImage.SameSize renderer.workBuffer renderer.otherBuffer
  wide : 0 < renderer.damageRegion.tileWidth
  high : 0 < renderer.damageRegion.tileHeight

theorem whole_damaged_current {stage : Stage Adapter} (whole : WholeDamaged stage.renderer) :
    Current stage := by
  intro adapter _ point inside uncovered
  exact absurd (whole point inside) uncovered

section Slots

variable {renderer : GraphicsSceneBufferRenderer Adapter}

theorem whole_damaged_add_buffer (formed : WellFormed renderer) :
    WholeDamaged (renderer.addDamage renderer.bufferRect) := by
  intro point inside
  exact TiledRegion.covers_add_of_mem formed.wide formed.high (by simp [bufferRect, QRect.ofSize])
    (by simp [bufferRect, QRect.ofSize]) inside

theorem well_formed_full_update (formed : WellFormed renderer) :
    WellFormed renderer.fullUpdate.1 ∧ WholeDamaged renderer.fullUpdate.1 := by
  let cleared := renderer.setOtherBuffer (renderer.otherBuffer.fill 0xFFFFFFFF)
  let filled := cleared.setWorkBuffer (cleared.workBuffer.fill 0)
  have region : filled.damageRegion = renderer.damageRegion := by
    simp only [filled, cleared]
    rw [set_work_rest, set_other_rest]
  have sizes : QImage.SameSize filled.workBuffer filled.otherBuffer := by
    simp only [filled, cleared, work_set_work, other_set_work, work_set_other, other_set_other]
    exact formed.sameSize
  have filledFormed : WellFormed filled := ⟨sizes, region ▸ formed.wide, region ▸ formed.high⟩
  exact ⟨⟨sizes, filledFormed.wide, filledFormed.high⟩, whole_damaged_add_buffer filledFormed⟩

theorem resize_buffer_same_size {first second : QImage} (same : QImage.SameSize first second)
    (width height : Int) :
    QImage.SameSize (resizeBuffer first width height) (resizeBuffer second width height) := by
  unfold resizeBuffer isNullImage blankImage resizedCopy
  rw [same.1, same.2]
  split_ifs
  · exact ⟨rfl, rfl⟩
  · exact ⟨rfl, rfl⟩
  · exact ⟨rfl, rfl⟩
  · exact ⟨rfl, rfl⟩
  · exact same

/-- `setSize` does nothing, or it leaves buffers that are damaged as a whole. -/
theorem set_size_cases (platform : Platform) (formed : WellFormed renderer) (width height : Int) :
    (¬Resizes renderer width height ∧ (renderer.setSize platform width height).1 = renderer) ∨
      (WellFormed (renderer.setSize platform width height).1 ∧
        WholeDamaged (renderer.setSize platform width height).1 ∧
        (renderer.setSize platform width height).1.adapter = renderer.adapter) := by
  unfold setSize Resizes
  split_ifs with degenerate changes
  · exact Or.inl ⟨by simp [degenerate], rfl⟩
  · right
    let resized := { renderer with
      buffer1 := resizeBuffer renderer.buffer1 width height
      buffer2 := resizeBuffer renderer.buffer2 width height }
    have sizes : QImage.SameSize resized.workBuffer resized.otherBuffer := by
      have same := formed.sameSize
      unfold workBuffer otherBuffer at same ⊢
      simp only [resized]
      split_ifs at same ⊢
      · exact resize_buffer_same_size same width height
      · exact resize_buffer_same_size same width height
    have clearedFormed : WellFormed (initComparer platform resized).clearDamage :=
      ⟨sizes, formed.wide, formed.high⟩
    exact ⟨⟨sizes, formed.wide, formed.high⟩, whole_damaged_add_buffer clearedFormed, rfl⟩
  · exact Or.inl ⟨fun both => changes both.2, rfl⟩

theorem well_formed_detached (formed : WellFormed renderer) :
    WellFormed renderer.sceneDetached ∧ WholeDamaged renderer.sceneDetached := by
  have empty : renderer.sceneDetached.workBuffer = nullImage ∧
      renderer.sceneDetached.otherBuffer = nullImage := by
    unfold workBuffer otherBuffer sceneDetached clearDamage
    split_ifs
    · exact ⟨rfl, rfl⟩
    · exact ⟨rfl, rfl⟩
  constructor
  · exact ⟨by rw [empty.1, empty.2]; exact ⟨rfl, rfl⟩, formed.wide, formed.high⟩
  · intro point inside
    rw [empty.1, QImage.mem_rect] at inside
    simp only [nullImage] at inside
    omega

/-- A report adds the reported rectangles to the damage and leaves the buffers. -/
structure Reports (renderer : GraphicsSceneBufferRenderer Adapter) (rects : List QRect)
    (after : GraphicsSceneBufferRenderer Adapter) : Prop where
  formed : WellFormed after
  adapter : after.adapter = renderer.adapter
  work : after.workBuffer = renderer.workBuffer
  damaged : ∀ point ∈ renderer.workBuffer.rect,
    (renderer.damageRegion.Covers point ∨ ∃ rect ∈ rects, point ∈ rect) →
      after.damageRegion.Covers point

theorem reports_fold (rects : List QRect) (formed : WellFormed renderer) :
    Reports renderer rects (rects.foldl (fun renderer rect =>
      renderer.addDamage ((rect.adjusted (-2) (-2) 2 2).intersected renderer.workBuffer.rect))
      renderer) := by
  induction rects generalizing renderer with
  | nil =>
      refine ⟨formed, rfl, rfl, ?_⟩
      intro point _ covered
      simpa using covered
  | cons head rects induction =>
      have step := @induction
        (renderer.addDamage ((head.adjusted (-2) (-2) 2 2).intersected renderer.workBuffer.rect))
        ⟨formed.sameSize, formed.wide, formed.high⟩
      refine ⟨step.formed, step.adapter, step.work, ?_⟩
      intro point inside covered
      apply step.damaged point inside
      rcases covered with already | ⟨rect, member, hit⟩
      · left
        exact (TiledRegion.covers_add _ _ point).mpr (Or.inl already)
      · rcases List.mem_cons.mp member with same | later
        · left
          subst same
          have grown : point ∈ rect.adjusted (-2) (-2) 2 2 := by
            rw [QRect.mem_iff] at hit ⊢
            simp only [QRect.adjusted]
            omega
          have met := (QRect.mem_intersected (QRect.not_empty_of_mem grown)
            (QRect.not_empty_of_mem inside) point).mpr ⟨grown, inside⟩
          have corner := QRect.mem_right_of_mem_intersected (QRect.not_empty_of_mem inside)
            (QRect.top_left_mem (QRect.not_empty_of_mem met))
          rw [QImage.mem_rect] at corner
          exact TiledRegion.covers_add_of_mem formed.wide formed.high corner.1 corner.2.2.1 met
        · exact Or.inr ⟨rect, later, hit⟩

theorem scene_changed_reports (formed : WellFormed renderer) (rects : List QRect) :
    Reports renderer rects (renderer.sceneChanged rects).1 := by
  have folded := reports_fold rects formed
  exact ⟨⟨folded.formed.sameSize, folded.formed.wide, folded.formed.high⟩, folded.adapter,
    folded.work, folded.damaged⟩

/-- After a paint the other buffer is the work buffer before it; pixels outside the
damage are carried over and the others come from the scene. -/
structure Paints (scenes : Adapter → Scene) (renderer after : GraphicsSceneBufferRenderer Adapter) :
    Prop where
  formed : WellFormed after
  adapter : after.adapter = renderer.adapter
  other : after.otherBuffer = renderer.workBuffer
  sameSize : QImage.SameSize after.workBuffer renderer.workBuffer
  drawn : ∀ adapter, renderer.adapter = some adapter → ∀ point,
    renderer.damageRegion.Covers point →
      after.workBuffer.pixel point = (scenes adapter).pixel point
  carried : ∀ adapter, renderer.adapter = some adapter → ∀ point,
    ¬renderer.damageRegion.Covers point →
      after.workBuffer.pixel point = renderer.workBuffer.pixel point

theorem painted_buffer_same_size (platform : Platform) (scenes : Adapter → Scene)
    (buffer : QImage) :
    QImage.SameSize (renderer.paintedBuffer platform scenes buffer) buffer := by
  unfold paintedBuffer
  split
  · exact ⟨rfl, rfl⟩
  · split_ifs
    · exact ⟨rfl, rfl⟩
    · exact ⟨rfl, rfl⟩

theorem painted_buffer_pixel (platform : Platform) (scenes : Adapter → Scene) {adapter : Adapter}
    (attached : renderer.adapter = some adapter) (buffer : QImage) (point : QPoint) :
    (renderer.damageRegion.Covers point →
      (renderer.paintedBuffer platform scenes buffer).pixel point =
        (scenes adapter).pixel point) ∧
    (¬renderer.damageRegion.Covers point →
      (renderer.paintedBuffer platform scenes buffer).pixel point = buffer.pixel point) := by
  have hit : ((renderer.damageRegion.rects platform.regionRects).any fun rect =>
      rect.contains point) = true ↔ renderer.damageRegion.Covers point := by
    rw [← TiledRegion.mem_rects platform.regionRects, List.any_eq_true]
    rfl
  simp only [paintedBuffer, attached, Scene.render, eraseRects]
  constructor
  · intro covered
    rw [if_pos (hit.mpr covered)]
  · intro uncovered
    rw [if_neg (fun inside => uncovered (hit.mp inside)),
      if_neg (fun inside => uncovered (hit.mp inside))]

theorem paint_updates_paints (platform : Platform) (scenes : Adapter → Scene)
    (formed : WellFormed renderer) :
    Paints scenes renderer (renderer.paintUpdatesToBuffer platform scenes).1 := by
  let swapped := renderer.swapWorkBuffer platform
  let painted := swapped.setWorkBuffer (swapped.paintedBuffer platform scenes swapped.workBuffer)
  have buffers := swap_work_buffer_buffers renderer platform
  have keptAdapter : swapped.adapter = renderer.adapter := by
    simp only [swapped]
    rw [swap_work_buffer_rest]
  have keptDamage : swapped.damageRegion = renderer.damageRegion := by
    simp only [swapped]
    rw [swap_work_buffer_rest]
  have paintedAdapter : painted.adapter = renderer.adapter := by
    simp only [painted]
    rw [set_work_rest]
    exact keptAdapter
  have paintedDamage : painted.damageRegion = renderer.damageRegion := by
    simp only [painted]
    rw [set_work_rest]
    exact keptDamage
  have work : painted.workBuffer = swapped.paintedBuffer platform scenes renderer.workBuffer := by
    simp only [painted, work_set_work]
    rw [buffers.1]
  have other : painted.otherBuffer = renderer.workBuffer := by
    simp only [painted, other_set_work]
    exact buffers.2
  have sizes : QImage.SameSize painted.workBuffer renderer.workBuffer := by
    rw [work]
    exact painted_buffer_same_size platform scenes renderer.workBuffer
  have pixels := fun adapter (attached : renderer.adapter = some adapter) point =>
    @painted_buffer_pixel Adapter swapped platform scenes adapter (keptAdapter.trans attached)
      renderer.workBuffer point
  have grid : 0 < painted.damageRegion.tileWidth ∧ 0 < painted.damageRegion.tileHeight := by
    rw [paintedDamage]
    exact ⟨formed.wide, formed.high⟩
  exact
    { formed := ⟨other ▸ sizes, grid.1, grid.2⟩
      adapter := paintedAdapter
      other := other
      sameSize := sizes
      drawn := fun adapter attached point covered =>
        (congrArg (fun image => image.pixel point) work).trans
          ((pixels adapter attached point).1 (keptDamage ▸ covered))
      carried := fun adapter attached point uncovered =>
        (congrArg (fun image => image.pixel point) work).trans
          ((pixels adapter attached point).2 (keptDamage ▸ uncovered)) }

/-- Computing the operations changes the state of the move analyzer only. -/
theorem update_buffer_paints (platform : Platform) (scenes : Adapter → Scene)
    (formed : WellFormed renderer) :
    Paints scenes renderer (renderer.updateBufferAndGetUpdateOperations platform scenes).1 := by
  have painted := paint_updates_paints platform scenes formed
  unfold updateBufferAndGetUpdateOperations
  simp only
  split_ifs
  · exact
      { formed := ⟨painted.formed.sameSize, painted.formed.wide, painted.formed.high⟩
        adapter := painted.adapter
        other := painted.other
        sameSize := painted.sameSize
        drawn := painted.drawn
        carried := painted.carried }
  · exact painted

end Slots

/-- After a paint the whole work buffer shows the scene. -/
theorem Paints.current {stage : Stage Adapter} {after : GraphicsSceneBufferRenderer Adapter}
    (paints : Paints stage.scenes stage.renderer after) (current : Current stage)
    {adapter : Adapter} (attached : stage.renderer.adapter = some adapter) {point : QPoint}
    (inside : point ∈ after.workBuffer.rect) :
    after.workBuffer.pixel point = (stage.scenes adapter).pixel point := by
  by_cases covered : stage.renderer.damageRegion.Covers point
  · exact paints.drawn adapter attached point covered
  · rw [paints.carried adapter attached point covered]
    rw [QImage.same_size_rect paints.sameSize] at inside
    exact current adapter attached point inside covered

theorem well_formed_fresh (platform : Platform) {stage : Stage Adapter}
    (fresh : Fresh platform stage) : WellFormed stage.renderer := by
  rw [fresh]
  exact ⟨⟨rfl, rfl⟩, by simp [create, TiledRegion.create], by simp [create, TiledRegion.create]⟩

theorem current_fresh (platform : Platform) {stage : Stage Adapter}
    (fresh : Fresh platform stage) : Current stage := by
  intro adapter attached
  rw [fresh] at attached
  exact absurd attached (by simp [create])

section Steps

variable [DecidableEq Adapter] {platform : Platform} {stage : Stage Adapter}

omit [DecidableEq Adapter] in
theorem well_formed_set_size (formed : WellFormed stage.renderer) (width height : Int) :
    WellFormed (stage.renderer.setSize platform width height).1 := by
  rcases set_size_cases platform formed width height with ⟨_, same⟩ | ⟨sized, _⟩
  · rw [same]
    exact formed
  · exact sized

/-- The stage in which an adapter is set but not yet given its size. -/
def assigned (stage : Stage Adapter) (renderer : GraphicsSceneBufferRenderer Adapter)
    (adapter : Option Adapter) : Stage Adapter :=
  { stage with renderer := { renderer with adapter := adapter } }

omit [DecidableEq Adapter] in
theorem well_formed_assigned {renderer : GraphicsSceneBufferRenderer Adapter}
    (formed : WellFormed renderer) (adapter : Option Adapter) :
    WellFormed (assigned stage renderer adapter).renderer :=
  ⟨formed.sameSize, formed.wide, formed.high⟩

/-- What `setTargetGraphicsSceneAdapter` amounts to: nothing, an adapter taken away,
or the size of a scene given to the buffers left after detaching the old adapter. -/
theorem set_target_cases (adapter : Option Adapter) :
    act platform stage (.setTarget adapter) = stage ∨
    (adapter = none ∧ ∃ renderer, (renderer = stage.renderer ∨ renderer = stage.renderer.sceneDetached) ∧
      act platform stage (.setTarget adapter) = assigned stage renderer none) ∨
    ∃ shown renderer, adapter = some shown ∧
      ((renderer = stage.renderer ∧ stage.renderer.adapter = none) ∨
        renderer = stage.renderer.sceneDetached) ∧
      act platform stage (.setTarget adapter) =
        act platform (assigned stage renderer (some shown))
          (.setSize (stage.scenes shown).width (stage.scenes shown).height) := by
  simp only [act, setTargetGraphicsSceneAdapter]
  split_ifs with changed attached
  · right
    cases adapter with
    | none => exact Or.inl ⟨rfl, _, Or.inr rfl, rfl⟩
    | some shown => exact Or.inr ⟨shown, _, rfl, Or.inr rfl, rfl⟩
  · right
    have bare : stage.renderer.adapter = none := by simpa using attached
    cases adapter with
    | none => exact Or.inl ⟨rfl, _, Or.inl rfl, rfl⟩
    | some shown => exact Or.inr ⟨shown, _, rfl, Or.inl ⟨rfl, bare⟩, rfl⟩
  · exact Or.inl rfl

theorem well_formed_act (formed : WellFormed stage.renderer) (action : StageAction Adapter) :
    WellFormed (act platform stage action).renderer := by
  cases action with
  | changeScene adapter scene rects =>
      simp only [act]
      split_ifs
      · exact (scene_changed_reports formed rects).formed
      · exact formed
  | fullUpdate => exact (well_formed_full_update formed).1
  | setSize width height => exact well_formed_set_size formed width height
  | setTarget adapter =>
      have detached := (well_formed_detached formed).1
      rcases @set_target_cases Adapter _ platform stage adapter with
        same | ⟨_, renderer, origin, same⟩ | ⟨shown, renderer, _, origin, same⟩
      · rw [same]
        exact formed
      · rw [same]
        rcases origin with rfl | rfl
        · exact well_formed_assigned formed none
        · exact well_formed_assigned detached none
      · rw [same]
        rcases origin with ⟨rfl, _⟩ | rfl
        · exact well_formed_set_size (well_formed_assigned formed (some shown)) _ _
        · exact well_formed_set_size (well_formed_assigned detached (some shown)) _ _
  | destroyAdapter =>
      have detached := (well_formed_detached formed).1
      exact ⟨detached.sameSize, detached.wide, detached.high⟩
  | pushFullFrame image =>
      simp only [act, GraphicsSceneBufferRenderer.pushFullFrame]
      split_ifs
      · exact ⟨formed.sameSize, formed.wide, formed.high⟩
      · exact formed
  | setSettings settings => exact ⟨formed.sameSize, formed.wide, formed.high⟩
  | setMinimizeDamageRegion value => exact ⟨formed.sameSize, formed.wide, formed.high⟩
  | paintUpdatesToBuffer => exact (paint_updates_paints platform stage.scenes formed).formed
  | updateBufferAndGetUpdateOperations =>
      exact (update_buffer_paints platform stage.scenes formed).formed

omit [DecidableEq Adapter] in
/-- A slot that leaves adapter, work buffer and damage region leaves the pixels current. -/
theorem current_same {renderer : GraphicsSceneBufferRenderer Adapter} (current : Current stage)
    (adapter : renderer.adapter = stage.renderer.adapter)
    (work : renderer.workBuffer = stage.renderer.workBuffer)
    (damage : renderer.damageRegion = stage.renderer.damageRegion) :
    Current { stage with renderer := renderer } := by
  intro shown attached point inside uncovered
  simp only at attached inside uncovered ⊢
  rw [adapter] at attached
  rw [work] at inside ⊢
  rw [damage] at uncovered
  exact current shown attached point inside uncovered

theorem current_change_scene (formed : WellFormed stage.renderer) (current : Current stage)
    (adapter : Adapter) (scene : Scene) (rects : List QRect)
    (reported : Reported stage (.changeScene adapter scene rects)) :
    Current (act platform stage (.changeScene adapter scene rects)) := by
  simp only [act]
  by_cases shown : stage.renderer.adapter = some adapter
  · rw [if_pos shown]
    have reports := scene_changed_reports formed rects
    intro attachedAdapter attached point inside uncovered
    simp only at attached inside uncovered ⊢
    rw [reports.adapter, shown, Option.some.injEq] at attached
    subst attached
    rw [reports.work] at inside ⊢
    have silent : ¬(stage.renderer.damageRegion.Covers point ∨ ∃ rect ∈ rects, point ∈ rect) :=
      fun covered => uncovered (reports.damaged point inside covered)
    rw [not_or] at silent
    have unchanged : (stage.scenes adapter).pixel point = scene.pixel point := by
      by_contra differs
      exact silent.2 (reported point differs)
    rw [Function.update_self, ← unchanged]
    exact current adapter shown point inside silent.1
  · rw [if_neg shown]
    intro attachedAdapter attached point inside uncovered
    simp only at attached inside uncovered ⊢
    have other : attachedAdapter ≠ adapter := by
      intro same
      exact shown (same ▸ attached)
    rw [Function.update_of_ne other]
    exact current attachedAdapter attached point inside uncovered

theorem current_set_size (formed : WellFormed stage.renderer) (width height : Int)
    (clean : Resizes stage.renderer width height ∨ Current stage) :
    Current (act platform stage (.setSize width height)) := by
  simp only [act]
  rcases set_size_cases platform formed width height with ⟨kept, same⟩ | ⟨_, whole, _⟩
  · rw [same]
    rcases clean with resizes | current
    · exact absurd resizes kept
    · exact current
  · exact whole_damaged_current whole

theorem current_set_target (formed : WellFormed stage.renderer) (current : Current stage)
    (adapter : Option Adapter) (afresh : AttachesAfresh stage (.setTarget adapter)) :
    Current (act platform stage (.setTarget adapter)) := by
  rcases @set_target_cases Adapter _ platform stage adapter with
    same | ⟨_, renderer, _, same⟩ | ⟨shown, renderer, attach, origin, same⟩
  · rw [same]
    exact current
  · rw [same]
    intro shown impossible
    exact absurd impossible (by simp [assigned])
  · subst attach
    rw [same]
    rcases origin with ⟨rfl, bare⟩ | rfl
    · apply current_set_size (well_formed_assigned formed (some shown))
      rcases afresh bare with resizes | whole
      · exact Or.inl resizes
      · exact Or.inr (whole_damaged_current whole)
    · -- the old adapter was detached, so there are no buffers left
      have detached := well_formed_detached formed
      exact current_set_size (well_formed_assigned detached.1 (some shown)) _ _
        (Or.inr (whole_damaged_current detached.2))

omit [DecidableEq Adapter] in
theorem current_painted {after : GraphicsSceneBufferRenderer Adapter} (current : Current stage)
    (paints : Paints stage.scenes stage.renderer after) :
    Current { stage with renderer := after } := by
  intro adapter attached point inside _
  exact paints.current current (paints.adapter ▸ attached) inside

theorem current_act {action : StageAction Adapter} (formed : WellFormed stage.renderer)
    (current : Current stage) (reported : Reported stage action)
    (afresh : AttachesAfresh stage action) : Current (act platform stage action) := by
  cases action with
  | changeScene adapter scene rects =>
      exact current_change_scene formed current adapter scene rects reported
  | fullUpdate => exact whole_damaged_current (well_formed_full_update formed).2
  | setSize width height => exact current_set_size formed width height (Or.inr current)
  | setTarget adapter => exact current_set_target formed current adapter afresh
  | destroyAdapter => exact whole_damaged_current (well_formed_detached formed).2
  | pushFullFrame image =>
      simp only [act, GraphicsSceneBufferRenderer.pushFullFrame]
      split_ifs
      · exact current_same current rfl rfl rfl
      · exact current
  | setSettings settings => exact current_same current rfl rfl rfl
  | setMinimizeDamageRegion value => exact current_same current rfl rfl rfl
  | paintUpdatesToBuffer =>
      exact current_painted current (paint_updates_paints platform stage.scenes formed)
  | updateBufferAndGetUpdateOperations =>
      exact current_painted current (update_buffer_paints platform stage.scenes formed)

end Steps

theorem reach_well_formed [DecidableEq Adapter] {platform : Platform} {stage : Stage Adapter}
    {allowed : Stage Adapter → StageAction Adapter → Prop}
    (reached : Reach (StageStep platform) allowed (Fresh platform) stage) :
    WellFormed stage.renderer := by
  apply reached.invariant
  · intro start fresh
    exact well_formed_fresh platform fresh
  · rintro state action after formed _ ⟨_, rfl⟩
    exact well_formed_act formed action

/-- The work buffer shows the scene outside the damage region, and a paint makes it
show all of it and leaves the old work buffer in the other one. -/
structure ShowsScene [DecidableEq Adapter] (platform : Platform) (stage : Stage Adapter) : Prop where
  current : Current stage
  painted : ∀ adapter,
    (act platform stage .paintUpdatesToBuffer).renderer.adapter = some adapter →
      ∀ point ∈ (act platform stage .paintUpdatesToBuffer).renderer.workBuffer.rect,
        (act platform stage .paintUpdatesToBuffer).renderer.workBuffer.pixel point =
          (stage.scenes adapter).pixel point
  previous : (act platform stage .paintUpdatesToBuffer).renderer.otherBuffer =
    stage.renderer.workBuffer

/-- In every run whose attachments to a bare renderer are afresh, the work buffer
shows the scene. -/
theorem work_buffer_shows_scene [DecidableEq Adapter] (platform : Platform) (stage : Stage Adapter)
    (reached : Reach (StageStep platform) AttachesAfresh (Fresh platform) stage) :
    ShowsScene platform stage := by
  have current : Current stage := by
    have invariant : WellFormed stage.renderer ∧ Current stage := by
      apply reached.invariant
      · intro start fresh
        exact ⟨well_formed_fresh platform fresh, current_fresh platform fresh⟩
      · rintro state action after ⟨formed, current⟩ afresh ⟨reported, rfl⟩
        exact ⟨well_formed_act formed action, current_act formed current reported afresh⟩
    exact invariant.2
  have paints := paint_updates_paints platform stage.scenes (reach_well_formed reached)
  refine ⟨current, ?_, paints.other⟩
  intro adapter attached point inside
  exact paints.current current (paints.adapter ▸ attached) inside

theorem reach_act [DecidableEq Adapter] {platform : Platform} {stage : Stage Adapter}
    {allowed : Stage Adapter → StageAction Adapter → Prop}
    (reached : Reach (StageStep platform) allowed (Fresh platform) stage)
    (action : StageAction Adapter) (permitted : allowed stage action)
    (reported : Reported stage action) :
    Reach (StageStep platform) allowed (Fresh platform) (act platform stage action) :=
  Reach.next reached permitted ⟨reported, rfl⟩

def blackPixel : Scene := ⟨1, 1, fun _ => 0xFF000000⟩

/-- A fresh renderer next to one adapter that shows the black pixel. -/
def bareStage : Stage Unit := ⟨create Platform.reference, fun _ => blackPixel⟩

theorem bare_stage_fresh : Fresh Platform.reference bareStage := rfl

theorem work_buffer_shows_scene_attached :
    ShowsScene Platform.reference
      (act Platform.reference (act Platform.reference bareStage (.setTarget (some ())))
        .paintUpdatesToBuffer) :=
  work_buffer_shows_scene Platform.reference
    (act Platform.reference (act Platform.reference bareStage (.setTarget (some ())))
      .paintUpdatesToBuffer)
    (reach_act
      (reach_act (Reach.start bare_stage_fresh) (.setTarget (some ()))
        (fun _ => Or.inl ⟨by decide, by decide⟩) trivial)
      .paintUpdatesToBuffer trivial trivial)

/-- The buffers get the size of the scene and are painted before the scene is
attached, so the attachment adds no damage. -/
def stalePixelStage : Stage Unit :=
  act Platform.reference
    (act Platform.reference (act Platform.reference bareStage (.setSize 1 1)) .paintUpdatesToBuffer)
    (.setTarget (some ()))

theorem work_buffer_stale_after_attach :
    ¬∀ stage : Stage Unit,
      Reach (StageStep Platform.reference) always (Fresh Platform.reference) stage →
        ShowsScene Platform.reference stage := by
  intro holds
  have reached : Reach (StageStep Platform.reference) always (Fresh Platform.reference)
      stalePixelStage :=
    reach_act
      (reach_act
        (reach_act (Reach.start bare_stage_fresh) (.setSize 1 1) trivial trivial)
        .paintUpdatesToBuffer trivial trivial)
      (.setTarget (some ())) trivial trivial
  have current := (holds stalePixelStage reached).current () rfl ⟨0, 0⟩ (by decide)
  have uncovered : ¬stalePixelStage.renderer.damageRegion.Covers ⟨0, 0⟩ := by
    rintro ⟨rect, member, _⟩
    exact absurd member List.not_mem_nil
  exact absurd (current uncovered) (by decide)

end Viridity.WorkBuffer
