import Viridity.DamageBookkeeping
import Viridity.DisplayDumps
import Viridity.FullUpdate

/-!
# Replaying one frame

The operations of a frame as the iterator paints them on its work buffer. A frame is replayed
when that buffer has the pixels the frame leaves as they are, and moves read pixels that are the
same in both. Its messages are read back when their payloads have no colon.
-/

namespace Viridity.ReplayedFrames

open Viridity.QtRectangle
open Viridity.ImageAux
open Viridity.PaintedCanvas
open Viridity.TileOperations
open Viridity.ImageComparerOpTools
open Viridity.FrameComparison
open Viridity.FrameDifference
open Viridity.OperationParts
open Viridity.FullUpdate
open Viridity.BufferRenderer
open Viridity.WorkBuffer
open Viridity.DamageBookkeeping
open Viridity.SceneDisplay
open Viridity.FrameFlow
open Viridity.TextEncoding
open Viridity.ServerMessages
open Viridity.PatchRequests
open Viridity.DisplayMessageText
open Viridity.PlayerPainting
open Viridity.DisplayDumps
open GraphicsSceneBufferRenderer
open GraphicsSceneDisplay
open UpdateOperationType

set_option autoImplicit false

variable {Adapter : Type}

/-- What a renderer makes of its work buffer: the operations lead from the image before to the
image after. -/
structure FrameRepairs (before after : QImage) (ops : List UpdateOperation) : Prop where
  sameSize : QImage.SameSize before after
  repairs : Repairs before after (fun _ => True) ops
  inPlace : InPlace ops
  drawing : ∀ op ∈ ops, DrawsPixels op

section Renderer

variable {platform : Platform} {scenes : Adapter → Scene}
  {renderer : GraphicsSceneBufferRenderer Adapter}

theorem update_buffer_frame (formed : WellFormed renderer)
    (tileable : renderer.comparer.settings.Tileable) :
    FrameRepairs renderer.workBuffer
      (renderer.updateBufferAndGetUpdateOperations platform scenes).1.workBuffer
      (renderer.updateBufferAndGetUpdateOperations platform scenes).2 := by
  have paints := paint_updates_paints platform scenes formed
  have rest := @paint_updates_rest Adapter platform scenes renderer
  have rects := @paint_updates_rects Adapter platform scenes renderer
  have settings : (renderer.paintUpdatesToBuffer platform scenes).1.comparer.settings =
      renderer.comparer.settings := by
    rw [rest.1, ImageComparer.swap_settings]
  have sizes : QImage.SameSize renderer.workBuffer
      (renderer.paintUpdatesToBuffer platform scenes).1.workBuffer :=
    ⟨paints.sameSize.1.symm, paints.sameSize.2.symm⟩
  have work : (renderer.updateBufferAndGetUpdateOperations platform scenes).1.workBuffer =
      (renderer.paintUpdatesToBuffer platform scenes).1.workBuffer := by
    unfold updateBufferAndGetUpdateOperations
    dsimp only
    split_ifs
    · rfl
    · rfl
  have unchanged : (renderer.paintUpdatesToBuffer platform scenes).1.workBuffer =
      renderer.workBuffer → ∀ ops, ops = [] → Repairs renderer.workBuffer
        (renderer.paintUpdatesToBuffer platform scenes).1.workBuffer (fun _ => True) ops := by
    intro same ops empty
    rw [empty, same]
    exact Repairs.none _ _ fun _ _ _ => rfl
  rw [work]
  unfold updateBufferAndGetUpdateOperations
  dsimp only
  rw [paints.other] at rects ⊢
  split_ifs with minimized
  · have hold : ∀ {holds : UpdateOperation → Prop},
        HoldsOfParts (renderer.paintUpdatesToBuffer platform scenes).1.comparer renderer.workBuffer
          (renderer.paintUpdatesToBuffer platform scenes).1.workBuffer holds →
        ∀ op ∈ (updateOperationsOfRects platform.regionRects platform.mappedReduced
          (renderer.paintUpdatesToBuffer platform scenes).1.comparer renderer.workBuffer
          (renderer.paintUpdatesToBuffer platform scenes).1.workBuffer
          (renderer.paintUpdatesToBuffer platform scenes).2
          (renderer.paintUpdatesToBuffer platform scenes).2
          (renderer.paintUpdatesToBuffer platform scenes).1.comparer.search).1, holds op :=
      fun parts => update_operations_hold parts platform.regionRects platform.mappedReduced
        (settings ▸ tileable) _ _ _
    refine ⟨sizes, ?_, in_place_optimize platform.regionRects (hold drawn_in_place_parts),
      draws_pixels_optimize platform.regionRects (hold draws_pixels_parts)⟩
    rcases rects with compared | ⟨nothing, same⟩
    · rw [compared, ← settings]
      exact frame_operations_repair platform.regionRects platform.mappedReduced sizes
        (settings ▸ tileable)
    · rw [nothing]
      exact (unchanged same _ rfl).congr (draws_optimize_update_operations platform.regionRects _)
  · refine ⟨sizes, ?_, in_place_rect_operations _, ?_⟩
    · rcases rects with compared | ⟨nothing, same⟩
      · rw [compared]
        exact rect_operations_repair sizes platform.regionRects tileable.1
      · rw [nothing]
        exact unchanged same _ rfl
    · intro op member _
      obtain ⟨rect, marked, same⟩ := List.mem_map.mp member
      rw [← same]
      rcases rects with compared | ⟨nothing, _⟩
      · rw [compared] at marked
        exact TiledRegion.rects_filled platform.regionRects _ rect marked
      · rw [nothing] at marked
        exact absurd marked List.not_mem_nil

end Renderer

/-- What the iterator paints for an operation of the renderer. -/
def paintedOperation (codec : PatchCodec) (createPatch : QRect → GraphicsSceneFramePatch)
    (imageBefore : QImage) (op : UpdateOperation) : Option (Patch QPoint QRgb) :=
  match op.type with
  | uotUpdate =>
      some (drawPatch codec (createPatch op.srcRect).data (createPatch op.srcRect).packedAlpha
        op.srcRect.x1 op.srcRect.y1 op.srcRect.width op.srcRect.height
        (createPatch op.srcRect).artefactMargin)
  | uotMove =>
      some (drawImagePart imageBefore op.dstPoint.x op.dstPoint.y op.srcRect.x1 op.srcRect.y1
        op.srcRect.width op.srcRect.height)
  | uotFill =>
      some (fillRect op.srcRect.x1 op.srcRect.y1 op.srcRect.width op.srcRect.height op.fillColor)
  | uotNoOp => none

/-- A pixel that a move may read: it is the same in both images, or in neither of them. -/
def ReadsAlike (before shown : QImage) (source : QPoint) : Prop :=
  (source ∈ before.rect ↔ source ∈ shown.rect) ∧
    (source ∈ before.rect → shown.pixel source = before.pixel source)

/-- A frame leaves no pixel as it is that the work buffer of the iterator, in the size of the
frame, lacks; and its moves read the same pixels in both buffers. -/
structure StartsAlike (before after shown : QImage) (ops : List UpdateOperation) : Prop where
  unchanged : ∀ point ∈ before.rect, before.pixel point = after.pixel point →
    (GraphicsSceneDisplayDumpIterator.resized shown before.width before.height).pixel point =
      after.pixel point
  moves : ∀ op ∈ ops, op.type = uotMove → ∀ point ∈ before.rect, point ∈ op.dstRect →
    ReadsAlike before shown (point.add op.moveVector)

/-- An image with pixels, or the null image. -/
def ProperSize (image : QImage) : Prop := image.width = 0 ↔ image.height = 0

section Painting

variable {before after shown : QImage} {ops : List UpdateOperation} {point : QPoint}

theorem resized_size (proper : ProperSize before) :
    QImage.SameSize (GraphicsSceneDisplayDumpIterator.resized shown before.width before.height)
      before := by
  unfold ProperSize at proper
  unfold GraphicsSceneDisplayDumpIterator.resized
  split_ifs with changes
  · unfold painted blankImage
    split_ifs with filled
    · exact ⟨Int.toNat_natCast _, Int.toNat_natCast _⟩
    · exact ⟨show 0 = before.width by omega, show 0 = before.height by omega⟩
  · exact ⟨by omega, by omega⟩

/-- Within its old size the resized work buffer shows what it had, and nothing elsewhere. -/
theorem resized_pixel (inside : point ∈ before.rect) :
    (GraphicsSceneDisplayDumpIterator.resized shown before.width before.height).pixel point =
      if point ∈ shown.rect then shown.pixel point else 0 := by
  rw [QImage.mem_rect] at inside
  unfold GraphicsSceneDisplayDumpIterator.resized
  by_cases changes : (before.width : Int) ≠ shown.width ∨ (before.height : Int) ≠ shown.height
  · have blank : blankImage before.width before.height = ⟨before.width, before.height, fun _ => 0⟩ := by
      unfold blankImage
      rw [if_pos (by omega), Int.toNat_natCast, Int.toNat_natCast]
    rw [if_pos changes]
    unfold painted paint
    dsimp only
    by_cases old : point ∈ shown.rect
    · rw [if_pos old, if_pos]
      · unfold drawImage drawImagePart
        simp only [Int.sub_zero, Int.add_zero]
      · rw [draw_image_covers]
        simp only [Int.sub_zero, Int.add_zero]
        exact ⟨by omega, by omega, old⟩
    · rw [if_neg old, if_neg, blank]
      rw [draw_image_covers]
      simp only [Int.sub_zero, Int.add_zero]
      exact fun covered => old covered.2.2
  · have old : point ∈ shown.rect := by
      rw [QImage.mem_rect]
      omega
    rw [if_neg changes, if_pos old]

theorem resized_same {other : QImage} (same : QImage.SamePixels other shown)
    (inside : point ∈ before.rect) :
    (GraphicsSceneDisplayDumpIterator.resized other before.width before.height).pixel point =
      (GraphicsSceneDisplayDumpIterator.resized shown before.width before.height).pixel point := by
  have rects := QImage.same_size_rect same.1
  rw [resized_pixel inside, resized_pixel inside, ← rects]
  split_ifs with old
  · exact same.2 point old
  · rfl

variable {codec : PatchCodec} {settings : EncoderSettings}
  {createPatch : EncoderSettings → QImage → QRect → GraphicsSceneFramePatch}

/-- An operation of a frame draws where it has a visible stroke, and the colour of the frame. -/
theorem operation_painted (lossless : Lossless createPatch codec)
    (frame : FrameRepairs before after ops) (alike : StartsAlike before after shown ops)
    (alphaKept : ∀ op ∈ ops, op.type = uotUpdate →
      AlphaKept settings after op.srcRect (createPatch settings after op.srcRect).artefactMargin)
    {op : UpdateOperation} (member : op ∈ ops) {imageBefore : QImage}
    (same : QImage.SamePixels imageBefore shown) {patch : Patch QPoint QRgb}
    (made : paintedOperation codec (createPatch settings after) imageBefore op = some patch)
    (inside : point ∈ before.rect) :
    (patch.covers point = true → patch.colour point = after.pixel point) ∧
      ((∃ stroke, op.strokeAt point = some stroke ∧ stroke.visible before = true) →
        patch.covers point = true) := by
  have sound := fun stroke (drawn : op.strokeAt point = some stroke) =>
    frame.repairs.sound point inside stroke ⟨op, member, drawn⟩
  have rects := QImage.same_size_rect frame.sameSize
  have drawing := frame.drawing op member
  unfold paintedOperation at made
  cases kind : op.type with
  | uotUpdate =>
      rw [kind] at made
      rw [← Option.some.inj made]
      have filled := drawing (by rw [kind]; decide)
      have drawn := lossless_patch_drawn lossless filled (alphaKept op member kind)
      constructor
      · exact drawn.2 point (rects ▸ inside)
      · rintro ⟨stroke, hit, _⟩
        rw [update_stroke kind (frame.inPlace op member kind)] at hit
        exact drawn.1 point hit.1
  | uotMove =>
      rw [kind] at made
      rw [← Option.some.inj made]
      have filled := QRect.not_is_empty_iff_extent.mp (drawing (by rw [kind]; decide))
      have source : (⟨point.x - op.dstPoint.x + op.srcRect.x1,
          point.y - op.dstPoint.y + op.srcRect.y1⟩ : QPoint) = point.add op.moveVector := by
        apply QPoint.ext_coordinates
        · simp only [QPoint.add, UpdateOperation.moveVector, QPoint.sub, QRect.topLeft]
          omega
        · simp only [QPoint.add, UpdateOperation.moveVector, QPoint.sub, QRect.topLeft]
          omega
      have covers : (drawImagePart imageBefore op.dstPoint.x op.dstPoint.y op.srcRect.x1 op.srcRect.y1
          op.srcRect.width op.srcRect.height).covers point = true ↔
          point ∈ op.dstRect ∧ point.add op.moveVector ∈ imageBefore.rect := by
        rw [draw_part_covers filled.1 filled.2, source]
        rfl
      have shownRect := QImage.same_size_rect same.1
      constructor
      · intro covered
        obtain ⟨target, read⟩ := covers.mp covered
        have stroke : op.strokeAt point = some (.fromBefore (point.add op.moveVector)) := by
          simp only [UpdateOperation.strokeAt, kind]
          rw [if_pos target]
        have alikeThere := alike.moves op member kind point inside target
        have inBefore : point.add op.moveVector ∈ before.rect :=
          alikeThere.1.mpr (shownRect ▸ read)
        have colour := (sound _ stroke).colour (QRect.contains_iff.mpr inBefore)
        change imageBefore.pixel ⟨point.x - op.dstPoint.x + op.srcRect.x1,
          point.y - op.dstPoint.y + op.srcRect.y1⟩ = after.pixel point
        rw [source, same.2 _ read, alikeThere.2 inBefore]
        exact colour
      · rintro ⟨stroke, hit, visible⟩
        simp only [UpdateOperation.strokeAt, kind] at hit
        split_ifs at hit with target
        rw [← Option.some.inj hit] at visible
        have alikeThere := alike.moves op member kind point inside target
        apply covers.mpr
        refine ⟨target, ?_⟩
        rw [shownRect]
        exact alikeThere.1.mp (QRect.contains_iff.mp visible)
  | uotFill =>
      rw [kind] at made
      rw [← Option.some.inj made]
      have covers : (fillRect op.srcRect.x1 op.srcRect.y1 op.srcRect.width op.srcRect.height
          op.fillColor).covers point = true ↔ point ∈ op.srcRect := by
        change point ∈ QRect.ofSize op.srcRect.x1 op.srcRect.y1 op.srcRect.width op.srcRect.height ↔ _
        rw [QRect.mem_of_size, QRect.mem_iff]
        unfold QRect.width QRect.height
        omega
      constructor
      · intro covered
        have stroke : op.strokeAt point = some (.solid op.fillColor) :=
          (fill_stroke kind point _).mpr ⟨covers.mp covered, rfl⟩
        exact (sound _ stroke).colour rfl
      · rintro ⟨stroke, hit, _⟩
        rw [fill_stroke kind] at hit
        exact covers.mpr hit.1
  | uotNoOp =>
      rw [kind] at made
      cases made

theorem operations_painted (lossless : Lossless createPatch codec)
    (frame : FrameRepairs before after ops) (alike : StartsAlike before after shown ops)
    (alphaKept : ∀ op ∈ ops, op.type = uotUpdate →
      AlphaKept settings after op.srcRect (createPatch settings after op.srcRect).artefactMargin)
    {imageBefore : QImage} (same : QImage.SamePixels imageBefore shown)
    (inside : point ∈ before.rect) :
    paintAll (GraphicsSceneDisplayDumpIterator.resized imageBefore before.width before.height).pixel
        (ops.filterMap (paintedOperation codec (createPatch settings after) imageBefore)) point =
      after.pixel point := by
  have painted := fun {op : UpdateOperation} (member : op ∈ ops) {patch : Patch QPoint QRgb} made =>
    @operation_painted before after shown ops point codec settings createPatch lossless frame alike
      alphaKept op member imageBefore same patch made inside
  -- a stroke that shows is painted by the iterator as well
  have covered : (∃ stroke, Draws ops point stroke ∧ stroke.visible before = true) →
      ∃ patch ∈ ops.filterMap (paintedOperation codec (createPatch settings after) imageBefore),
        patch.covers point = true := by
    rintro ⟨stroke, ⟨op, member, hit⟩, visible⟩
    cases made : paintedOperation codec (createPatch settings after) imageBefore op with
    | some patch =>
        exact ⟨patch, List.mem_filterMap.mpr ⟨op, member, made⟩,
          (painted member made).2 ⟨stroke, hit, visible⟩⟩
    | none =>
        unfold paintedOperation at made
        cases kind : op.type with
        | uotNoOp => simp [UpdateOperation.strokeAt, kind] at hit
        | uotUpdate => simp [kind] at made
        | uotMove => simp [kind] at made
        | uotFill => simp [kind] at made
  apply paint_all_target
  · intro patch member
    obtain ⟨op, opMember, made⟩ := List.mem_filterMap.mp member
    exact (painted opMember made).1
  · by_cases differs : before.pixel point = after.pixel point
    · left
      rw [resized_same same inside]
      exact alike.unchanged point inside differs
    · right
      exact covered (frame.repairs.complete point inside trivial differs)

end Painting

section Messages

variable {decoder : Decoder} {codec : PatchCodec} {createPatch : QRect → GraphicsSceneFramePatch}
variable {settings : EncoderSettings} {returnBinary : Bool} {displayId : String} {frame : Nat}
variable {imageBefore : QImage} {fetched : String → Bytes}

/-- The types of patches name what they are; what is added to them tells how to read the data. -/
theorem announced_type_read {patch : GraphicsSceneFramePatch}
    (type : patch.mimeType ∈ ["image/png", "image/jpeg", "image/bmp"]) :
    decide (qString ";pa" <:+: qString (announcedType settings returnBinary patch)) =
        patch.packedAlpha ∧
      (qString ";base64" <:+: qString (announcedType settings returnBinary patch) ↔
        (isInline settings patch && !returnBinary) = true) ∧
      PlainType (announcedType settings returnBinary patch) := by
  have cases : ∀ mimeType ∈ ["image/png", "image/jpeg", "image/bmp"], ∀ packed encoded : Bool,
      let announced := if encoded then (mimeType ++ if packed then ";pa" else "") ++ ";base64"
        else mimeType ++ if packed then ";pa" else ""
      decide (qString ";pa" <:+: qString announced) = packed ∧
        (qString ";base64" <:+: qString announced ↔ encoded = true) ∧
        (announced.toList.all fun letter => decide (ParamLetter letter)) = true := by
    decide
  have read := cases _ type patch.packedAlpha (isInline settings patch && !returnBinary)
  exact ⟨read.1, read.2.1, List.all_iff_forall_prop.mp read.2.2⟩

/-- The payload of an update is found whole: a colon ends one that stands there as it is, and an
identifier must survive as a `QString`. -/
def ReadsPayload (settings : EncoderSettings) (returnBinary : Bool) (displayId : String)
    (patch : GraphicsSceneFramePatch) : Prop :=
  if isInline settings patch then returnBinary = true → utf8.unit ':' ∉ patch.data
  else ':' ∉ displayId.toList ∧ kept displayId.toList = displayId.toList

theorem patch_id_readable (colonless : ':' ∉ displayId.toList)
    (whole : kept displayId.toList = displayId.toList) (index : Nat) :
    ':' ∉ (patchId displayId frame index).toList ∧
      kept (patchId displayId frame index).toList = (patchId displayId frame index).toList := by
  obtain ⟨tail, parts, letters⟩ := @patch_id_parts displayId frame index
  have other : ∀ letter ∈ '_' :: tail, letter ≠ ':' ∧ letter ≠ zero := by
    intro letter member
    rcases List.mem_cons.mp member with separator | late
    · rw [separator]
      decide
    · constructor
      · rintro rfl
        exact absurd (letters _ late) (by decide)
      · rintro rfl
        exact absurd (letters _ late) (by decide)
  rw [kept_iff] at whole
  rw [parts, kept_iff, List.mem_append, List.mem_append]
  refine ⟨?_, ?_, ?_⟩
  · rintro (named | behind)
    · exact colonless named
    · exact (other _ behind).1 rfl
  · rintro (named | behind)
    · exact whole.1 named
    · exact (other _ behind).2 rfl
  · cases name : displayId.toList with
    | nil =>
        rw [List.nil_append, List.head?_cons]
        decide
    | cons letter rest =>
        rw [name] at whole
        exact whole.2

theorem messages_readable {ops : List UpdateOperation}
    (updates : ∀ op ∈ ops, op.type = uotUpdate →
      (createPatch op.srcRect).mimeType ∈ ["image/png", "image/jpeg", "image/bmp"] ∧
        ReadsPayload settings returnBinary displayId (createPatch op.srcRect)) (index : Nat) :
    ∀ message ∈ (operationMessages createPatch settings returnBinary displayId frame index ops).1,
      ReadableMessage message := by
  induction ops generalizing index with
  | nil =>
      intro message member
      exact absurd member List.not_mem_nil
  | cons op ops induction =>
      have remaining := induction (fun other member => updates other (List.mem_cons_of_mem _ member))
        (index + 1)
      cases kind : op.type with
      | uotUpdate =>
          obtain ⟨type, reads⟩ := updates op List.mem_cons_self kind
          have announced := @announced_type_read settings returnBinary _ type
          unfold ReadsPayload at reads
          simp only [operationMessages, kind]
          split_ifs with inlined
          · rw [if_pos inlined] at reads
            rw [inlined, Bool.true_and] at announced
            intro message member
            rcases List.mem_cons.mp member with same | later
            · rw [same]
              exact ⟨announced.2.2, announced.2.1, fun raw => reads (by simpa using raw)⟩
            · exact remaining message later
          · rw [if_neg inlined] at reads
            have readable := @patch_id_readable displayId frame reads.1 reads.2 index
            intro message member
            rcases List.mem_cons.mp member with same | later
            · rw [same]
              exact ⟨announced.2.2, readable.1, readable.2⟩
            · exact remaining message later
      | uotMove => simpa [operationMessages, kind, ReadableMessage] using remaining
      | uotFill => simpa [operationMessages, kind, ReadableMessage] using remaining
      | uotNoOp => simpa [operationMessages, kind] using remaining

theorem messages_intended {ops : List UpdateOperation}
    (types : ∀ op ∈ ops, op.type = uotUpdate →
      (createPatch op.srcRect).mimeType ∈ ["image/png", "image/jpeg", "image/bmp"]) (index : Nat)
    (stored : ∀ patch ∈
      (operationMessages createPatch settings returnBinary displayId frame index ops).2,
        fetched patch.id = patch.data) :
    (operationMessages createPatch settings returnBinary displayId frame index ops).1.filterMap
        (intendedOperation codec fetched imageBefore) =
      ops.filterMap (paintedOperation codec createPatch imageBefore) := by
  induction ops generalizing index with
  | nil => rfl
  | cons op ops induction =>
      have remaining := induction (fun other member => types other (List.mem_cons_of_mem _ member))
        (index + 1)
      cases kind : op.type with
      | uotUpdate =>
          have announced := (@announced_type_read settings returnBinary _
            (types op List.mem_cons_self kind)).1
          simp only [operationMessages, kind] at stored ⊢
          split_ifs at stored ⊢ with inlined
          · have later := remaining stored
            simp only [List.filterMap_cons, intendedOperation, paintedOperation, kind, announced,
              payloadData, later]
          · have named := stored _ List.mem_cons_self
            have later := remaining fun patch member => stored patch (List.mem_cons_of_mem _ member)
            simp only [List.filterMap_cons, intendedOperation, paintedOperation, kind, announced,
              payloadData, later]
            rw [named]
      | uotMove =>
          simp only [operationMessages, kind] at stored ⊢
          simp only [List.filterMap_cons, intendedOperation, paintedOperation, kind,
            remaining stored]
      | uotFill =>
          simp only [operationMessages, kind] at stored ⊢
          simp only [List.filterMap_cons, intendedOperation, paintedOperation, kind,
            remaining stored]
      | uotNoOp =>
          simp only [operationMessages, kind] at stored ⊢
          simp only [List.filterMap_cons, paintedOperation, kind, remaining stored]

end Messages

section Stored

theorem patch_value_of_mem {entries : List (Units × Bytes)}
    (distinct : (entries.map Prod.fst).Nodup) {entry : Units × Bytes} (member : entry ∈ entries) :
    patchValue entries entry.1 = entry.2 := by
  induction entries with
  | nil => exact absurd member List.not_mem_nil
  | cons first entries induction =>
      rw [List.map_cons, List.nodup_cons] at distinct
      unfold patchValue
      rcases List.mem_cons.mp member with same | later
      · rw [same, List.find?_cons_of_pos (by rw [decide_eq_true_iff])]
        rfl
      · have other : first.1 ≠ entry.1 := by
          intro same
          exact distinct.1 (same ▸ List.mem_map_of_mem later)
        rw [List.find?_cons_of_neg (by rw [decide_eq_true_iff]; exact other)]
        exact induction distinct.2 later

theorem insert_patches_distinct {patches : List GraphicsSceneFramePatch}
    (added : List GraphicsSceneFramePatch)
    (distinct : (patches.map GraphicsSceneFramePatch.id).Nodup) :
    ((added.foldl insertPatch patches).map GraphicsSceneFramePatch.id).Nodup := by
  induction added generalizing patches with
  | nil => exact distinct
  | cons patch added induction =>
      rw [List.foldl_cons]
      apply induction
      unfold insertPatch
      rw [List.map_append, List.nodup_append]
      refine ⟨distinct.sublist (List.filter_sublist.map _), List.nodup_singleton _, ?_⟩
      intro first firstMember second secondMember same
      obtain ⟨other, filtered, named⟩ := List.mem_map.mp firstMember
      have differs := (List.mem_filter.mp filtered).2
      rw [List.map_singleton, List.mem_singleton] at secondMember
      rw [named, same, secondMember] at differs
      simp at differs

/-- The iterator finds every patch of a frame, whatever the order of the hash. -/
theorem stored_found {added patches stored : List GraphicsSceneFramePatch}
    (addedDistinct : (added.map GraphicsSceneFramePatch.id).Nodup)
    (distinct : (patches.map GraphicsSceneFramePatch.id).Nodup)
    (hash : stored.Perm (added.foldl insertPatch patches)) {patch : GraphicsSceneFramePatch}
    (member : patch ∈ added) :
    patchValue (stored.map storedEntry).reverse (qString patch.id) = patch.data := by
  have inside : patch ∈ stored :=
    hash.mem_iff.mpr (List.mem_of_find?_eq_some (find_inserted addedDistinct member))
  have names : ((stored.map storedEntry).reverse.map Prod.fst).Nodup := by
    rw [List.map_reverse, List.nodup_reverse, List.map_map]
    have ids := ((hash.map GraphicsSceneFramePatch.id).nodup_iff.mpr
      (insert_patches_distinct added distinct)).map_on (f := qString)
        (fun _ _ _ _ same => q_string_injective same)
    rw [List.map_map] at ids
    exact ids
  exact patch_value_of_mem names
    (List.mem_reverse.mpr (List.mem_map_of_mem (f := storedEntry) inside))

end Stored

def nextOperations (platform : Platform) (stage : Stage Adapter) : List UpdateOperation :=
  (stage.renderer.updateBufferAndGetUpdateOperations platform stage.scenes).2

/-- A frame whose messages lead the iterator to the buffer: they are found behind the name of the
display with payloads that are read whole, no alpha channel is dropped from pixels that need it,
and the frame builds on the one recorded last. -/
structure FrameReplayable (platform : DisplayPlatform) (scenes : Adapter → Scene)
    (returnBinary : Bool) (display : GraphicsSceneDisplay Adapter) (shown : QImage) : Prop where
  named : display.fullUpdateRequested = true ∨
    nextOperations platform.toPlatform ⟨display.renderer, scenes⟩ ≠ [] → '>' ∉ display.id.toList
  updates : ∀ op ∈ nextOperations platform.toPlatform ⟨display.renderer, scenes⟩,
    op.type = uotUpdate →
      let buffer := nextFrame platform.toPlatform ⟨display.renderer, scenes⟩
      let patch := platform.createPatch display.encoderSettings buffer op.srcRect
      AlphaKept display.encoderSettings buffer op.srcRect patch.artefactMargin ∧
        ReadsPayload display.encoderSettings returnBinary display.id patch
  alike : StartsAlike display.renderer.workBuffer
    (nextFrame platform.toPlatform ⟨display.renderer, scenes⟩) shown
    (nextOperations platform.toPlatform ⟨display.renderer, scenes⟩)

section Frames

open GraphicsSceneDisplayDumpIterator

variable {platform : DisplayPlatform} {scenes : Adapter → Scene} {returnBinary : Bool}
  {display after : GraphicsSceneDisplay Adapter} {ops : List UpdateOperation}
  {messages : List DisplayMessage} {codec : PatchCodec} {decoder : Decoder}

theorem taken_work_buffer (takes : TakesFrame platform scenes returnBinary display after ops messages) :
    after.renderer.workBuffer = nextFrame platform.toPlatform ⟨display.renderer, scenes⟩ := by
  rw [takes.renderer]
  exact (update_buffer_rest ⟨display.renderer, scenes⟩).2.2

theorem taken_operations (takes : TakesFrame platform scenes returnBinary display after ops messages) :
    ops = nextOperations platform.toPlatform ⟨display.renderer, scenes⟩ := takes.operations

theorem taken_patch_types (lossless : Lossless platform.createPatch codec)
    (formed : WellFormed display.renderer)
    (tileable : display.renderer.comparer.settings.Tileable)
    (takes : TakesFrame platform scenes returnBinary display after ops messages) {shown : QImage}
    (replayable : FrameReplayable platform scenes returnBinary display shown) :
    ∀ op ∈ ops, op.type = uotUpdate →
      (platform.createPatch display.encoderSettings after.renderer.workBuffer
        op.srcRect).mimeType ∈ ["image/png", "image/jpeg", "image/bmp"] := by
  have frame := @update_buffer_frame Adapter platform.toPlatform scenes _ formed tileable
  intro op member kind
  have operation : op ∈ nextOperations platform.toPlatform ⟨display.renderer, scenes⟩ := by
    rw [← taken_operations takes]
    exact member
  rw [taken_work_buffer takes]
  have filled := frame.drawing op operation (by rw [kind]; decide)
  exact (lossless.patches _ _ _ filled (replayable.updates op operation kind).1).type

theorem taken_messages_readable (lossless : Lossless platform.createPatch codec)
    (formed : WellFormed display.renderer)
    (tileable : display.renderer.comparer.settings.Tileable)
    (takes : TakesFrame platform scenes returnBinary display after ops messages) {shown : QImage}
    (replayable : FrameReplayable platform scenes returnBinary display shown) :
    ∀ message ∈ messages, '>' ∉ display.id.toList ∧ ReadableMessage message := by
  have types := taken_patch_types lossless formed tileable takes replayable
  have payloads := @messages_readable
    (platform.createPatch display.encoderSettings after.renderer.workBuffer)
    display.encoderSettings returnBinary display.id after.frame ops (fun op member kind =>
      ⟨types op member kind, by
        rw [taken_operations takes] at member
        rw [taken_work_buffer takes]
        exact (replayable.updates op member kind).2⟩) 0
  intro message member
  rw [takes.sent] at member
  constructor
  · apply replayable.named
    rw [← taken_operations takes]
    by_contra silent
    rw [not_or, not_not] at silent
    rw [silent.2, if_neg silent.1] at member
    exact absurd member List.not_mem_nil
  · rcases List.mem_append.mp member with early | last
    · rcases List.mem_append.mp early with first | among
      · split_ifs at first
        · rw [List.mem_singleton.mp first]
          trivial
        · exact absurd first List.not_mem_nil
      · exact payloads message among
    · split_ifs at last
      · exact absurd last List.not_mem_nil
      · rw [List.mem_singleton.mp last]
        trivial

/-- The messages of a frame do for the iterator what its operations do. -/
theorem taken_messages_read (lossless : Lossless platform.createPatch codec)
    (reads : ReadsAscii decoder) (formed : WellFormed display.renderer)
    (tileable : display.renderer.comparer.settings.Tileable)
    (distinct : (display.patches.map GraphicsSceneFramePatch.id).Nodup)
    (takes : TakesFrame platform scenes returnBinary display after ops messages) {shown : QImage}
    (replayable : FrameReplayable platform scenes returnBinary display shown)
    {stored : List GraphicsSceneFramePatch} (hash : stored.Perm after.patches)
    (imageBefore : QImage) :
    (messages.map (messageBytes decoder display.id)).filterMap
        (messageOperation codec decoder (stored.map storedEntry).reverse imageBefore) =
      ops.filterMap (paintedOperation codec
        (platform.createPatch display.encoderSettings after.renderer.workBuffer) imageBefore) := by
  have types := taken_patch_types lossless formed tileable takes replayable
  have readable := taken_messages_readable lossless formed tileable takes replayable
  have patches : after.patches = (operationMessages
      (platform.createPatch display.encoderSettings after.renderer.workBuffer)
      display.encoderSettings returnBinary display.id after.frame 0 ops).2.foldl insertPatch
        display.patches :=
    (congrArg GraphicsSceneDisplay.patches takes.same).trans rfl
  have ids := operation_messages_ids
    (platform.createPatch display.encoderSettings after.renderer.workBuffer)
    display.encoderSettings returnBinary display.id after.frame 0 ops
  have intended := @messages_intended codec
    (platform.createPatch display.encoderSettings after.renderer.workBuffer)
    display.encoderSettings returnBinary display.id after.frame imageBefore
    (fun patchId => patchValue (stored.map storedEntry).reverse (qString patchId)) ops types 0
    fun patch member => stored_found ids.2 distinct (patches ▸ hash) member
  have read : ∀ message ∈ messages,
      (messageOperation codec decoder (stored.map storedEntry).reverse imageBefore ∘
          messageBytes decoder display.id) message =
        intendedOperation codec
          (fun patchId => patchValue (stored.map storedEntry).reverse (qString patchId))
          imageBefore message := fun message member =>
    message_operation reads (readable message member).1 (readable message member).2 _ _
  -- the messages around the operations paint nothing
  have start : ∀ fetched : String → Bytes,
      (if display.fullUpdateRequested then [DisplayMessage.fullUpdate after.frame] else []).filterMap
        (intendedOperation codec fetched imageBefore) = [] := by
    intro fetched
    split_ifs
    · rfl
    · rfl
  have ending : ∀ fetched : String → Bytes,
      (if ops = [] then [] else [DisplayMessage.frameEnd after.frame]).filterMap
        (intendedOperation codec fetched imageBefore) = [] := by
    intro fetched
    split_ifs
    · rfl
    · rfl
  rw [List.filterMap_map, List.filterMap_congr read, takes.sent, List.filterMap_append,
    List.filterMap_append, start, ending, intended, List.append_nil, List.nil_append]

/-- The iterator shows the frame that was recorded. -/
theorem taken_frame_shown (lossless : Lossless platform.createPatch codec)
    (reads : ReadsAscii decoder) (formed : WellFormed display.renderer)
    (tileable : display.renderer.comparer.settings.Tileable)
    (proper : ProperSize display.renderer.workBuffer)
    (distinct : (display.patches.map GraphicsSceneFramePatch.id).Nodup)
    (takes : TakesFrame platform scenes returnBinary display after ops messages) {shown : QImage}
    (replayable : FrameReplayable platform scenes returnBinary display shown)
    {stored : List GraphicsSceneFramePatch} (hash : stored.Perm after.patches)
    {imageBefore : QImage} (same : QImage.SamePixels imageBefore shown) :
    QImage.SamePixels
      (shownFrame codec decoder imageBefore after.renderer.workBuffer.width
        after.renderer.workBuffer.height (messages.map (messageBytes decoder display.id))
        (stored.map storedEntry).reverse)
      after.renderer.workBuffer := by
  have messagesRead := taken_messages_read lossless reads formed tileable distinct takes replayable
    hash imageBefore
  have work := taken_work_buffer takes
  have operations := taken_operations takes
  have frame := @update_buffer_frame Adapter platform.toPlatform scenes _ formed tileable
  rw [← takes.renderer, ← takes.operations] at frame
  have sizes := frame.sameSize
  have alike := replayable.alike
  rw [← work, ← operations] at alike
  have resizedSize := @resized_size display.renderer.workBuffer imageBefore proper
  have painted := fun {point : QPoint} (inside : point ∈ display.renderer.workBuffer.rect) =>
    @operations_painted display.renderer.workBuffer after.renderer.workBuffer shown ops point codec
      display.encoderSettings platform.createPatch lossless frame alike (fun op member kind => by
        rw [work]
        rw [operations] at member
        exact (replayable.updates op member kind).1) imageBefore same inside
  rw [← sizes.1, ← sizes.2]
  constructor
  · exact ⟨resizedSize.1.trans sizes.1, resizedSize.2.trans sizes.2⟩
  · intro point inside
    have within : point ∈ display.renderer.workBuffer.rect := by
      rw [← QImage.same_size_rect resizedSize]
      exact inside
    rw [← painted within]
    unfold shownFrame
    rw [messagesRead]

end Frames

end Viridity.ReplayedFrames
