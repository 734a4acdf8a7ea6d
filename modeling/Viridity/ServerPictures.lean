import Viridity.CanvasPainting
import Viridity.DisplayProtocol
import Viridity.MoveSources

/-!
# What a display sends of its pictures

The work buffer is the picture a display takes its client to know, as far as it is not 0. Each
frame leads from it to the next picture, a lone full update tells the client to forget, and the
other slots only make the display take less for known.
-/

namespace Viridity.ServerPictures

open Viridity.QtRectangle
open Viridity.ImageAux
open Viridity.ImageComparerOpTools
open Viridity.FrameComparison
open Viridity.PictureUpdates
open Viridity.BufferRenderer
open Viridity.WorkBuffer
open Viridity.DamageBookkeeping
open Viridity.SceneDisplay
open Viridity.FrameFlow
open Viridity.DisplayDispatch
open Viridity.DisplayClient
open Viridity.DisplayProtocol
open Viridity.PlayerPainting
open Viridity.PatchEncoding
open Viridity.PatchGeometry
open Viridity.ReplayedFrames
open Viridity.DumpReplay
open Viridity.MoveSources
open Viridity.CanvasPainting
open GraphicsSceneDisplay
open GraphicsSceneBufferRenderer
open UpdateOperationType

set_option autoImplicit false

variable {Adapter : Type}

/-- A frame leads to the next picture by the operations in its messages. -/
abbrev FrameChange := Change QPoint QRgb DisplayMessage

abbrev FrameUpdate := Update QPoint QRgb DisplayMessage

abbrev FrameMark := Mark QPoint QRgb

def changeMessages (change : FrameChange) : List ClientMessage :=
  (if change.resets then [.frame (.fullUpdate change.number)] else []) ++
    change.operations.map .frame ++ [.frame (.frameEnd change.number)]

/-- The messages of updates behind the frame of a given number. -/
def spoken : Nat → List FrameUpdate → List ClientMessage
  | _, [] => []
  | number, .silent :: updates => .done :: spoken number updates
  | number, .reset :: updates => .frame (.fullUpdate number) :: spoken number updates
  | _, .change change :: updates => changeMessages change ++ spoken change.number updates

def payloadOf : DisplayMessage → Option PatchPayload
  | .dI _ _ _ _ payload => some payload
  | .mI _ _ _ => none
  | .fR _ _ _ => none
  | .fullUpdate _ => none
  | .frameEnd _ => none

/-- The data of an image that is sent, or handed out from the patches made. -/
def HasContent (made : List GraphicsSceneFramePatch) (message : DisplayMessage)
    (data : List UInt8) : Prop :=
  match payloadOf message with
  | some (.inline bytes _) => data = bytes
  | some (.fetch patchId) => ∃ patch ∈ made, patch.id = patchId ∧ patch.data = data
  | none => data = []

/-- An operation draws the colours of the next picture when the front canvas shows the picture
before it. -/
def DrawsRight (codec : PatchCodec) (before target : Picture QPoint QRgb) (operation : DisplayMessage)
    (data : List UInt8) : Prop :=
  ∀ canvases : Canvases, CanvasShows canvases.frontCanvas before → Fits target canvases.canvas →
    PaintsRight Covers (fun pixel => some (canvasPixel pixel)) target operation
      (pixelAt canvases.canvas)
      (pixelAt { canvases.canvas with pixel := paintOperation codec data canvases operation })

/-- What a frame promises to a client that knows the picture before it. -/
structure FaithfulChange (codec : PatchCodec) (made : List GraphicsSceneFramePatch)
    (pictures : List QImage) (change : FrameChange) : Prop where
  positive : 0 < change.number
  repaints : Repaints Covers 0 change.before change.target change.operations
  recorded : ∃ picture, pictures[change.number - 1]? = some picture ∧
    change.target = pictureOf picture
  operations : ∀ message ∈ change.operations,
    isOperation message = true ∧ frameOf message = change.number
  drawn : ∀ message ∈ change.operations, ∃ data, HasContent made message data ∧
    DrawsRight codec change.before change.target message data

section Contents

variable {made : List GraphicsSceneFramePatch}

theorem has_content_unique (distinct : (made.map GraphicsSceneFramePatch.id).Nodup)
    {message : DisplayMessage} {first second : List UInt8} (left : HasContent made message first)
    (right : HasContent made message second) : first = second := by
  unfold HasContent at left right
  split at left
  · rename_i payload
    rw [payload] at right
    exact left.trans right.symm
  · rename_i payload
    rw [payload] at right
    obtain ⟨earlier, earlierMember, earlierId, earlierData⟩ := left
    obtain ⟨later, laterMember, laterId, laterData⟩ := right
    have same := List.inj_on_of_nodup_map distinct earlierMember laterMember
      (earlierId.trans laterId.symm)
    rw [← earlierData, ← laterData, same]
  · rename_i payload
    rw [payload] at right
    exact left.trans right.symm

theorem has_content_mono {others : List GraphicsSceneFramePatch}
    (included : ∀ patch ∈ made, patch ∈ others) {message : DisplayMessage} {data : List UInt8}
    (content : HasContent made message data) : HasContent others message data := by
  unfold HasContent at content ⊢
  split at content
  · exact content
  · obtain ⟨patch, member, facts⟩ := content
    exact ⟨patch, included patch member, facts⟩
  · exact content

theorem FaithfulChange.append {codec : PatchCodec} {pictures : List QImage} {change : FrameChange}
    (faithful : FaithfulChange codec made pictures change)
    (others : List GraphicsSceneFramePatch) (later : List QImage) :
    FaithfulChange codec (made ++ others) (pictures ++ later) change where
  positive := faithful.positive
  repaints := faithful.repaints
  recorded := by
    obtain ⟨picture, found, same⟩ := faithful.recorded
    refine ⟨picture, ?_, same⟩
    rw [List.getElem?_append_left (List.getElem?_eq_some_iff.mp found).1]
    exact found
  operations := faithful.operations
  drawn := by
    intro message member
    obtain ⟨data, content, right⟩ := faithful.drawn message member
    exact ⟨data, has_content_mono (fun _ earlier => List.mem_append_left others earlier) content, right⟩

end Contents

section Operations

def Announces (createPatch : QRect → GraphicsSceneFramePatch) (settings : EncoderSettings)
    (returnBinary : Bool) (frame : Nat) (kept : List GraphicsSceneFramePatch) (op : UpdateOperation)
    (message : DisplayMessage) : Prop :=
  match op.type with
  | uotUpdate =>
      let patch := createPatch op.srcRect
      ∃ payload, message = .dI frame op.srcRect patch.artefactMargin
          (announcedType settings returnBinary patch) payload ∧
        HasContent kept message patch.data
  | uotMove => message = .mI frame op.srcRect op.dstPoint
  | uotFill => message = .fR frame op.srcRect op.fillColor
  | uotNoOp => False

variable {createPatch : QRect → GraphicsSceneFramePatch} {settings : EncoderSettings}
variable {returnBinary : Bool} {displayId : String} {frame : Nat}

theorem announces_mono {kept others : List GraphicsSceneFramePatch}
    (included : ∀ patch ∈ kept, patch ∈ others) {op : UpdateOperation} {message : DisplayMessage}
    (announces : Announces createPatch settings returnBinary frame kept op message) :
    Announces createPatch settings returnBinary frame others op message := by
  unfold Announces at announces ⊢
  cases kind : op.type with
  | uotUpdate =>
      simp only [kind] at announces ⊢
      obtain ⟨payload, same, content⟩ := announces
      exact ⟨payload, same, has_content_mono included content⟩
  | uotMove => simpa only [kind] using announces
  | uotFill => simpa only [kind] using announces
  | uotNoOp => simp only [kind] at announces

/-- Messages and operations that do something belong to each other. -/
structure Announced (createPatch : QRect → GraphicsSceneFramePatch) (settings : EncoderSettings)
    (returnBinary : Bool) (frame : Nat) (ops : List UpdateOperation)
    (sent : List DisplayMessage × List GraphicsSceneFramePatch) : Prop where
  meant : ∀ message ∈ sent.1, ∃ op ∈ ops,
    Announces createPatch settings returnBinary frame sent.2 op message
  told : ∀ op ∈ ops, op.type ≠ uotNoOp → ∃ message ∈ sent.1,
    Announces createPatch settings returnBinary frame sent.2 op message

theorem Announced.cons {op : UpdateOperation} {ops : List UpdateOperation}
    {sent : List DisplayMessage × List GraphicsSceneFramePatch}
    (announced : Announced createPatch settings returnBinary frame ops sent)
    {message : DisplayMessage} {kept : List GraphicsSceneFramePatch}
    (included : ∀ patch ∈ sent.2, patch ∈ kept)
    (announces : Announces createPatch settings returnBinary frame kept op message) :
    Announced createPatch settings returnBinary frame (op :: ops) (message :: sent.1, kept) where
  meant := by
    intro other member
    rcases List.mem_cons.mp member with same | later
    · exact ⟨op, List.mem_cons_self, same ▸ announces⟩
    · obtain ⟨source, sourceMember, meaning⟩ := announced.meant other later
      exact ⟨source, List.mem_cons_of_mem op sourceMember, announces_mono included meaning⟩
  told := by
    intro other member drawing
    rcases List.mem_cons.mp member with same | later
    · exact ⟨message, List.mem_cons_self, same ▸ announces⟩
    · obtain ⟨said, saidMember, meaning⟩ := announced.told other later drawing
      exact ⟨said, List.mem_cons_of_mem message saidMember, announces_mono included meaning⟩

theorem operation_messages_announce (index : Nat) (ops : List UpdateOperation) :
    Announced createPatch settings returnBinary frame ops
      (operationMessages createPatch settings returnBinary displayId frame index ops) := by
  induction ops generalizing index with
  | nil => exact ⟨by simp [operationMessages], by simp⟩
  | cons op ops induction =>
      have remaining := induction (index + 1)
      cases kind : op.type with
      | uotUpdate =>
          simp only [operationMessages, kind]
          split_ifs
          · apply remaining.cons (fun _ member => member)
            simp only [Announces, kind]
            exact ⟨_, rfl, rfl⟩
          · apply remaining.cons (fun _ member => List.mem_cons_of_mem _ member)
            simp only [Announces, kind]
            exact ⟨_, rfl, _, List.mem_cons_self, rfl, rfl⟩
      | uotMove =>
          simp only [operationMessages, kind]
          apply remaining.cons (fun _ member => member)
          simp only [Announces, kind]
      | uotFill =>
          simp only [operationMessages, kind]
          apply remaining.cons (fun _ member => member)
          simp only [Announces, kind]
      | uotNoOp =>
          simp only [operationMessages, kind]
          constructor
          · intro message member
            obtain ⟨source, sourceMember, meaning⟩ := remaining.meant message member
            exact ⟨source, List.mem_cons_of_mem op sourceMember, meaning⟩
          · intro other member drawing
            rcases List.mem_cons.mp member with same | later
            · exact absurd (same ▸ kind) drawing
            · exact remaining.told other later drawing

end Operations

section Frames

variable {encoder : PatchEncoder} {codec : PatchCodec} {settings : EncoderSettings}
variable {returnBinary : Bool} {frame : Nat} {kept : List GraphicsSceneFramePatch}
variable {before after : QImage} {ops : List UpdateOperation} {op : UpdateOperation}
variable {message : DisplayMessage}

theorem announced_covers (inPlace : op.type = uotUpdate → op.dstPoint = op.srcRect.topLeft)
    (announces : Announces (createPatch encoder settings after) settings returnBinary frame kept op
      message) (point : QPoint) :
    Covers message point ↔ ∃ stroke, op.strokeAt point = some stroke := by
  unfold Announces at announces
  cases kind : op.type with
  | uotUpdate =>
      simp only [kind] at announces
      obtain ⟨payload, same, _⟩ := announces
      rw [same]
      constructor
      · intro inside
        exact ⟨_, (update_stroke kind (inPlace kind) point _).mpr ⟨inside, rfl⟩⟩
      · intro drawn
        obtain ⟨stroke, hit⟩ := drawn
        exact ((update_stroke kind (inPlace kind) point _).mp hit).1
  | uotMove =>
      simp only [kind] at announces
      rw [announces]
      simp only [UpdateOperation.strokeAt, kind]
      change point ∈ op.dstRect ↔ _
      by_cases inside : point ∈ op.dstRect
      · simp [inside]
      · simp [inside]
  | uotFill =>
      simp only [kind] at announces
      rw [announces]
      constructor
      · intro inside
        exact ⟨_, (fill_stroke kind point _).mpr ⟨inside, rfl⟩⟩
      · intro drawn
        obtain ⟨stroke, hit⟩ := drawn
        exact ((fill_stroke kind point _).mp hit).1
  | uotNoOp =>
      simp only [kind] at announces

/-- On a canvas with room for the picture it is enough to look at its pixels. -/
theorem paints_right_of_pixels {target : QImage} {canvas : CanvasImage} {pixels : QPoint → CanvasPixel}
    (fits : Fits (pictureOf target) canvas)
    (covered : ∀ point ∈ target.rect, Covers message point →
      pixels point = canvasPixel (target.pixel point))
    (beside : ∀ point ∈ target.rect, ¬Covers message point → pixels point = canvas.pixel point) :
    PaintsRight Covers (fun pixel => some (canvasPixel pixel)) (pictureOf target) message
      (pixelAt canvas) (pixelAt { canvas with pixel := pixels }) := by
  intro point inside
  have room := fits point inside
  have painted : pixelAt { canvas with pixel := pixels } point = some (pixels point) :=
    pixel_at_inside room
  rw [painted]
  constructor
  · intro hit
    exact congrArg some (covered point inside hit)
  · intro missed
    rw [pixel_at_inside room, beside point inside missed]

variable (lossless : LosslessCodec encoder codec) (finds : FindsAlpha encoder)
variable (enabled : settings.alphaChannelEnabled = true)
variable (frameRepairs : FrameRepairs before after ops) (movesInside : MovesInside before ops)
variable (filled : ∀ point ∈ after.rect, after.pixel point ≠ 0)

include lossless finds enabled frameRepairs movesInside filled

theorem announced_draws_right (member : op ∈ ops)
    (announces : Announces (createPatch encoder settings after) settings returnBinary frame kept op
      message) :
    ∃ data, HasContent kept message data ∧
      DrawsRight codec (pictureOf before) (pictureOf after) message data := by
  have rects := QImage.same_size_rect frameRepairs.sameSize
  have covers := announced_covers (frameRepairs.inPlace op member) announces
  have sound := fun (point : QPoint) (within : point ∈ after.rect) (stroke : Stroke)
      (drawn : op.strokeAt point = some stroke) =>
    frameRepairs.repairs.sound point (rects ▸ within) stroke ⟨op, member, drawn⟩
  have drawing := frameRepairs.drawing op member
  unfold Announces at announces
  cases kind : op.type with
  | uotUpdate =>
      simp only [kind] at announces
      obtain ⟨payload, same, content⟩ := announces
      refine ⟨_, content, ?_⟩
      intro canvases _ fits
      have painted := fun point (within : point ∈ after.rect) =>
        @image_painted codec canvases point encoder settings after op.srcRect lossless finds enabled
          (drawing (by rw [kind]; decide)) frame returnBinary payload within
      rw [← same] at painted
      apply paints_right_of_pixels fits
      · intro point within hit
        rw [painted point within, if_pos]
        rw [same] at hit
        exact hit
      · intro point within missed
        rw [painted point within, if_neg]
        rw [same] at missed
        exact missed
  | uotMove =>
      simp only [kind] at announces
      refine ⟨[], by rw [announces]; exact rfl, ?_⟩
      intro canvases shows fits
      apply paints_right_of_pixels fits
      · intro point within hit
        obtain ⟨stroke, drawn⟩ := (covers point).mp hit
        have target : stroke = .fromBefore (point.add op.moveVector) := by
          simp only [UpdateOperation.strokeAt, kind] at drawn
          split_ifs at drawn
          exact (Option.some.inj drawn).symm
        rw [target] at drawn
        have read := movesInside point (rects ▸ within) _ ⟨op, member, drawn⟩
        have colour : before.pixel (point.add op.moveVector) = after.pixel point :=
          (sound point within _ drawn).colour (QRect.contains_iff.mpr read)
        have seen := shows _ read (by
          change before.pixel _ ≠ 0
          rw [colour]
          exact filled point within)
        obtain ⟨readable, front⟩ := of_pixel_at seen
        rw [announces] at hit ⊢
        rw [move_painted frame hit readable]
        exact front.trans (congrArg canvasPixel colour)
      · intro point _ missed
        rw [announces] at missed ⊢
        exact move_beside frame missed
  | uotFill =>
      simp only [kind] at announces
      refine ⟨[], by rw [announces]; exact rfl, ?_⟩
      intro canvases _ fits
      apply paints_right_of_pixels fits
      · intro point within hit
        have inside : point ∈ op.srcRect := by
          rw [announces] at hit
          exact hit
        have colour := (sound point within _ ((fill_stroke kind point _).mpr ⟨inside, rfl⟩)).colour rfl
        rw [announces, fill_painted, if_pos inside]
        exact congrArg canvasPixel colour
      · intro point _ missed
        have outside : point ∉ op.srcRect := by
          rw [announces] at missed
          exact missed
        rw [announces, fill_painted, if_neg outside]
  | uotNoOp => simp only [kind] at announces

omit lossless finds enabled movesInside in
/-- The messages of a frame lead to its picture. -/
theorem announced_repaints {sent : List DisplayMessage × List GraphicsSceneFramePatch}
    (announced : Announced (createPatch encoder settings after) settings returnBinary frame ops sent) :
    Repaints Covers 0 (pictureOf before) (pictureOf after) sent.1 where
  sameArea := by
    intro point inside
    change point ∈ before.rect
    rw [QImage.same_size_rect frameRepairs.sameSize]
    exact inside
  filled := filled
  complete := by
    intro point inside differs
    have within : point ∈ before.rect := by
      rw [QImage.same_size_rect frameRepairs.sameSize]
      exact inside
    obtain ⟨stroke, drawn, _⟩ := frameRepairs.repairs.complete point within trivial differs
    obtain ⟨op, member, hit⟩ := drawn
    have drawing : op.type ≠ uotNoOp := by
      intro idle
      simp only [UpdateOperation.strokeAt, idle] at hit
      cases hit
    obtain ⟨message, said, meaning⟩ := announced.told op member drawing
    exact ⟨message, said, (announced_covers (frameRepairs.inPlace op member) meaning point).mpr
      ⟨stroke, hit⟩⟩

end Frames

end Viridity.ServerPictures
