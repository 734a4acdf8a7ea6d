import Viridity.ServerPictures

/-!
# The pictures of a run

Every slot of a display sends updates that lead from the picture it takes for known before to the
one it takes for known after. The pictures of its frames are recorded, and so is every patch it
has announced.
-/

namespace Viridity.PictureStream

open Viridity.QtRectangle
open Viridity.ImageAux
open Viridity.ImageComparerOpTools
open Viridity.FrameComparison
open Viridity.PictureUpdates
open Viridity.BufferRenderer
open Viridity.WorkBuffer
open Viridity.DamageBookkeeping
open Viridity.SceneDisplay
open Viridity.FrameFlow
open Viridity.DisplayDispatch
open Viridity.DisplayClient
open Viridity.DisplayProtocol
open Viridity.PlayerPainting
open Viridity.PatchEncoding
open Viridity.ReplayedFrames
open Viridity.DumpReplay
open Viridity.MoveSources
open Viridity.CanvasPainting
open Viridity.ServerPictures
open GraphicsSceneDisplay
open GraphicsSceneBufferRenderer

set_option autoImplicit false

variable {Adapter : Type}

section Renderer

variable {platform : Platform} {renderer : GraphicsSceneBufferRenderer Adapter}

theorem null_says_nothing : SaysNothing 0 (pictureOf nullImage) := fun _ _ => rfl

theorem filled_says_nothing (image : QImage) : SaysNothing 0 (pictureOf (image.fill 0)) :=
  fun _ _ => rfl

theorem blank_says_nothing (width height : Int) :
    SaysNothing 0 (pictureOf (blankImage width height)) := by
  unfold blankImage
  split_ifs
  · exact fun _ _ => rfl
  · exact null_says_nothing

theorem resize_buffer_entails (buffer : QImage) (width height : Int) :
    Entails 0 (pictureOf buffer) (pictureOf (resizeBuffer buffer width height)) := by
  unfold resizeBuffer resizedCopy
  split_ifs
  · exact entails_of_says_nothing _ (blank_says_nothing width height)
  · intro point _ filled
    simp only [pictureOf] at filled ⊢
    split_ifs at filled ⊢ with inside
    · exact ⟨inside, rfl⟩
    · exact absurd rfl filled
  · exact entails_of_says_nothing _ null_says_nothing
  · exact entails_refl _

theorem set_size_entails (width height : Int) :
    Entails 0 (pictureOf renderer.workBuffer)
      (pictureOf (renderer.setSize platform width height).1.workBuffer) := by
  unfold setSize
  split_ifs
  · exact entails_refl _
  · change Entails 0 (pictureOf (if renderer.workIsBuffer1 then _ else _)) (pictureOf
      (if renderer.workIsBuffer1 then resizeBuffer renderer.buffer1 width height
        else resizeBuffer renderer.buffer2 width height))
    split_ifs
    · exact resize_buffer_entails _ _ _
    · exact resize_buffer_entails _ _ _
  · exact entails_refl _

theorem set_target_says_nothing [DecidableEq Adapter] (scenes : Adapter → Scene) (adapter : Adapter)
    (bare : renderer.adapter = none) (silent : SaysNothing 0 (pictureOf renderer.workBuffer)) :
    SaysNothing 0 (pictureOf (renderer.setTargetGraphicsSceneAdapter platform scenes
      (some adapter)).1.workBuffer) := by
  unfold setTargetGraphicsSceneAdapter
  have none : renderer.adapter.isSome = false := by rw [bare]; rfl
  rw [if_pos (by rw [bare]; exact Option.some_ne_none adapter), none]
  have entails := @set_size_entails Adapter platform { renderer with adapter := some adapter }
    (scenes adapter).width (scenes adapter).height
  exact says_nothing_of_entails silent entails

theorem full_update_says_nothing : SaysNothing 0 (pictureOf renderer.fullUpdate.1.workBuffer) := by
  rw [full_update_rest.2.2]
  exact filled_says_nothing _

theorem detached_says_nothing : SaysNothing 0 (pictureOf renderer.sceneDestroyed.workBuffer) := by
  unfold sceneDestroyed
  rw [detached_work]
  exact null_says_nothing

theorem push_full_frame_work (image : QImage) :
    (renderer.pushFullFrame image).1.workBuffer = renderer.workBuffer := by
  unfold pushFullFrame
  split_ifs
  · rfl
  · rfl

end Renderer

/-- The picture a display takes its client to know. -/
def serverMark (run : DisplayRun Adapter) : FrameMark :=
  ⟨run.display.frame, pictureOf run.display.renderer.workBuffer⟩

/-- The pictures of the frames, with the one of a frame just taken. -/
def recordPicture (pictures : List QImage) (run after : DisplayRun Adapter) : List QImage :=
  if after.display.frame = run.display.frame then pictures
  else pictures ++ [after.display.renderer.workBuffer]

/-- What is kept about the patches made and the pictures recorded. -/
structure ServerKept (made : List GraphicsSceneFramePatch) (pictures : List QImage)
    (run : DisplayRun Adapter) : Prop where
  flow : FlowInvariant run
  prepared : Prepared run.display.renderer
  prints : PrintsCurrent run.display.renderer
  alpha : run.display.encoderSettings.alphaChannelEnabled = true
  cleared : run.display.fullUpdateRequested = true → run.display.clientReady = true →
    SaysNothing 0 (pictureOf run.display.renderer.workBuffer)
  identified : made.map GraphicsSceneFramePatch.id = run.log.filterMap announcedIn
  stored : ∀ patch ∈ run.display.patches, patch ∈ made
  handed : ∀ patchId patch, .tookPatch patchId (some patch) ∈ run.log →
    patch ∈ made ∧ patch.id = patchId
  recorded : pictures.length = run.display.frame

/-- What is sent leads from the picture before a slot to the picture after it. -/
structure Leads (codec : PatchCodec) (made : List GraphicsSceneFramePatch) (pictures : List QImage)
    (run after : DisplayRun Adapter) (sent : List DisplayMessage) (updates : List FrameUpdate) :
    Prop where
  sent : sent.map .frame = spoken run.display.frame updates
  follows : Follows 0 (serverMark run) updates (serverMark after)
  faithful : ∀ change, .change change ∈ updates → FaithfulChange codec made pictures change
  kept : ServerKept made pictures after

/-- A slot that keeps patches lossless and tiles proper. -/
def Proper : DisplayAction Adapter → Prop
  | .setComparerSettings settings => settings.Tileable
  | .setEncoderSettings settings => settings.alphaChannelEnabled = true
  | _ => True

def Filled (run after : DisplayRun Adapter) : Prop :=
  after.display.frame = run.display.frame ∨
    ∀ point ∈ after.display.renderer.workBuffer.rect,
      after.display.renderer.workBuffer.pixel point ≠ 0

section Steps

variable {encoder : PatchEncoder} {codec : PatchCodec} {platform : DisplayPlatform}
variable {made : List GraphicsSceneFramePatch} {pictures : List QImage} {run : DisplayRun Adapter}
variable (kept : ServerKept made pictures run)

include kept

theorem leads_silent {after : DisplayRun Adapter} (flow : FlowInvariant after)
    (prepared : Prepared after.display.renderer) (prints : PrintsCurrent after.display.renderer)
    (alpha : after.display.encoderSettings.alphaChannelEnabled = true)
    (entails : Entails 0 (pictureOf run.display.renderer.workBuffer)
      (pictureOf after.display.renderer.workBuffer))
    (cleared : after.display.fullUpdateRequested = true →
      (run.display.fullUpdateRequested = true ∧
          (after.display.clientReady = true → run.display.clientReady = true)) ∨
        SaysNothing 0 (pictureOf after.display.renderer.workBuffer))
    (frame : after.display.frame = run.display.frame)
    (patches : ∀ patch ∈ after.display.patches, patch ∈ run.display.patches)
    (announced : after.log.filterMap announcedIn = run.log.filterMap announcedIn)
    (taken : ∀ patchId patch, .tookPatch patchId (some patch) ∈ after.log →
      .tookPatch patchId (some patch) ∈ run.log ∨
        (patch ∈ run.display.patches ∧ patch.id = patchId)) :
    Leads codec made (recordPicture pictures run after) run after [] [] where
  sent := rfl
  follows := ⟨frame.symm, entails⟩
  faithful := fun change member => absurd member List.not_mem_nil
  kept :=
    { flow := flow
      prepared := prepared
      prints := prints
      alpha := alpha
      cleared := by
        intro requested ready
        rcases cleared requested with ⟨before, still⟩ | silent
        · exact says_nothing_of_entails (kept.cleared before (still ready)) entails
        · exact silent
      identified := by
        rw [announced]
        exact kept.identified
      stored := fun patch member => kept.stored patch (patches patch member)
      handed := by
        intro patchId patch member
        rcases taken patchId patch member with earlier | ⟨stored, same⟩
        · exact kept.handed patchId patch earlier
        · exact ⟨kept.stored patch stored, same⟩
      recorded := by
        unfold recordPicture
        rw [if_pos frame, frame]
        exact kept.recorded }

theorem leads_slot (scenes : Adapter → Scene)
    {outcome : GraphicsSceneBufferRenderer Adapter × Bool} (prepared : Prepared outcome.1)
    (prints : PrintsCurrent outcome.1)
    (entails : Entails 0 (pictureOf run.display.renderer.workBuffer) (pictureOf outcome.1.workBuffer)) :
    Leads codec made
      (recordPicture pictures run
        (({ run with scenes := scenes } : DisplayRun Adapter).continue
          (run.display.rendererSlot outcome) []))
      run (({ run with scenes := scenes } : DisplayRun Adapter).continue
        (run.display.rendererSlot outcome) []) [] [] := by
  have flow := flow_renderer_slot kept.flow scenes outcome
  rw [renderer_slot_eq] at flow ⊢
  apply leads_silent kept flow prepared prints kept.alpha entails
  · exact fun requested => Or.inl ⟨requested, id⟩
  · rfl
  · exact fun _ member => member
  · simp only [DisplayRun.continue, List.append_nil]
  · intro patchId patch member
    simp only [DisplayRun.continue, List.append_nil] at member
    exact Or.inl member

/-- A slot that leaves the renderer, the scenes and the flags, and may give patches away. -/
theorem leads_same {after : DisplayRun Adapter} (flow : FlowInvariant after)
    (renderer : after.display.renderer = run.display.renderer)
    (alpha : after.display.encoderSettings.alphaChannelEnabled = true)
    (cleared : after.display.fullUpdateRequested = true →
      run.display.fullUpdateRequested = true ∧
        (after.display.clientReady = true → run.display.clientReady = true))
    (frame : after.display.frame = run.display.frame)
    (patches : ∀ patch ∈ after.display.patches, patch ∈ run.display.patches)
    (announced : after.log.filterMap announcedIn = run.log.filterMap announcedIn)
    (taken : ∀ patchId patch, .tookPatch patchId (some patch) ∈ after.log →
      .tookPatch patchId (some patch) ∈ run.log ∨
        (patch ∈ run.display.patches ∧ patch.id = patchId)) :
    Leads codec made (recordPicture pictures run after) run after [] [] := by
  apply leads_silent kept flow _ _ alpha _ _ frame patches announced taken
  · rw [renderer]
    exact kept.prepared
  · rw [renderer]
    exact kept.prints
  · rw [renderer]
    exact entails_refl _
  · exact fun requested => Or.inl (cleared requested)

theorem leads_still {after : DisplayRun Adapter} (flow : FlowInvariant after)
    (alpha : after.display.encoderSettings.alphaChannelEnabled = true)
    (renderer : after.display.renderer = run.display.renderer)
    (requested : after.display.fullUpdateRequested = run.display.fullUpdateRequested)
    (ready : after.display.clientReady = run.display.clientReady)
    (frame : after.display.frame = run.display.frame)
    (patches : after.display.patches = run.display.patches) (log : after.log = run.log) :
    Leads codec made (recordPicture pictures run after) run after [] [] := by
  apply leads_same kept flow renderer alpha _ frame
  · rw [patches]
    exact fun _ member => member
  · rw [log]
  · rw [log]
    exact fun _ _ member => Or.inl member
  · rw [requested, ready]
    exact fun before => ⟨before, id⟩

theorem leads_take_patch (patchId : String) :
    Leads codec made
      (recordPicture pictures run
        (run.continue (run.display.takePatch patchId).2
          [.tookPatch patchId (run.display.takePatch patchId).1]))
      run (run.continue (run.display.takePatch patchId).2
        [.tookPatch patchId (run.display.takePatch patchId).1]) [] [] := by
  apply leads_same kept (flow_take_patch kept.flow patchId) rfl kept.alpha
  · exact fun requested => ⟨requested, id⟩
  · rfl
  · exact fun patch member => (List.mem_filter.mp member).1
  · simp [DisplayRun.continue, announcedIn]
  · intro otherId patch member
    rcases List.mem_append.mp member with earlier | new
    · exact Or.inl earlier
    · right
      obtain ⟨same, found⟩ := DisplayEvent.tookPatch.inj (List.mem_singleton.mp new)
      have stored := List.find?_eq_some_iff_append.mp found.symm
      refine ⟨List.mem_of_find?_eq_some found.symm, ?_⟩
      rw [same]
      exact beq_iff_eq.mp stored.1

theorem leads_client_ready :
    Leads codec made
      (recordPicture pictures run (run.continue run.display.handleClientReady [.ready]))
      run (run.continue run.display.handleClientReady [.ready]) [] [] := by
  have flow : FlowInvariant (run.continue run.display.handleClientReady [.ready]) := by
    rw [client_ready_eq]
    exact flow_reset kept.flow (Or.inl rfl) rfl rfl rfl rfl
  rw [client_ready_eq] at flow ⊢
  apply leads_same kept flow rfl kept.alpha
  · intro requested
    cases requested
  · rfl
  · exact fun patch member => absurd member List.not_mem_nil
  · simp [DisplayRun.continue, announcedIn]
  · intro patchId patch member
    left
    simpa [DisplayRun.continue] using member

theorem leads_request_full_update (forced : Bool)
    (prepared : Prepared run.display.renderer.fullUpdate.1)
    (prints : PrintsCurrent run.display.renderer.fullUpdate.1) :
    Leads codec made
      (recordPicture pictures run
        (run.continue (run.display.requestFullUpdate forced)
          (if forced && !run.display.fullUpdateRequested then [.forcedFullUpdate] else [])))
      run (run.continue (run.display.requestFullUpdate forced)
        (if forced && !run.display.fullUpdateRequested then [.forcedFullUpdate] else [])) [] [] := by
  have flow := flow_request_full_update kept.flow forced
  have logged : ∀ event ∈ (if forced && !run.display.fullUpdateRequested then
      [(.forcedFullUpdate : DisplayEvent)] else []), event = .forcedFullUpdate := by
    intro event member
    split_ifs at member
    · exact List.mem_singleton.mp member
    · exact absurd member List.not_mem_nil
  generalize (if forced && !run.display.fullUpdateRequested then
    [(.forcedFullUpdate : DisplayEvent)] else []) = events at *
  have announced : (run.log ++ events).filterMap announcedIn = run.log.filterMap announcedIn := by
    have none : events.filterMap announcedIn = [] := by
      apply List.filterMap_eq_nil_iff.mpr
      intro event member
      rw [logged event member]
      rfl
    rw [List.filterMap_append, none, List.append_nil]
  have taken : ∀ patchId patch, .tookPatch patchId (some patch) ∈ run.log ++ events →
      .tookPatch patchId (some patch) ∈ run.log ∨
        (patch ∈ run.display.patches ∧ patch.id = patchId) := by
    intro patchId patch member
    rcases List.mem_append.mp member with earlier | new
    · exact Or.inl earlier
    · cases logged _ new
  rw [request_full_update_eq] at flow ⊢
  split_ifs at flow ⊢
  · exact leads_same kept flow rfl kept.alpha (fun requested => ⟨requested, id⟩) rfl
      (fun _ member => member) announced taken
  · exact leads_silent kept flow prepared prints kept.alpha
      (entails_of_says_nothing _ full_update_says_nothing)
      (fun _ => Or.inr full_update_says_nothing) rfl
      (fun _ member => absurd member List.not_mem_nil) announced taken
  · exact leads_silent kept flow prepared prints kept.alpha
      (entails_of_says_nothing _ full_update_says_nothing)
      (fun _ => Or.inr full_update_says_nothing) rfl (fun _ member => member) announced taken

end Steps

section Takes

variable {encoder : PatchEncoder} {codec : PatchCodec} {platform : DisplayPlatform}
variable {made : List GraphicsSceneFramePatch} {pictures : List QImage} {run : DisplayRun Adapter}

theorem repairs_nothing {before after : QImage} (frame : FrameRepairs before after []) :
    ∀ point ∈ before.rect, before.pixel point = after.pixel point := by
  intro point inside
  by_contra differs
  obtain ⟨stroke, ⟨op, member, _⟩, _⟩ := frame.repairs.complete point inside trivial differs
  exact absurd member List.not_mem_nil

theorem repairs_nothing_entails {before after : QImage} (frame : FrameRepairs before after []) :
    Entails 0 (pictureOf before) (pictureOf after) := by
  intro point inside _
  have within : point ∈ before.rect := by
    rw [QImage.same_size_rect frame.sameSize]
    exact inside
  exact ⟨within, repairs_nothing frame point within⟩

theorem mem_inserted {patches others : List GraphicsSceneFramePatch} {patch : GraphicsSceneFramePatch}
    (member : patch ∈ others.foldl insertPatch patches) : patch ∈ patches ∨ patch ∈ others := by
  induction others generalizing patches with
  | nil => exact Or.inl member
  | cons other others induction =>
      rcases induction member with earlier | later
      · rcases List.mem_append.mp earlier with old | new
        · exact Or.inl (List.mem_filter.mp old).1
        · exact Or.inr (List.mem_cons.mpr (Or.inl (List.mem_singleton.mp new)))
      · exact Or.inr (List.mem_cons_of_mem other later)

theorem sent_took_nothing (messages : List DisplayMessage) {log : List DisplayEvent}
    {patchId : String} {patch : Option GraphicsSceneFramePatch}
    (member : .tookPatch patchId patch ∈ log ++ messages.map .sent) :
    .tookPatch patchId patch ∈ log := by
  rcases List.mem_append.mp member with earlier | new
  · exact earlier
  · obtain ⟨message, _, same⟩ := List.mem_map.mp new
    cases same

theorem spoken_change (change : FrameChange) (number : Nat) :
    spoken number [.change change] =
      ((if change.resets then [DisplayMessage.fullUpdate change.number] else []) ++
        change.operations ++ [DisplayMessage.frameEnd change.number]).map .frame := by
  simp only [spoken, changeMessages, List.append_nil, List.map_append]
  split_ifs
  · rfl
  · rfl

theorem frame_announced (requested : Bool) (number : Nat) (operations : List DisplayMessage) :
    ((if requested then [DisplayMessage.fullUpdate number] else []) ++ operations ++
      [DisplayMessage.frameEnd number]).filterMap announcedId = operations.filterMap announcedId := by
  have quiet : ([DisplayMessage.frameEnd number]).filterMap announcedId = [] := rfl
  rw [List.filterMap_append, List.filterMap_append, quiet, List.append_nil]
  cases requested with
  | true => rfl
  | false => rfl

variable (kept : ServerKept made pictures run) {returnBinary : Bool}
variable {after : GraphicsSceneDisplay Adapter} {ops : List UpdateOperation}
variable {messages : List DisplayMessage}

include kept

theorem take_repairs (takes : TakesFrame platform run.scenes returnBinary run.display after ops messages) :
    FrameRepairs run.display.renderer.workBuffer after.renderer.workBuffer ops := by
  have tileable : run.display.renderer.comparer.settings.Tileable := by
    rw [kept.prepared.settings]
    exact kept.prepared.tileable
  rw [takes.renderer, takes.operations]
  exact update_buffer_frame kept.prepared.formed tileable

theorem available_cleared (available : run.display.isUpdateAvailable = true)
    (requested : run.display.fullUpdateRequested = true) :
    SaysNothing 0 (pictureOf run.display.renderer.workBuffer) := by
  unfold GraphicsSceneDisplay.isUpdateAvailable at available
  rw [if_pos kept.flow.attached, Bool.and_eq_true, Bool.and_eq_true] at available
  exact kept.cleared requested available.1.1

theorem leads_take_nothing [DecidableEq Adapter] (available : run.display.isUpdateAvailable = true)
    (takes : TakesFrame platform run.scenes returnBinary run.display after [] messages) :
    Leads codec made (recordPicture pictures run (run.continue after (messages.map .sent))) run
      (run.continue after (messages.map .sent)) messages
      (if run.display.fullUpdateRequested then [.reset] else []) := by
  have flow := flow_take kept.flow available takes
  have same := takes.same
  have sent : messages =
      if run.display.fullUpdateRequested then [.fullUpdate run.display.frame] else [] := by
    have number : after.frame = run.display.frame := by rw [same]; rfl
    rw [takes.sent, number]
    simp only [operationMessages, if_true, List.append_nil]
  have entails := repairs_nothing_entails (take_repairs kept takes)
  have prepared : Prepared after.renderer := by
    rw [takes.renderer]
    exact @prepared_act Adapter platform.toPlatform ⟨run.display.renderer, run.scenes⟩ _
      kept.prepared .updateBufferAndGetUpdateOperations (by simp)
  have prints : PrintsCurrent after.renderer := by
    rw [takes.renderer]
    exact prints_update run.scenes kept.prepared kept.prints
  have quiet := @leads_silent Adapter codec made pictures run kept
    (run.continue after (messages.map .sent)) flow prepared prints
    (by simp only [DisplayRun.continue]; rw [same]; exact kept.alpha) entails
    (by
      intro requested
      simp only [DisplayRun.continue] at requested ⊢
      rw [same] at requested ⊢
      exact Or.inl ⟨requested, id⟩)
    (by simp only [DisplayRun.continue]; rw [same]; rfl)
    (by
      intro patch member
      simp only [DisplayRun.continue] at member
      rw [same] at member
      exact member)
    (by
      simp only [DisplayRun.continue, List.filterMap_append, sent_announced, sent]
      split_ifs
      · simp [announcedId]
      · simp)
    (fun patchId patch member => Or.inl (sent_took_nothing messages member))
  constructor
  · rw [sent]
    split_ifs
    · rfl
    · rfl
  · split_ifs with requested
    · have silent := says_nothing_of_entails (available_cleared kept available requested) entails
      exact ⟨quiet.follows.1, entails_of_says_nothing _ silent⟩
    · exact quiet.follows
  · intro change member
    split_ifs at member
    · cases List.mem_singleton.mp member
    · exact absurd member List.not_mem_nil
  · exact quiet.kept

def frameChange (run : DisplayRun Adapter) (after : GraphicsSceneDisplay Adapter)
    (operations : List DisplayMessage) : FrameChange where
  number := after.frame
  resets := run.display.fullUpdateRequested
  before := pictureOf run.display.renderer.workBuffer
  target := pictureOf after.renderer.workBuffer
  operations := operations

theorem leads_take_frame [DecidableEq Adapter] (lossless : LosslessCodec encoder codec)
    (finds : FindsAlpha encoder) (encodes : platform.createPatch = PatchEncoding.createPatch encoder)
    (available : run.display.isUpdateAvailable = true) (framed : ops ≠ [])
    (filled : ∀ point ∈ after.renderer.workBuffer.rect, after.renderer.workBuffer.pixel point ≠ 0)
    (takes : TakesFrame platform run.scenes returnBinary run.display after ops messages) :
    ∃ added updates,
      Leads codec (made ++ added) (recordPicture pictures run (run.continue after (messages.map .sent)))
        run (run.continue after (messages.map .sent)) messages updates := by
  have flow := flow_take kept.flow available takes
  have same := takes.same
  have sent := takes.sent
  have repairs := take_repairs kept takes
  have movesInside : MovesInside run.display.renderer.workBuffer ops := by
    rw [takes.operations]
    exact update_buffer_moves_inside run.scenes kept.prepared kept.prints
  have number : after.frame = run.display.frame + 1 := by
    rw [same]
    exact if_neg framed
  have prepared : Prepared after.renderer := by
    rw [takes.renderer]
    exact @prepared_act Adapter platform.toPlatform ⟨run.display.renderer, run.scenes⟩ _
      kept.prepared .updateBufferAndGetUpdateOperations (by simp)
  have prints : PrintsCurrent after.renderer := by
    rw [takes.renderer]
    exact prints_update run.scenes kept.prepared kept.prints
  rw [encodes] at same sent
  rw [if_neg framed] at sent
  have announced := @operation_messages_announce
    (PatchEncoding.createPatch encoder run.display.encoderSettings after.renderer.workBuffer)
    run.display.encoderSettings returnBinary run.display.id after.frame 0 ops
  have ofFrame := operation_messages_of_frame
    (PatchEncoding.createPatch encoder run.display.encoderSettings after.renderer.workBuffer)
    run.display.encoderSettings returnBinary run.display.id after.frame 0 ops
  have identified := operation_messages_announced
    (PatchEncoding.createPatch encoder run.display.encoderSettings after.renderer.workBuffer)
    run.display.encoderSettings returnBinary run.display.id after.frame 0 ops
  generalize operationMessages
    (PatchEncoding.createPatch encoder run.display.encoderSettings after.renderer.workBuffer)
    run.display.encoderSettings returnBinary run.display.id after.frame 0 ops = outcome at *
  have grown : recordPicture pictures run (run.continue after (messages.map .sent)) =
      pictures ++ [after.renderer.workBuffer] := by
    unfold recordPicture
    rw [if_neg]
    · rfl
    · simp only [DisplayRun.continue]
      omega
  rw [grown]
  refine ⟨outcome.2, [.change (frameChange run after outcome.1)], ?_⟩
  constructor
  · rw [sent]
    exact (spoken_change (frameChange run after outcome.1) run.display.frame).symm
  · refine ⟨number, entails_refl _, ?_, rfl, entails_refl _⟩
    exact fun requested => available_cleared kept available requested
  · intro change member
    cases List.mem_singleton.mp member
    exact
      { positive := by
          simp only [frameChange]
          omega
        repaints := announced_repaints repairs filled announced
        recorded := by
          refine ⟨after.renderer.workBuffer, ?_, rfl⟩
          have position : (frameChange run after outcome.1).number - 1 = pictures.length := by
            rw [kept.recorded]
            simp only [frameChange]
            omega
          rw [position, List.getElem?_concat_length]
        operations := ofFrame
        drawn := by
          intro message member
          obtain ⟨op, opMember, meaning⟩ := announced.meant message member
          obtain ⟨data, content, right⟩ := announced_draws_right lossless finds kept.alpha repairs
            movesInside filled opMember meaning
          exact ⟨data, has_content_mono (fun _ later => List.mem_append_right made later) content,
            right⟩ }
  · exact
      { flow := flow
        prepared := prepared
        prints := prints
        alpha := by
          simp only [DisplayRun.continue]
          rw [same]
          exact kept.alpha
        cleared := by
          intro _ ready
          simp only [DisplayRun.continue] at ready
          rw [same] at ready
          simp only [if_neg framed] at ready
          cases ready
        identified := by
          simp only [DisplayRun.continue, List.filterMap_append, List.map_append, sent_announced]
          rw [kept.identified, ← identified, sent, frame_announced]
        stored := by
          intro patch member
          simp only [DisplayRun.continue] at member
          rw [same] at member
          rcases mem_inserted member with earlier | new
          · exact List.mem_append_left _ (kept.stored patch earlier)
          · exact List.mem_append_right made new
        handed := by
          intro patchId patch member
          have found := kept.handed patchId patch (sent_took_nothing messages member)
          exact ⟨List.mem_append_left _ found.1, found.2⟩
        recorded := by
          rw [List.length_append, kept.recorded]
          exact number.symm }

end Takes

section Runs

variable [DecidableEq Adapter] {encoder : PatchEncoder} {codec : PatchCodec}
variable {platform : DisplayPlatform} {made : List GraphicsSceneFramePatch}
variable {pictures : List QImage} {run : DisplayRun Adapter}

/-- Every slot leads on from the picture before it. -/
theorem leads_perform (lossless : LosslessCodec encoder codec) (finds : FindsAlpha encoder)
    (encodes : platform.createPatch = PatchEncoding.createPatch encoder)
    (kept : ServerKept made pictures run) {action : DisplayAction Adapter} (proper : Proper action)
    (filled : Filled run (FrameFlow.perform platform run action)) :
    ∃ added updates,
      Leads codec (made ++ added)
        (recordPicture pictures run (FrameFlow.perform platform run action)) run
        (FrameFlow.perform platform run action) (sentBy platform run action) updates := by
  have quietly : ∀ after, Leads codec made (recordPicture pictures run after) run after [] [] →
      ∃ added updates, Leads codec (made ++ added) (recordPicture pictures run after) run after []
        updates := by
    intro after leads
    refine ⟨[], [], ?_⟩
    rw [List.append_nil]
    exact leads
  have prepared := fun staged (tileable : ∀ settings, staged = .setSettings settings →
      settings.Tileable) =>
    @prepared_act Adapter platform.toPlatform ⟨run.display.renderer, run.scenes⟩ _
      kept.prepared staged tileable
  have prints := fun staged (tileable : ∀ settings, staged = .setSettings settings →
      settings.Tileable) =>
    @prints_act Adapter platform.toPlatform ⟨run.display.renderer, run.scenes⟩ _
      kept.prepared kept.prints staged tileable
  cases action with
  | takePendingMessages returnBinary =>
      simp only [FrameFlow.perform, sentBy] at filled ⊢
      rcases take_pending_cases platform run.scenes returnBinary run.display with
        ⟨_, unchanged⟩ | ⟨available, ops, takes⟩
      · rw [unchanged]
        exact quietly _ (leads_still kept (flow_continue kept.flow rfl rfl rfl rfl rfl) kept.alpha
          rfl rfl rfl rfl rfl (List.append_nil _))
      · by_cases framed : ops = []
        · rw [framed] at takes
          refine ⟨[], if run.display.fullUpdateRequested then [.reset] else [], ?_⟩
          rw [List.append_nil]
          exact leads_take_nothing kept available takes
        · have number : (run.display.takePendingMessages platform run.scenes
              returnBinary).1.frame ≠ run.display.frame := by
            rw [takes.same]
            simp only [if_neg framed]
            exact Nat.succ_ne_self _
          exact leads_take_frame kept lossless finds encodes available framed
            (filled.resolve_left number) takes
  | takePatch patchId => exact quietly _ (leads_take_patch kept patchId)
  | clientReady => exact quietly _ (leads_client_ready kept)
  | requestFullUpdate forced =>
      exact quietly _ (leads_request_full_update kept forced (prepared .fullUpdate (by simp))
        (prints .fullUpdate (by simp)))
  | updateCheckTimerTimeout =>
      have flow := flow_perform kept.flow platform .updateCheckTimerTimeout
      simp only [FrameFlow.perform, updateCheckTimerTimeout, sentBy] at flow ⊢
      apply quietly
      split_ifs at flow ⊢
      · exact leads_still kept flow kept.alpha rfl rfl rfl rfl rfl (List.append_nil _)
      · exact leads_still kept flow kept.alpha rfl rfl rfl rfl rfl (List.append_nil _)
  | changeScene adapter scene rects =>
      have changed := prepared (.changeScene adapter scene rects) (by simp)
      have current := prints (.changeScene adapter scene rects) (by simp)
      have flow := flow_perform kept.flow platform (.changeScene adapter scene rects)
      simp only [FrameFlow.perform, act, sentBy] at changed current flow ⊢
      apply quietly
      split_ifs at changed current flow ⊢
      · apply leads_slot kept _ changed current
        rw [(scene_changed_reports kept.prepared.formed rects).work]
        exact entails_refl _
      · exact leads_still kept flow kept.alpha rfl rfl rfl rfl rfl rfl
  | resize width height =>
      exact quietly _ (leads_slot kept run.scenes (prepared (.setSize width height) (by simp))
        (prints (.setSize width height) (by simp)) (set_size_entails width height))
  | pushFullFrame image =>
      apply quietly
      apply leads_slot kept run.scenes (prepared (.pushFullFrame image) (by simp))
        (prints (.pushFullFrame image) (by simp))
      rw [push_full_frame_work]
      exact entails_refl _
  | destroyAdapter =>
      exact quietly _ (@leads_slot Adapter codec made pictures run kept run.scenes
        (run.display.renderer.sceneDestroyed, false) (prepared .destroyAdapter (by simp))
        (prints .destroyAdapter (by simp))
        (entails_of_says_nothing _ detached_says_nothing))
  | setEncoderSettings settings =>
      exact quietly _ (leads_still kept (flow_perform kept.flow platform (.setEncoderSettings settings))
        proper rfl rfl rfl rfl rfl (List.append_nil _))
  | setComparerSettings settings =>
      have tileable : ∀ other, (StageAction.setSettings settings : StageAction Adapter) =
          .setSettings other →
            other.Tileable := by
        intro other same
        rw [← StageAction.setSettings.inj same]
        exact proper
      exact quietly _ (@leads_slot Adapter codec made pictures run kept run.scenes
        (run.display.renderer.setSettings platform.toPlatform settings, false)
        (prepared (.setSettings settings) tileable) (prints (.setSettings settings) tileable)
        (entails_refl _))

theorem kept_constructed (constructed : Constructed platform run) :
    ServerKept [] [] run ∧ SaysNothing 0 (pictureOf run.display.renderer.workBuffer) ∧
      run.display.frame = 0 := by
  have flow := constructed_flow platform constructed
  obtain ⟨id, adapter, display, log⟩ := constructed
  have tileable : ComparerSettings.default.Tileable := ⟨by decide, by decide⟩
  let bare : GraphicsSceneBufferRenderer Adapter := .create platform.toPlatform
  have formed := @well_formed_fresh Adapter platform.toPlatform ⟨bare, run.scenes⟩ rfl
  have fresh : Prepared bare := ⟨formed, tileable, rfl, Iff.rfl⟩
  have prepared := @prepared_act Adapter platform.toPlatform ⟨bare, run.scenes⟩ _ fresh
    (.setTarget (some adapter)) (by simp)
  have prints := @prints_act Adapter platform.toPlatform ⟨bare, run.scenes⟩ _ fresh
    (prints_of_null rfl) (.setTarget (some adapter)) (by simp)
  have silent : SaysNothing 0 (pictureOf run.display.renderer.workBuffer) := by
    rw [display]
    exact set_target_says_nothing run.scenes adapter rfl null_says_nothing
  refine ⟨?_, silent, by rw [display]; rfl⟩
  constructor
  · exact flow
  · rw [display]
    exact prepared
  · rw [display]
    exact prints
  · rw [display]
    rfl
  · exact fun _ _ => silent
  · rw [log]
    rfl
  · rw [display]
    exact fun patch member => absurd member List.not_mem_nil
  · rw [log]
    exact fun patchId patch member => absurd member List.not_mem_nil
  · rw [display]
    rfl

end Runs

end Viridity.PictureStream
