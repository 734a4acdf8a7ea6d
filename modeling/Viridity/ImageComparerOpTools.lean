import Mathlib.Data.List.Flatten
import Viridity.ImageAux
import Viridity.PaintedCanvas
import Viridity.TileOperations

/-!
# Update operations and their optimiser

What an operation does to one pixel is its stroke there: a pixel of the image
after or of the image before the change, or a colour. The optimiser regroups
operations of one kind by move vector or colour; it draws the same strokes.
-/

namespace Viridity.ImageComparerOpTools

open Viridity.QtRectangle
open Viridity.ImageAux
open Viridity.PaintedCanvas
open Viridity.TileOperations

set_option autoImplicit false

inductive UpdateOperationType where
  | uotUpdate
  | uotMove
  | uotFill
  | uotNoOp
deriving DecidableEq, Repr

open UpdateOperationType

structure UpdateOperation where
  type : UpdateOperationType
  srcRect : QRect
  dstPoint : QPoint
  fillColor : QColor
deriving DecidableEq, Repr

def UpdateOperation.default : UpdateOperation := ⟨uotNoOp, QRect.null, ⟨0, 0⟩, none⟩

inductive Stroke where
  | fromAfter (source : QPoint)
  | fromBefore (source : QPoint)
  | solid (colour : QColor)
deriving DecidableEq

/-- The colour a stroke leaves; an invalid colour paints opaque black. -/
def Stroke.colour (before after : QImage) : Stroke → QRgb
  | fromAfter source => after.pixel source
  | fromBefore source => before.pixel source
  | solid colour => colour.getD 0xFF000000

/-- Drawing from the image before the change is clipped to that image. -/
def Stroke.visible (before : QImage) : Stroke → Bool
  | fromAfter _ => true
  | fromBefore source => before.rect.contains source
  | solid _ => true

namespace UpdateOperation

def moveVector (op : UpdateOperation) : QPoint := op.srcRect.topLeft.sub op.dstPoint

def dstRect (op : UpdateOperation) : QRect :=
  QRect.ofSize op.dstPoint.x op.dstPoint.y op.srcRect.width op.srcRect.height

def strokeAt (op : UpdateOperation) (point : QPoint) : Option Stroke :=
  match op.type with
  | uotUpdate => if point ∈ op.dstRect then some (.fromAfter (point.add op.moveVector)) else none
  | uotMove => if point ∈ op.dstRect then some (.fromBefore (point.add op.moveVector)) else none
  | uotFill => if point ∈ op.srcRect then some (.solid op.fillColor) else none
  | uotNoOp => none

/-- Painting the operation, with moves reading the image before the change. -/
def patch (before after : QImage) (op : UpdateOperation) : Patch QPoint QRgb where
  covers point := (op.strokeAt point).any (Stroke.visible before)
  colour point := ((op.strokeAt point).map (Stroke.colour before after)).getD 0

theorem mem_dst_rect {op : UpdateOperation} {point : QPoint} :
    point ∈ op.dstRect ↔ point.add op.moveVector ∈ op.srcRect := by
  rw [dstRect, QRect.mem_of_size, QRect.mem_iff]
  simp only [QPoint.add, moveVector, QPoint.sub, QRect.topLeft, QRect.width, QRect.height]
  omega

end UpdateOperation

def Draws (ops : List UpdateOperation) (point : QPoint) (stroke : Stroke) : Prop :=
  ∃ op ∈ ops, op.strokeAt point = some stroke

theorem draws_append (first second : List UpdateOperation) (point : QPoint) (stroke : Stroke) :
    Draws (first ++ second) point stroke ↔ Draws first point stroke ∨ Draws second point stroke := by
  simp [Draws, or_and_right, exists_or]

theorem draws_of_subset {first second : List UpdateOperation} {point : QPoint} {stroke : Stroke}
    (included : ∀ op ∈ first, op ∈ second) (drawn : Draws first point stroke) :
    Draws second point stroke := by
  rcases drawn with ⟨op, member, hit⟩
  exact ⟨op, included op member, hit⟩

section Hashing

variable {Key : Type} [DecidableEq Key]

/-- `hash[key].append(op)`. A `QHash` is iterated in an unspecified order; the
list keeps the keys in the order of their first insertion. -/
def insertHashed (key : Key) (op : UpdateOperation) :
    List (Key × List UpdateOperation) → List (Key × List UpdateOperation)
  | [] => [(key, [op])]
  | (other, ops) :: rest =>
      if other = key then (other, ops ++ [op]) :: rest
      else (other, ops) :: insertHashed key op rest

def hashOperations (keyOf : UpdateOperation → Key) (ops : List UpdateOperation) :
    List (Key × List UpdateOperation) :=
  ops.foldl (fun hashed op => insertHashed (keyOf op) op hashed) []

theorem mem_insert_hashed (key : Key) (op : UpdateOperation)
    (hashed : List (Key × List UpdateOperation)) (wanted : Key) (candidate : UpdateOperation) :
    (∃ entry ∈ insertHashed key op hashed, entry.1 = wanted ∧ candidate ∈ entry.2) ↔
      (∃ entry ∈ hashed, entry.1 = wanted ∧ candidate ∈ entry.2) ∨
        (wanted = key ∧ candidate = op) := by
  induction hashed with
  | nil => simp [insertHashed, eq_comm]
  | cons entry rest induction =>
      rcases entry with ⟨other, ops⟩
      simp only [insertHashed]
      split_ifs with same
      · subst same
        simp only [List.mem_cons, exists_eq_or_imp, List.mem_append, List.not_mem_nil, or_false,
          @eq_comm Key wanted, and_or_left]
        rw [or_right_comm]
      · simp only [List.mem_cons, exists_eq_or_imp, induction]
        rw [or_assoc]

theorem mem_hash_operations (keyOf : UpdateOperation → Key) (ops : List UpdateOperation)
    (wanted : Key) (candidate : UpdateOperation) :
    (∃ entry ∈ hashOperations keyOf ops, entry.1 = wanted ∧ candidate ∈ entry.2) ↔
      candidate ∈ ops ∧ keyOf candidate = wanted := by
  have generalised : ∀ hashed : List (Key × List UpdateOperation),
      (∃ entry ∈ ops.foldl (fun hashed op => insertHashed (keyOf op) op hashed) hashed,
        entry.1 = wanted ∧ candidate ∈ entry.2) ↔
      (∃ entry ∈ hashed, entry.1 = wanted ∧ candidate ∈ entry.2) ∨
        (candidate ∈ ops ∧ keyOf candidate = wanted) := by
    induction ops with
    | nil => simp
    | cons op ops induction =>
        intro hashed
        rw [List.foldl_cons, induction, mem_insert_hashed]
        simp only [List.mem_cons]
        constructor
        · rintro ((old | ⟨same, rfl⟩) | later)
          · exact Or.inl old
          · exact Or.inr ⟨Or.inl rfl, same.symm⟩
          · exact Or.inr ⟨Or.inr later.1, later.2⟩
        · rintro (old | ⟨rfl | later, same⟩)
          · exact Or.inl (Or.inl old)
          · exact Or.inl (Or.inr ⟨same.symm, rfl⟩)
          · exact Or.inr ⟨later, same⟩
  have whole := generalised []
  simpa [hashOperations] using whole

end Hashing

/-- The rectangles of the region a group of operations reads or fills. -/
def unitedRects (regionRects : RegionRects) (ops : List UpdateOperation) : List QRect :=
  verticallyUniteRects (regionRects.rects (ops.map UpdateOperation.srcRect))

theorem mem_united_rects (regionRects : RegionRects) (ops : List UpdateOperation)
    (point : QPoint) :
    (∃ rect ∈ unitedRects regionRects ops, point ∈ rect) ↔ ∃ op ∈ ops, point ∈ op.srcRect := by
  rw [unitedRects, (vertically_unite_exact _ (regionRects.filled _)).2 point, regionRects.exact]
  simp

def optimizeVectorizedOperations (regionRects : RegionRects) (type : UpdateOperationType)
    (moveOps : List (QPoint × List UpdateOperation)) : List UpdateOperation :=
  moveOps.flatMap fun entry =>
    (unitedRects regionRects entry.2).map fun rect => ⟨type, rect, rect.topLeft.sub entry.1, none⟩

def optimizeFillOperations (regionRects : RegionRects)
    (fillOps : List (QColor × List UpdateOperation)) : List UpdateOperation :=
  fillOps.flatMap fun entry =>
    (unitedRects regionRects entry.2).map fun rect => ⟨uotFill, rect, rect.topLeft, entry.1⟩

def ofType (type : UpdateOperationType) (ops : List UpdateOperation) : List UpdateOperation :=
  ops.filter fun op => op.type == type

/-- The shorter list of two; the regrouped one must be strictly shorter. -/
def chooseShorter (newOps ops : List UpdateOperation) : List UpdateOperation :=
  if newOps.length < ops.length then newOps else ops

def optimizeUpdateOperations (regionRects : RegionRects) (ops : List UpdateOperation) :
    List UpdateOperation :=
  let updateOps := ofType uotUpdate ops
  let moveOps := ofType uotMove ops
  let fillOps := ofType uotFill ops
  let otherOps := ofType uotNoOp ops
  let newUpdateOps := optimizeVectorizedOperations regionRects uotUpdate
    (hashOperations UpdateOperation.moveVector updateOps)
  let newMoveOps := optimizeVectorizedOperations regionRects uotMove
    (hashOperations UpdateOperation.moveVector moveOps)
  let newFillOps := optimizeFillOperations regionRects
    (hashOperations UpdateOperation.fillColor fillOps)
  chooseShorter newUpdateOps updateOps ++ chooseShorter newFillOps fillOps ++
    chooseShorter newMoveOps moveOps ++ otherOps

theorem mem_of_type {type : UpdateOperationType} {ops : List UpdateOperation}
    {op : UpdateOperation} : op ∈ ofType type ops ↔ op ∈ ops ∧ op.type = type := by
  simp [ofType]

def vectorStroke : UpdateOperationType → QPoint → Option Stroke
  | uotUpdate, source => some (.fromAfter source)
  | uotMove, source => some (.fromBefore source)
  | _, _ => none

theorem vectorized_stroke {type : UpdateOperationType} (vectorized : type = uotUpdate ∨ type = uotMove)
    {op : UpdateOperation} (sameType : op.type = type) (point : QPoint) (stroke : Stroke) :
    op.strokeAt point = some stroke ↔
      point.add op.moveVector ∈ op.srcRect ∧
        vectorStroke type (point.add op.moveVector) = some stroke := by
  rw [← UpdateOperation.mem_dst_rect]
  rcases vectorized with rfl | rfl
  · simp [UpdateOperation.strokeAt, sameType, vectorStroke]
  · simp [UpdateOperation.strokeAt, sameType, vectorStroke]

theorem draws_optimize_vectorized (regionRects : RegionRects) {type : UpdateOperationType}
    (vectorized : type = uotUpdate ∨ type = uotMove) {ops : List UpdateOperation}
    (uniform : ∀ op ∈ ops, op.type = type) (point : QPoint) (stroke : Stroke) :
    Draws (optimizeVectorizedOperations regionRects type
        (hashOperations UpdateOperation.moveVector ops)) point stroke ↔
      Draws ops point stroke := by
  have newVector : ∀ (vector : QPoint) (rect : QRect),
      (UpdateOperation.mk type rect (rect.topLeft.sub vector) none).moveVector = vector := by
    intro vector rect
    apply QPoint.ext_coordinates
    · simp only [UpdateOperation.moveVector, QPoint.sub_x]
      omega
    · simp only [UpdateOperation.moveVector, QPoint.sub_y]
      omega
  constructor
  · rintro ⟨op, member, drawn⟩
    obtain ⟨entry, entryMember, opMember⟩ := List.mem_flatMap.mp member
    obtain ⟨rect, rectMember, rfl⟩ := List.mem_map.mp opMember
    rw [vectorized_stroke vectorized rfl, newVector] at drawn
    obtain ⟨source, sourceMember, inside⟩ :=
      (mem_united_rects regionRects entry.2 _).mp ⟨rect, rectMember, drawn.1⟩
    have original := (mem_hash_operations UpdateOperation.moveVector ops entry.1 source).mp
      ⟨entry, entryMember, rfl, sourceMember⟩
    refine ⟨source, original.1, ?_⟩
    rw [vectorized_stroke vectorized (uniform source original.1), original.2]
    exact ⟨inside, drawn.2⟩
  · rintro ⟨op, member, drawn⟩
    rw [vectorized_stroke vectorized (uniform op member)] at drawn
    obtain ⟨entry, entryMember, sameKey, opMember⟩ :=
      (mem_hash_operations UpdateOperation.moveVector ops op.moveVector op).mpr ⟨member, rfl⟩
    obtain ⟨rect, rectMember, inside⟩ :=
      (mem_united_rects regionRects entry.2 _).mpr ⟨op, opMember, drawn.1⟩
    refine ⟨_, List.mem_flatMap.mpr ⟨entry, entryMember, List.mem_map_of_mem rectMember⟩, ?_⟩
    rw [vectorized_stroke vectorized rfl, newVector, sameKey]
    exact ⟨inside, drawn.2⟩

theorem fill_stroke {op : UpdateOperation} (sameType : op.type = uotFill) (point : QPoint)
    (stroke : Stroke) :
    op.strokeAt point = some stroke ↔ point ∈ op.srcRect ∧ Stroke.solid op.fillColor = stroke := by
  simp [UpdateOperation.strokeAt, sameType]

theorem draws_optimize_fill (regionRects : RegionRects) {ops : List UpdateOperation}
    (uniform : ∀ op ∈ ops, op.type = uotFill) (point : QPoint) (stroke : Stroke) :
    Draws (optimizeFillOperations regionRects (hashOperations UpdateOperation.fillColor ops))
        point stroke ↔
      Draws ops point stroke := by
  constructor
  · rintro ⟨op, member, drawn⟩
    obtain ⟨entry, entryMember, opMember⟩ := List.mem_flatMap.mp member
    obtain ⟨rect, rectMember, rfl⟩ := List.mem_map.mp opMember
    rw [fill_stroke rfl] at drawn
    obtain ⟨source, sourceMember, inside⟩ :=
      (mem_united_rects regionRects entry.2 _).mp ⟨rect, rectMember, drawn.1⟩
    have original := (mem_hash_operations UpdateOperation.fillColor ops entry.1 source).mp
      ⟨entry, entryMember, rfl, sourceMember⟩
    refine ⟨source, original.1, ?_⟩
    rw [fill_stroke (uniform source original.1), original.2]
    exact ⟨inside, drawn.2⟩
  · rintro ⟨op, member, drawn⟩
    rw [fill_stroke (uniform op member)] at drawn
    obtain ⟨entry, entryMember, sameKey, opMember⟩ :=
      (mem_hash_operations UpdateOperation.fillColor ops op.fillColor op).mpr ⟨member, rfl⟩
    obtain ⟨rect, rectMember, inside⟩ :=
      (mem_united_rects regionRects entry.2 _).mpr ⟨op, opMember, drawn.1⟩
    refine ⟨_, List.mem_flatMap.mpr ⟨entry, entryMember, List.mem_map_of_mem rectMember⟩, ?_⟩
    rw [fill_stroke rfl, sameKey]
    exact ⟨inside, drawn.2⟩

theorem draws_choose_shorter {newOps ops : List UpdateOperation} {point : QPoint} {stroke : Stroke}
    (same : Draws newOps point stroke ↔ Draws ops point stroke) :
    Draws (chooseShorter newOps ops) point stroke ↔ Draws ops point stroke := by
  simp only [chooseShorter]
  split_ifs
  · exact same
  · exact Iff.rfl

theorem draws_by_type (ops : List UpdateOperation) (point : QPoint) (stroke : Stroke) :
    Draws ops point stroke ↔
      ((Draws (ofType uotUpdate ops) point stroke ∨ Draws (ofType uotFill ops) point stroke) ∨
        Draws (ofType uotMove ops) point stroke) ∨ Draws (ofType uotNoOp ops) point stroke := by
  constructor
  · rintro ⟨op, member, drawn⟩
    cases kind : op.type with
    | uotUpdate => exact Or.inl (Or.inl (Or.inl ⟨op, mem_of_type.mpr ⟨member, kind⟩, drawn⟩))
    | uotMove => exact Or.inl (Or.inr ⟨op, mem_of_type.mpr ⟨member, kind⟩, drawn⟩)
    | uotFill => exact Or.inl (Or.inl (Or.inr ⟨op, mem_of_type.mpr ⟨member, kind⟩, drawn⟩))
    | uotNoOp => exact Or.inr ⟨op, mem_of_type.mpr ⟨member, kind⟩, drawn⟩
  · rintro (((drawn | drawn) | drawn) | drawn)
    all_goals exact draws_of_subset (fun op member => (mem_of_type.mp member).1) drawn

/-- The optimised operations draw exactly the strokes of the given ones. -/
theorem draws_optimize_update_operations (regionRects : RegionRects) (ops : List UpdateOperation)
    (point : QPoint) (stroke : Stroke) :
    Draws (optimizeUpdateOperations regionRects ops) point stroke ↔ Draws ops point stroke := by
  simp only [optimizeUpdateOperations, draws_append]
  rw [draws_by_type ops,
    draws_choose_shorter (draws_optimize_vectorized regionRects (Or.inl rfl)
      (fun op member => (mem_of_type.mp member).2) point stroke),
    draws_choose_shorter (draws_optimize_fill regionRects
      (fun op member => (mem_of_type.mp member).2) point stroke),
    draws_choose_shorter (draws_optimize_vectorized regionRects (Or.inr rfl)
      (fun op member => (mem_of_type.mp member).2) point stroke)]

end Viridity.ImageComparerOpTools
