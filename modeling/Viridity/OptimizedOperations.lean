import Viridity.ImageComparerOpTools

/-!
# What the optimiser keeps

Where the destinations of the operations do not overlap, the optimised operations paint the
same picture on destinations that do not overlap either, and there are not more of any kind.
-/

namespace Viridity.OptimizedOperations

open Viridity.QtRectangle
open Viridity.ImageAux
open Viridity.PaintedCanvas
open Viridity.TileOperations
open Viridity.ImageComparerOpTools
open UpdateOperationType

set_option autoImplicit false

def Apart (first second : QRect) : Prop := ∀ point, ¬(point ∈ first ∧ point ∈ second)

theorem apart_symm {first second : QRect} (apart : Apart first second) : Apart second first := by
  intro point both
  exact apart point ⟨both.2, both.1⟩

section Uniting

/-- The rectangles united so far overlap neither each other nor the remaining ones, and begin
above them. -/
structure Uniting (result remaining : List QRect) : Prop where
  filled : ∀ rect ∈ result, rect.isEmpty = false
  remainingFilled : ∀ rect ∈ remaining, rect.isEmpty = false
  apart : result.Pairwise Apart
  remainingApart : remaining.Pairwise Apart
  remainingOrdered : remaining.Pairwise fun first second => first.y1 ≤ second.y1
  between : ∀ rect ∈ result, ∀ other ∈ remaining, Apart rect other ∧ rect.y1 ≤ other.y1

variable {result remaining : List QRect} {inputRect : QRect}

theorem adjacent_above (uniting : Uniting result (inputRect :: remaining)) {rect : QRect}
    (member : rect ∈ result) (adjacent : verticallyAdjacent rect inputRect = true) :
    rect.y2 + 1 = inputRect.y1 ∧ rect.x1 = inputRect.x1 ∧ rect.x2 = inputRect.x2 := by
  have extent := QRect.not_is_empty_iff.mp (uniting.remainingFilled inputRect List.mem_cons_self)
  have above := (uniting.between rect member inputRect List.mem_cons_self).2
  simp only [verticallyAdjacent, QRect.width, Bool.and_eq_true, Bool.or_eq_true, beq_iff_eq]
    at adjacent
  omega

theorem adjacent_alone (uniting : Uniting result (inputRect :: remaining)) {first second : QRect}
    (firstMember : first ∈ result) (secondMember : second ∈ result) (apart : Apart first second)
    (firstAdjacent : verticallyAdjacent first inputRect = true)
    (secondAdjacent : verticallyAdjacent second inputRect = true) : False := by
  have inputExtent := QRect.not_is_empty_iff.mp
    (uniting.remainingFilled inputRect List.mem_cons_self)
  have firstExtent := QRect.not_is_empty_iff.mp (uniting.filled first firstMember)
  have secondExtent := QRect.not_is_empty_iff.mp (uniting.filled second secondMember)
  have firstAbove := adjacent_above uniting firstMember firstAdjacent
  have secondAbove := adjacent_above uniting secondMember secondAdjacent
  apply apart ⟨inputRect.x1, inputRect.y1 - 1⟩
  constructor
  · rw [QRect.mem_iff]
    dsimp only
    omega
  · rw [QRect.mem_iff]
    dsimp only
    omega

theorem united_apart (uniting : Uniting result (inputRect :: remaining)) {rect other : QRect}
    (member : rect ∈ result) (adjacent : verticallyAdjacent rect inputRect = true)
    (apart : Apart rect other) (inputApart : Apart inputRect other) :
    Apart (rect.united inputRect) other := by
  have united := (united_adjacent (uniting.filled rect member)
    (uniting.remainingFilled inputRect List.mem_cons_self) adjacent).2
  rintro point ⟨inside, inOther⟩
  rcases (united point).mp inside with old | new
  · exact apart point ⟨old, inOther⟩
  · exact inputApart point ⟨new, inOther⟩

theorem united_top (uniting : Uniting result (inputRect :: remaining)) {rect : QRect}
    (member : rect ∈ result) (adjacent : verticallyAdjacent rect inputRect = true) :
    (rect.united inputRect).y1 ≤ inputRect.y1 := by
  have inputFilled := uniting.remainingFilled inputRect List.mem_cons_self
  have united := united_adjacent (uniting.filled rect member) inputFilled adjacent
  have corner := (united.2 inputRect.topLeft).mpr (Or.inr (QRect.top_left_mem inputFilled))
  exact (QRect.mem_iff.mp corner).2.2.1

theorem unite_into_step (uniting : Uniting result (inputRect :: remaining)) :
    Uniting (uniteInto result inputRect) remaining := by
  have inputFilled := uniting.remainingFilled inputRect List.mem_cons_self
  have inputApart := (List.pairwise_cons.mp uniting.remainingApart).1
  have inputOrdered := (List.pairwise_cons.mp uniting.remainingOrdered).1
  have inputBetween : ∀ rect ∈ result, Apart rect inputRect := fun rect member =>
    (uniting.between rect member inputRect List.mem_cons_self).1
  refine ⟨(unite_into_exact uniting.filled inputFilled).1,
    fun rect member => uniting.remainingFilled rect (List.mem_cons_of_mem _ member), ?_,
    (List.pairwise_cons.mp uniting.remainingApart).2,
    (List.pairwise_cons.mp uniting.remainingOrdered).2, ?_⟩
  · unfold uniteInto
    split_ifs
    · rw [List.pairwise_map]
      apply uniting.apart.imp_of_mem
      intro first second firstMember secondMember apart
      split_ifs with firstAdjacent secondAdjacent secondAdjacent
      · exact absurd (adjacent_alone uniting firstMember secondMember apart firstAdjacent
          secondAdjacent) id
      · exact united_apart uniting firstMember firstAdjacent apart
          (apart_symm (inputBetween second secondMember))
      · exact apart_symm (united_apart uniting secondMember secondAdjacent (apart_symm apart)
          (apart_symm (inputBetween first firstMember)))
      · exact apart
    · rw [List.pairwise_append]
      refine ⟨uniting.apart, List.pairwise_singleton _ _, ?_⟩
      intro rect member input inputMember
      rw [List.mem_singleton.mp inputMember]
      exact inputBetween rect member
  · intro rect member other otherMember
    have otherApart := inputApart other otherMember
    have otherBelow := inputOrdered other otherMember
    unfold uniteInto at member
    split_ifs at member
    · obtain ⟨source, sourceMember, rfl⟩ := List.mem_map.mp member
      have kept := uniting.between source sourceMember other (List.mem_cons_of_mem _ otherMember)
      split_ifs with adjacent
      · exact ⟨united_apart uniting sourceMember adjacent kept.1 otherApart,
          Int.le_trans (united_top uniting sourceMember adjacent) otherBelow⟩
      · exact kept
    · rcases List.mem_append.mp member with old | new
      · exact uniting.between rect old other (List.mem_cons_of_mem _ otherMember)
      · rw [List.mem_singleton.mp new]
        exact ⟨otherApart, otherBelow⟩

theorem ordered_unite_apart {rects : List QRect} (filled : ∀ rect ∈ rects, rect.isEmpty = false)
    (apart : rects.Pairwise Apart)
    (ordered : rects.Pairwise fun first second => first.y1 ≤ second.y1) :
    (verticallyUniteRects rects).Pairwise Apart := by
  have folded : ∀ remaining result : List QRect, Uniting result remaining →
      (remaining.foldl uniteInto result).Pairwise Apart := by
    intro remaining
    induction remaining with
    | nil =>
        intro result uniting
        exact uniting.apart
    | cons inputRect remaining induction =>
        intro result uniting
        exact induction _ (unite_into_step uniting)
  apply folded
  exact ⟨by simp, filled, List.Pairwise.nil, apart, ordered, by simp⟩

theorem vertically_unite_apart (regionRects : RegionRects) (added : List QRect) :
    (verticallyUniteRects (regionRects.rects added)).Pairwise Apart := by
  apply ordered_unite_apart (regionRects.filled added) (regionRects.apart added)
  apply (regionRects.ordered added).imp
  intro first second before
  omega

end Uniting

/-- The rectangle an operation writes. A fill writes its source rectangle. -/
def destination (op : UpdateOperation) : QRect :=
  match op.type with
  | uotFill => op.srcRect
  | _ => op.dstRect

def DestinationsApart (ops : List UpdateOperation) : Prop :=
  ops.Pairwise fun first second => Apart (destination first) (destination second)

section Kept

variable {ops : List UpdateOperation} {point : QPoint}

theorem destination_alone (apart : DestinationsApart ops) {first second : UpdateOperation}
    (firstMember : first ∈ ops) (secondMember : second ∈ ops) (inFirst : point ∈ destination first)
    (inSecond : point ∈ destination second) : first = second := by
  by_contra different
  have symmetric : Std.Symm fun first second : UpdateOperation =>
      Apart (destination first) (destination second) := ⟨fun _ _ => apart_symm⟩
  have separate := List.Pairwise.forall apart firstMember secondMember different
  exact separate point ⟨inFirst, inSecond⟩

theorem stroke_in_destination {op : UpdateOperation} {stroke : Stroke}
    (drawn : op.strokeAt point = some stroke) : point ∈ destination op := by
  unfold UpdateOperation.strokeAt at drawn
  unfold destination
  cases kind : op.type with
  | uotUpdate =>
      rw [kind] at drawn
      dsimp only at drawn ⊢
      split_ifs at drawn with inside
      exact inside
  | uotMove =>
      rw [kind] at drawn
      dsimp only at drawn ⊢
      split_ifs at drawn with inside
      exact inside
  | uotFill =>
      rw [kind] at drawn
      dsimp only at drawn ⊢
      split_ifs at drawn with inside
      exact inside
  | uotNoOp =>
      rw [kind] at drawn
      cases drawn

theorem draws_alone (apart : DestinationsApart ops) {first second : Stroke}
    (firstDrawn : Draws ops point first) (secondDrawn : Draws ops point second) :
    first = second := by
  obtain ⟨firstOp, firstMember, firstHit⟩ := firstDrawn
  obtain ⟨secondOp, secondMember, secondHit⟩ := secondDrawn
  have same := destination_alone apart firstMember secondMember
    (stroke_in_destination firstHit) (stroke_in_destination secondHit)
  rw [same, secondHit] at firstHit
  exact (Option.some.inj firstHit).symm

variable (before after : QImage) (canvas : QPoint → QRgb)

theorem covers_iff {op : UpdateOperation} : (op.patch before after).covers point = true ↔
    ∃ stroke, op.strokeAt point = some stroke ∧ stroke.visible before = true := by
  unfold UpdateOperation.patch
  dsimp only
  cases op.strokeAt point with
  | none => simp
  | some stroke => simp

/-- Where one stroke is drawn, painting leaves its colour, whatever the order. -/
theorem paint_stroke (alone : ∀ first second, Draws ops point first → Draws ops point second →
      first = second) {stroke : Stroke} (drawn : Draws ops point stroke)
    (visible : stroke.visible before = true) :
    paintAll canvas (ops.map (UpdateOperation.patch before after)) point =
      stroke.colour before after := by
  apply paint_all_target canvas (fun _ => stroke.colour before after)
  · intro patch member covered
    obtain ⟨op, opMember, rfl⟩ := List.mem_map.mp member
    obtain ⟨other, hit, _⟩ := (covers_iff before after).mp covered
    have same := alone other stroke ⟨op, opMember, hit⟩ drawn
    unfold UpdateOperation.patch
    dsimp only
    rw [hit, same]
    rfl
  · right
    obtain ⟨op, member, hit⟩ := drawn
    exact ⟨_, List.mem_map_of_mem member, (covers_iff before after).mpr ⟨stroke, hit, visible⟩⟩

theorem paint_no_stroke
    (nothing : ∀ stroke, Draws ops point stroke → stroke.visible before = false) :
    paintAll canvas (ops.map (UpdateOperation.patch before after)) point = canvas point := by
  apply paint_all_uncovered
  intro patch member
  obtain ⟨op, opMember, rfl⟩ := List.mem_map.mp member
  rw [Bool.eq_false_iff]
  intro covered
  obtain ⟨stroke, hit, visible⟩ := (covers_iff before after).mp covered
  rw [nothing stroke ⟨op, opMember, hit⟩] at visible
  cases visible

/-- Lists that draw the same strokes, one at a point, paint the same picture. -/
theorem paint_same_strokes {others : List UpdateOperation} (apart : DestinationsApart ops)
    (same : ∀ point stroke, Draws others point stroke ↔ Draws ops point stroke) :
    paintAll canvas (others.map (UpdateOperation.patch before after)) =
      paintAll canvas (ops.map (UpdateOperation.patch before after)) := by
  funext point
  by_cases painted : ∃ stroke, Draws ops point stroke ∧ stroke.visible before = true
  · obtain ⟨stroke, drawn, visible⟩ := painted
    rw [paint_stroke before after canvas (fun _ _ => draws_alone apart) drawn visible]
    apply paint_stroke before after canvas _ ((same point stroke).mpr drawn) visible
    intro first second firstDrawn secondDrawn
    exact draws_alone apart ((same point first).mp firstDrawn) ((same point second).mp secondDrawn)
  · have nothing : ∀ stroke, Draws ops point stroke → stroke.visible before = false := by
      intro stroke drawn
      rw [Bool.eq_false_iff]
      intro visible
      exact painted ⟨stroke, drawn, visible⟩
    rw [paint_no_stroke before after canvas nothing, paint_no_stroke before after canvas]
    intro stroke drawn
    exact nothing stroke ((same point stroke).mp drawn)

end Kept

section Regrouping

variable {Key : Type} [DecidableEq Key]

theorem insert_hashed_keys {key : Key} {op : UpdateOperation}
    {hashed : List (Key × List UpdateOperation)} {entry : Key × List UpdateOperation}
    (member : entry ∈ insertHashed key op hashed) :
    entry.1 = key ∨ ∃ other ∈ hashed, other.1 = entry.1 := by
  induction hashed with
  | nil =>
      unfold insertHashed at member
      rw [List.mem_singleton.mp member]
      exact Or.inl rfl
  | cons head rest induction =>
      unfold insertHashed at member
      split_ifs at member with same
      · rcases List.mem_cons.mp member with here | later
        · rw [here]
          exact Or.inl same
        · exact Or.inr ⟨entry, List.mem_cons_of_mem _ later, rfl⟩
      · rcases List.mem_cons.mp member with here | later
        · rw [here]
          exact Or.inr ⟨head, List.mem_cons_self, rfl⟩
        · rcases induction later with new | ⟨other, otherMember, old⟩
          · exact Or.inl new
          · exact Or.inr ⟨other, List.mem_cons_of_mem _ otherMember, old⟩

theorem hash_operations_keys (keyOf : UpdateOperation → Key) (ops : List UpdateOperation) :
    (hashOperations keyOf ops).Pairwise fun first second => first.1 ≠ second.1 := by
  have inserted : ∀ (key : Key) (op : UpdateOperation) (hashed : List (Key × List UpdateOperation)),
      (hashed.Pairwise fun first second => first.1 ≠ second.1) →
      (insertHashed key op hashed).Pairwise fun first second => first.1 ≠ second.1 := by
    intro key op hashed distinct
    induction hashed with
    | nil => exact List.pairwise_singleton _ _
    | cons head rest induction =>
        have parts := List.pairwise_cons.mp distinct
        unfold insertHashed
        split_ifs with same
        · exact List.pairwise_cons.mpr ⟨parts.1, parts.2⟩
        · refine List.pairwise_cons.mpr ⟨?_, induction parts.2⟩
          intro entry member
          rcases insert_hashed_keys member with new | ⟨other, otherMember, old⟩
          · rw [new]
            exact same
          · rw [← old]
            exact parts.1 other otherMember
  have folded : ∀ hashed : List (Key × List UpdateOperation),
      (hashed.Pairwise fun first second => first.1 ≠ second.1) →
      (ops.foldl (fun hashed op => insertHashed (keyOf op) op hashed) hashed).Pairwise
        fun first second => first.1 ≠ second.1 := by
    induction ops with
    | nil =>
        intro hashed distinct
        exact distinct
    | cons op ops induction =>
        intro hashed distinct
        exact induction _ (inserted (keyOf op) op hashed distinct)
  exact folded [] List.Pairwise.nil

variable (regionRects : RegionRects) {keyOf : UpdateOperation → Key}
variable {build : Key → QRect → UpdateOperation} {moved : Key → QPoint → QPoint}
variable {ops : List UpdateOperation}

/-- Each point a regrouped operation writes was written by an operation of its group. -/
theorem regrouped_origin
    (built : ∀ key rect point, point ∈ destination (build key rect) ↔ moved key point ∈ rect)
    (given : ∀ op ∈ ops, ∀ point, point ∈ destination op ↔ moved (keyOf op) point ∈ op.srcRect)
    {entry : Key × List UpdateOperation} (entryMember : entry ∈ hashOperations keyOf ops)
    {rect : QRect} (rectMember : rect ∈ unitedRects regionRects entry.2) {point : QPoint}
    (inside : point ∈ destination (build entry.1 rect)) :
    ∃ op ∈ ops, keyOf op = entry.1 ∧ point ∈ destination op := by
  obtain ⟨op, member, inSource⟩ := (mem_united_rects regionRects entry.2 _).mp
    ⟨rect, rectMember, (built entry.1 rect point).mp inside⟩
  have original := (mem_hash_operations keyOf ops entry.1 op).mp ⟨entry, entryMember, rfl, member⟩
  refine ⟨op, original.1, original.2, ?_⟩
  rw [given op original.1, original.2]
  exact inSource

theorem regrouped_apart
    (built : ∀ key rect point, point ∈ destination (build key rect) ↔ moved key point ∈ rect)
    (given : ∀ op ∈ ops, ∀ point, point ∈ destination op ↔ moved (keyOf op) point ∈ op.srcRect)
    (apart : DestinationsApart ops) :
    DestinationsApart ((hashOperations keyOf ops).flatMap fun entry =>
      (unitedRects regionRects entry.2).map (build entry.1)) := by
  unfold DestinationsApart
  rw [List.pairwise_flatMap]
  constructor
  · intro entry _
    rw [List.pairwise_map]
    apply (vertically_unite_apart regionRects _).imp
    intro first second separate point both
    exact separate (moved entry.1 point)
      ⟨(built entry.1 first point).mp both.1, (built entry.1 second point).mp both.2⟩
  · apply (hash_operations_keys keyOf ops).imp_of_mem
    intro first second firstEntry secondEntry distinct firstOp firstMember secondOp secondMember
      point both
    obtain ⟨firstRect, firstRectMember, rfl⟩ := List.mem_map.mp firstMember
    obtain ⟨secondRect, secondRectMember, rfl⟩ := List.mem_map.mp secondMember
    obtain ⟨left, leftMember, leftKey, inLeft⟩ :=
      regrouped_origin regionRects built given firstEntry firstRectMember both.1
    obtain ⟨right, rightMember, rightKey, inRight⟩ :=
      regrouped_origin regionRects built given secondEntry secondRectMember both.2
    have same := destination_alone apart leftMember rightMember inLeft inRight
    exact distinct (leftKey.symm.trans (same ▸ rightKey))

end Regrouping

/-- Operations of one type whose destinations are apart and inside those of the given ones. -/
structure Regrouped (type : UpdateOperationType) (newOps ops : List UpdateOperation) : Prop where
  uniform : ∀ op ∈ newOps, op.type = type
  apart : DestinationsApart newOps
  origin : ∀ op ∈ newOps, ∀ point ∈ destination op, ∃ original ∈ ops, point ∈ destination original

section Kinds

variable (regionRects : RegionRects) {type : UpdateOperationType} {ops newOps : List UpdateOperation}

theorem mem_vector_destination (vectorized : type = uotUpdate ∨ type = uotMove)
    {op : UpdateOperation} (sameType : op.type = type) (point : QPoint) :
    point ∈ destination op ↔ point.add op.moveVector ∈ op.srcRect := by
  rw [← UpdateOperation.mem_dst_rect]
  unfold destination
  rcases vectorized with rfl | rfl
  · rw [sameType]
  · rw [sameType]

theorem regrouped_vectorized (vectorized : type = uotUpdate ∨ type = uotMove)
    (uniform : ∀ op ∈ ops, op.type = type) (apart : DestinationsApart ops) :
    Regrouped type (optimizeVectorizedOperations regionRects type
      (hashOperations UpdateOperation.moveVector ops)) ops := by
  have built : ∀ (vector : QPoint) (rect : QRect) (point : QPoint),
      point ∈ destination ⟨type, rect, rect.topLeft.sub vector, none⟩ ↔
        point.add vector ∈ rect := by
    intro vector rect point
    have sameVector : (UpdateOperation.mk type rect (rect.topLeft.sub vector) none).moveVector =
        vector := by
      apply QPoint.ext_coordinates
      · simp only [UpdateOperation.moveVector, QPoint.sub_x]
        omega
      · simp only [UpdateOperation.moveVector, QPoint.sub_y]
        omega
    rw [mem_vector_destination vectorized rfl, sameVector]
  have given : ∀ op ∈ ops, ∀ point, point ∈ destination op ↔
      point.add op.moveVector ∈ op.srcRect := fun op member point =>
    mem_vector_destination vectorized (uniform op member) point
  constructor
  · intro op member
    obtain ⟨entry, _, opMember⟩ := List.mem_flatMap.mp member
    obtain ⟨rect, _, rfl⟩ := List.mem_map.mp opMember
    rfl
  · exact @regrouped_apart _ _ regionRects UpdateOperation.moveVector
      (fun vector rect => ⟨type, rect, rect.topLeft.sub vector, none⟩)
      (fun vector point => point.add vector) ops built given apart
  · intro op member point inside
    obtain ⟨entry, entryMember, opMember⟩ := List.mem_flatMap.mp member
    obtain ⟨rect, rectMember, rfl⟩ := List.mem_map.mp opMember
    obtain ⟨original, originalMember, _, inOriginal⟩ :=
      @regrouped_origin _ _ regionRects UpdateOperation.moveVector
        (fun vector rect => ⟨type, rect, rect.topLeft.sub vector, none⟩)
        (fun vector point => point.add vector) ops built given entry entryMember rect rectMember
        point inside
    exact ⟨original, originalMember, inOriginal⟩

theorem regrouped_fill (uniform : ∀ op ∈ ops, op.type = uotFill) (apart : DestinationsApart ops) :
    Regrouped uotFill (optimizeFillOperations regionRects
      (hashOperations UpdateOperation.fillColor ops)) ops := by
  have built : ∀ (colour : QColor) (rect : QRect) (point : QPoint),
      point ∈ destination ⟨uotFill, rect, rect.topLeft, colour⟩ ↔ point ∈ rect :=
    fun _ _ _ => Iff.rfl
  have given : ∀ op ∈ ops, ∀ point, point ∈ destination op ↔ point ∈ op.srcRect := by
    intro op member point
    unfold destination
    rw [uniform op member]
  constructor
  · intro op member
    obtain ⟨entry, _, opMember⟩ := List.mem_flatMap.mp member
    obtain ⟨rect, _, rfl⟩ := List.mem_map.mp opMember
    rfl
  · exact @regrouped_apart _ _ regionRects UpdateOperation.fillColor
      (fun colour rect => ⟨uotFill, rect, rect.topLeft, colour⟩) (fun _ point => point) ops built
      given apart
  · intro op member point inside
    obtain ⟨entry, entryMember, opMember⟩ := List.mem_flatMap.mp member
    obtain ⟨rect, rectMember, rfl⟩ := List.mem_map.mp opMember
    obtain ⟨original, originalMember, _, inOriginal⟩ :=
      @regrouped_origin _ _ regionRects UpdateOperation.fillColor
        (fun colour rect => ⟨uotFill, rect, rect.topLeft, colour⟩) (fun _ point => point) ops built
        given entry entryMember rect rectMember point inside
    exact ⟨original, originalMember, inOriginal⟩

/-- The list that is chosen keeps what both have, and is not longer than the given one. -/
theorem chosen_regrouped (regrouped : Regrouped type newOps (ofType type ops))
    (apart : DestinationsApart (ofType type ops)) :
    Regrouped type (chooseShorter newOps (ofType type ops)) (ofType type ops) ∧
      (chooseShorter newOps (ofType type ops)).length ≤ (ofType type ops).length := by
  unfold chooseShorter
  split_ifs with shorter
  · exact ⟨regrouped, by omega⟩
  · exact ⟨⟨fun op member => (mem_of_type.mp member).2, apart,
      fun op member point inside => ⟨op, member, inside⟩⟩, Nat.le_refl _⟩

end Kinds

section Whole

variable (regionRects : RegionRects) {ops : List UpdateOperation}

theorem of_type_uniform {type : UpdateOperationType} {newOps : List UpdateOperation}
    (uniform : ∀ op ∈ newOps, op.type = type) (other : UpdateOperationType) :
    ofType other newOps = if other = type then newOps else [] := by
  unfold ofType
  split_ifs with same
  · rw [List.filter_eq_self]
    intro op member
    rw [uniform op member, same, beq_self_eq_true]
  · rw [List.filter_eq_nil_iff]
    intro op member
    rw [uniform op member, beq_iff_eq]
    exact fun equal => same equal.symm

theorem types_apart (apart : DestinationsApart ops) {first second : UpdateOperationType}
    (different : first ≠ second) {firstOps secondOps : List UpdateOperation}
    (firstRegrouped : Regrouped first firstOps (ofType first ops))
    (secondRegrouped : Regrouped second secondOps (ofType second ops)) :
    ∀ op ∈ firstOps, ∀ other ∈ secondOps, Apart (destination op) (destination other) := by
  intro op member other otherMember point both
  obtain ⟨left, leftMember, inLeft⟩ := firstRegrouped.origin op member point both.1
  obtain ⟨right, rightMember, inRight⟩ := secondRegrouped.origin other otherMember point both.2
  obtain ⟨leftGiven, leftType⟩ := mem_of_type.mp leftMember
  obtain ⟨rightGiven, rightType⟩ := mem_of_type.mp rightMember
  have same := destination_alone apart leftGiven rightGiven inLeft inRight
  exact different (leftType.symm.trans (same ▸ rightType))

/-- The four parts of the optimised list. -/
theorem optimized_parts (apart : DestinationsApart ops) :
    ∃ updates fills moves, optimizeUpdateOperations regionRects ops =
        updates ++ fills ++ moves ++ ofType uotNoOp ops ∧
      (Regrouped uotUpdate updates (ofType uotUpdate ops) ∧
        updates.length ≤ (ofType uotUpdate ops).length) ∧
      (Regrouped uotFill fills (ofType uotFill ops) ∧
        fills.length ≤ (ofType uotFill ops).length) ∧
      (Regrouped uotMove moves (ofType uotMove ops) ∧
        moves.length ≤ (ofType uotMove ops).length) := by
  have kind : ∀ type, DestinationsApart (ofType type ops) := fun type => apart.filter _
  have uniform : ∀ type, ∀ op ∈ ofType type ops, op.type = type := fun type op member =>
    (mem_of_type.mp member).2
  exact ⟨_, _, _, rfl,
    chosen_regrouped (regrouped_vectorized regionRects (Or.inl rfl) (uniform uotUpdate)
      (kind uotUpdate)) (kind uotUpdate),
    chosen_regrouped (regrouped_fill regionRects (uniform uotFill) (kind uotFill)) (kind uotFill),
    chosen_regrouped (regrouped_vectorized regionRects (Or.inr rfl) (uniform uotMove)
      (kind uotMove)) (kind uotMove)⟩

theorem optimized_apart (apart : DestinationsApart ops) :
    DestinationsApart (optimizeUpdateOperations regionRects ops) := by
  obtain ⟨updates, fills, moves, parts, updated, filled, moved⟩ := optimized_parts regionRects apart
  have rest : Regrouped uotNoOp (ofType uotNoOp ops) (ofType uotNoOp ops) :=
    ⟨fun op member => (mem_of_type.mp member).2, apart.filter _,
      fun op member point inside => ⟨op, member, inside⟩⟩
  unfold DestinationsApart
  rw [parts, List.pairwise_append, List.pairwise_append, List.pairwise_append]
  refine ⟨⟨⟨updated.1.apart, filled.1.apart, types_apart apart (by decide) updated.1 filled.1⟩,
    moved.1.apart, ?_⟩, rest.apart, ?_⟩
  · intro op member other otherMember
    rcases List.mem_append.mp member with update | fill
    · exact types_apart apart (by decide) updated.1 moved.1 op update other otherMember
    · exact types_apart apart (by decide) filled.1 moved.1 op fill other otherMember
  · intro op member other otherMember
    rcases List.mem_append.mp member with earlier | move
    · rcases List.mem_append.mp earlier with update | fill
      · exact types_apart apart (by decide) updated.1 rest op update other otherMember
      · exact types_apart apart (by decide) filled.1 rest op fill other otherMember
    · exact types_apart apart (by decide) moved.1 rest op move other otherMember

theorem optimized_counts (apart : DestinationsApart ops) (type : UpdateOperationType) :
    (ofType type (optimizeUpdateOperations regionRects ops)).length ≤ (ofType type ops).length := by
  obtain ⟨updates, fills, moves, parts, updated, filled, moved⟩ := optimized_parts regionRects apart
  have appended : ∀ left right : List UpdateOperation,
      ofType type (left ++ right) = ofType type left ++ ofType type right := by
    intro left right
    exact List.filter_append ..
  rw [parts, appended, appended, appended, of_type_uniform updated.1.uniform,
    of_type_uniform filled.1.uniform, of_type_uniform moved.1.uniform,
    of_type_uniform (fun op member => (mem_of_type.mp member).2)]
  cases type with
  | uotUpdate => simpa using updated.2
  | uotMove => simpa using moved.2
  | uotFill => simpa using filled.2
  | uotNoOp => simp

/-- Whatever the order in which the hashes are run through, the optimised operations paint what
the given ones paint, write separate destinations and are not more of any type. -/
theorem optimized_operations_keep (apart : DestinationsApart ops) {result : List UpdateOperation}
    (ordered : result.Perm (optimizeUpdateOperations regionRects ops)) :
    (∀ before after : QImage,
      paintAll before.pixel (result.map (UpdateOperation.patch before after)) =
        paintAll before.pixel (ops.map (UpdateOperation.patch before after))) ∧
      DestinationsApart result ∧
        ∀ type, (ofType type result).length ≤ (ofType type ops).length := by
  refine ⟨?_, ?_, ?_⟩
  · intro before after
    apply paint_same_strokes before after before.pixel apart
    intro point stroke
    rw [← draws_optimize_update_operations regionRects ops]
    constructor
    · exact draws_of_subset fun op member => ordered.mem_iff.mp member
    · exact draws_of_subset fun op member => ordered.mem_iff.mpr member
  · exact (ordered.pairwise_iff apart_symm).mpr (optimized_apart regionRects apart)
  · intro type
    have same := (ordered.filter fun op => op.type == type).length_eq
    exact Nat.le_trans (Nat.le_of_eq same) (optimized_counts regionRects apart type)

/-- Two updates side by side and a move that reads one of them. -/
def sampleOperations : List UpdateOperation :=
  [⟨uotUpdate, ⟨0, 0, 0, 0⟩, ⟨0, 0⟩, none⟩, ⟨uotMove, ⟨0, 0, 0, 0⟩, ⟨2, 0⟩, none⟩,
    ⟨uotUpdate, ⟨1, 0, 1, 0⟩, ⟨1, 0⟩, none⟩]

theorem sample_operations_keep :
    (∀ before after : QImage,
      paintAll before.pixel ((optimizeUpdateOperations RegionRects.pixelwise sampleOperations).map
          (UpdateOperation.patch before after)) =
        paintAll before.pixel (sampleOperations.map (UpdateOperation.patch before after))) ∧
      DestinationsApart (optimizeUpdateOperations RegionRects.pixelwise sampleOperations) ∧
        ∀ type, (ofType type (optimizeUpdateOperations RegionRects.pixelwise
          sampleOperations)).length ≤ (ofType type sampleOperations).length := by
  apply optimized_operations_keep RegionRects.pixelwise _ (List.Perm.refl _)
  have separate : ∀ first second : QRect, first.x2 < second.x1 ∨ second.x2 < first.x1 →
      Apart first second := by
    intro first second order point both
    rw [QRect.mem_iff, QRect.mem_iff] at both
    omega
  unfold DestinationsApart sampleOperations
  simp only [List.pairwise_cons, List.forall_mem_cons, List.not_mem_nil, false_imp_iff,
    implies_true, and_true, List.Pairwise.nil]
  exact ⟨⟨separate _ _ (Or.inl (by decide)), separate _ _ (Or.inl (by decide))⟩,
    separate _ _ (Or.inr (by decide))⟩

end Whole

end Viridity.OptimizedOperations
