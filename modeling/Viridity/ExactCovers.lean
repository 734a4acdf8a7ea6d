import Mathlib.Data.List.Pairwise
import Mathlib.Data.Set.Basic
import Mathlib.Tactic.Common

/-!
# Exact covers

Lists of parts, each with the set of points it stands for, that do not overlap and together
are a given set. Parts of an axis are given by their beginning and length, and covers of two
axes give the cover of their product.
-/

namespace Viridity.ExactCovers

set_option autoImplicit false

section Covers

variable {Part Point : Type*}

def Separate (first second : Set Point) : Prop := ∀ point ∈ first, point ∉ second

structure ExactCover (region : Part → Set Point) (parts : List Part) (whole : Set Point) :
    Prop where
  apart : parts.Pairwise fun first second => Separate (region first) (region second)
  union : ∀ point, (∃ part ∈ parts, point ∈ region part) ↔ point ∈ whole

variable {region : Part → Set Point} {parts front behind : List Part} {whole rest : Set Point}

theorem exact_cover_nil (region : Part → Set Point) : ExactCover region [] ∅ where
  apart := List.Pairwise.nil
  union := by simp

theorem exact_cover_singleton (region : Part → Set Point) (part : Part) :
    ExactCover region [part] (region part) where
  apart := List.pairwise_singleton _ _
  union := by simp

theorem ExactCover.within (cover : ExactCover region parts whole) {part : Part}
    (member : part ∈ parts) {point : Point} (inside : point ∈ region part) : point ∈ whole :=
  (cover.union point).mp ⟨part, member, inside⟩

theorem ExactCover.append (cover : ExactCover region front whole)
    (further : ExactCover region behind rest) (separate : Separate whole rest) :
    ExactCover region (front ++ behind) (whole ∪ rest) where
  apart := by
    rw [List.pairwise_append]
    refine ⟨cover.apart, further.apart, ?_⟩
    intro first firstMember second secondMember point inFirst inSecond
    exact separate point (cover.within firstMember inFirst) (further.within secondMember inSecond)
  union := by
    intro point
    rw [Set.mem_union, ← cover.union, ← further.union]
    simp only [List.mem_append, or_and_right, exists_or]

end Covers

section Stretches

def stretch (first behind : Int) : Set Int := {entry | first ≤ entry ∧ entry < behind}

/-- A part of an axis, from its beginning as far as it is long. -/
def span (part : Int × Int) : Set Int := stretch part.1 (part.1 + part.2)

theorem stretch_empty (first : Int) : stretch first first = ∅ := by
  ext entry
  simp only [stretch, Set.mem_ofPred_eq, Set.mem_empty_iff_false, iff_false, not_and]
  intro above
  omega

theorem stretch_joined {first middle last : Int} (before : first ≤ middle) (after : middle ≤ last) :
    stretch first middle ∪ stretch middle last = stretch first last := by
  ext entry
  simp only [stretch, Set.mem_union, Set.mem_ofPred_eq]
  omega

theorem stretch_separate (first middle last : Int) :
    Separate (stretch first middle) (stretch middle last) := by
  intro entry inFirst inSecond
  simp only [stretch, Set.mem_ofPred_eq] at inFirst inSecond
  omega

end Stretches

section Products

variable {Column Row Part Across Down Point : Type*} {columnRegion : Column → Set Across}
  {rowRegion : Row → Set Down} {region : Part → Set Point} {columns : List Column} {rows : List Row}
  {wide : Set Across} {tall : Set Down} {across : Point → Across} {down : Point → Down}
  {cell : Column → Row → Part}

/-- Row after row of cells covers the points whose two coordinates are covered. -/
theorem ExactCover.product (columnCover : ExactCover columnRegion columns wide)
    (rowCover : ExactCover rowRegion rows tall)
    (cells : ∀ column row point, point ∈ region (cell column row) ↔
      across point ∈ columnRegion column ∧ down point ∈ rowRegion row) :
    ExactCover region (rows.flatMap fun row => columns.map fun column => cell column row)
      {point | across point ∈ wide ∧ down point ∈ tall} where
  apart := by
    rw [List.pairwise_flatMap]
    constructor
    · intro row _
      rw [List.pairwise_map]
      apply columnCover.apart.imp
      intro first second separate point inFirst inSecond
      exact separate _ ((cells first row point).mp inFirst).1
        ((cells second row point).mp inSecond).1
    · apply rowCover.apart.imp
      intro first second separate part partMember other otherMember
      obtain ⟨column, _, same⟩ := List.mem_map.mp partMember
      obtain ⟨otherColumn, _, otherSame⟩ := List.mem_map.mp otherMember
      rw [← same, ← otherSame]
      intro point inPart inOther
      exact separate _ ((cells column first point).mp inPart).2
        ((cells otherColumn second point).mp inOther).2
  union := by
    intro point
    rw [Set.mem_ofPred_eq, ← columnCover.union, ← rowCover.union]
    constructor
    · intro covered
      obtain ⟨part, member, inside⟩ := covered
      obtain ⟨row, rowMember, partMember⟩ := List.mem_flatMap.mp member
      obtain ⟨column, columnMember, same⟩ := List.mem_map.mp partMember
      rw [← same, cells] at inside
      exact ⟨⟨column, columnMember, inside.1⟩, ⟨row, rowMember, inside.2⟩⟩
    · intro covered
      obtain ⟨⟨column, columnMember, inColumn⟩, ⟨row, rowMember, inRow⟩⟩ := covered
      refine ⟨cell column row, ?_, (cells column row point).mpr ⟨inColumn, inRow⟩⟩
      exact List.mem_flatMap.mpr ⟨row, rowMember, List.mem_map_of_mem columnMember⟩

end Products

end Viridity.ExactCovers
