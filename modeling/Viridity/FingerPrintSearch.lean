import Mathlib.Data.List.GetD
import Viridity.ImageAux

/-!
# Area fingerprints

Each column of an image holds one hash for every row. The search below is the
one compiled with `VIRIDITY_USE_NSN`; whether it finds every occurrence is left
open here, because a position counts only after the position matcher has compared
the pixels.
-/

namespace Viridity.FingerPrintSearch

open Viridity.QtRectangle
open Viridity.ImageAux

set_option autoImplicit false

structure AreaFingerPrintHash where
  hash : BitVec 32
  average : BitVec 32
deriving DecidableEq, Repr

namespace AreaFingerPrintHash

def zero : AreaFingerPrintHash := ⟨0, 0⟩

def add (current : AreaFingerPrintHash) (pixel : QRgb) : AreaFingerPrintHash :=
  ⟨current.hash + pixel, (current.average + pixel) >>> 1⟩

end AreaFingerPrintHash

abbrev AreaFingerPrint := List AreaFingerPrintHash

def hashLine (image : QImage) (left y width : Int) : AreaFingerPrintHash :=
  (List.range width.toNat).foldl
    (fun current (x : Nat) => current.add (image.pixel ⟨left + x, y⟩)) AreaFingerPrintHash.zero

def initFromImage (image : QImage) (area : QRect) : AreaFingerPrint :=
  let rect := area.intersected image.rect
  (List.range rect.height.toNat).map fun (y : Nat) => hashLine image rect.x1 (rect.y1 + y) rect.width

/-- `updateFromImage(image, area, startIndex)`: rewrites the rows from `startIndex` on,
as far as there are rows. -/
def updateRows (print : AreaFingerPrint) (image : QImage) (area : QRect) (startIndex : Int) :
    AreaFingerPrint :=
  if startIndex ≥ print.length then print
  else
    let rect := area.intersected image.rect
    let limY := min rect.height (print.length - startIndex)
    (List.range limY.toNat).foldl
      (fun data (y : Nat) =>
        data.set (startIndex + y).toNat (hashLine image rect.x1 (rect.y1 + y) rect.width)) print

/-- The comparison loop `while (i < needleSize2)` started at `i`; the result is
the value of `i` after it. -/
def matchedUpTo (haystack needle : AreaFingerPrint) (index needleSize2 : Nat) : Nat → Nat → Nat
  | 0, i => i
  | fuel + 1, i =>
      if i < needleSize2 ∧ needle.getD i AreaFingerPrintHash.zero =
          haystack.getD (index + i) AreaFingerPrintHash.zero then
        matchedUpTo haystack needle index needleSize2 fuel (i + 1)
      else i

/-- The search loop for needles of at least two rows. -/
def notSoNaive (haystack needle : AreaFingerPrint) (k l endIndex : Nat) : Nat → Nat → Option Nat
  | 0, _ => none
  | fuel + 1, index =>
      if index ≤ endIndex then
        if needle.getD 1 AreaFingerPrintHash.zero ≠
            haystack.getD (index + 1) AreaFingerPrintHash.zero then
          notSoNaive haystack needle k l endIndex fuel (index + k)
        else if needle.getD 0 AreaFingerPrintHash.zero =
              haystack.getD index AreaFingerPrintHash.zero ∧
            matchedUpTo haystack needle index (needle.length - 2) needle.length 2 =
              needle.length - 2 then
          some index
        else notSoNaive haystack needle k l endIndex fuel (index + l)
      else none

/-- The search loop for needles of one row. -/
def singleRow (haystack : AreaFingerPrint) (first : AreaFingerPrintHash) (endIndex : Nat) :
    Nat → Nat → Option Nat
  | 0, _ => none
  | fuel + 1, index =>
      if index ≤ endIndex then
        if haystack.getD index AreaFingerPrintHash.zero = first then some index
        else singleRow haystack first endIndex fuel (index + 1)
      else none

/-- `indexOf` for `startIndex >= 0`; `none` is the result `-1`. -/
def indexOf (haystack needle : AreaFingerPrint) (startIndex : Nat) (endIndex : Int) : Option Nat :=
  let haystackSize := haystack.length
  let needleSize := needle.length
  if needleSize > haystackSize ∨ needleSize = 0 ∨ haystackSize = 0 then none
  else if startIndex > haystackSize then none
  else
    let maxIndex : Int := haystackSize - needleSize
    let lastIndex := if endIndex ≤ 0 ∨ endIndex > maxIndex then maxIndex else endIndex
    if lastIndex < startIndex then none
    else if needleSize > 1 then
      if needle.getD 0 AreaFingerPrintHash.zero = needle.getD 1 AreaFingerPrintHash.zero then
        notSoNaive haystack needle 2 1 lastIndex.toNat (haystackSize + 1) startIndex
      else
        notSoNaive haystack needle 1 2 lastIndex.toNat (haystackSize + 1) startIndex
    else
      singleRow haystack (needle.getD 0 AreaFingerPrintHash.zero) lastIndex.toNat
        (haystackSize + 1) startIndex

structure AreaFingerPrints where
  width : Nat
  height : Nat
  fingerPrints : List AreaFingerPrint
  hashedArea : QRect

namespace AreaFingerPrints

def create : AreaFingerPrints := ⟨0, 0, [], QRect.null⟩

def templateWidth (prints : AreaFingerPrints) : Int :=
  prints.hashedArea.width - prints.width + 1

def initFromSize (prints : AreaFingerPrints) (width height templateWidth : Int) :
    AreaFingerPrints :=
  let newWidth := max 0 (width - templateWidth + 1)
  if newWidth ≠ prints.width ∨ height ≠ prints.height then
    { width := newWidth.toNat
      height := height.toNat
      fingerPrints :=
        List.replicate newWidth.toNat (List.replicate height.toNat AreaFingerPrintHash.zero)
      hashedArea := QRect.ofSize 0 0 width height }
  else prints

def updateFromImage (prints : AreaFingerPrints) (image : QImage) (area : QRect) :
    AreaFingerPrints :=
  let rect := prints.hashedArea.intersected (area.intersected image.rect)
  let leftLimit := max 0 (rect.x1 - prints.templateWidth + 1)
  let rightLimit := min (image.width - prints.templateWidth + 1) (rect.x1 + rect.width - 1)
  let startRow := rect.y1 - prints.hashedArea.y1
  { prints with
    fingerPrints := (List.range (rightLimit - leftLimit).toNat).foldl
      (fun fingerPrints (offset : Nat) =>
        fingerPrints.modify (leftLimit - prints.hashedArea.x1 + offset).toNat fun column =>
          updateRows column image
            (QRect.ofSize (leftLimit + offset) rect.y1 prints.templateWidth rect.height) startRow)
      prints.fingerPrints }

def initFromImage (prints : AreaFingerPrints) (image : QImage) (area : QRect)
    (templateWidth : Int) : AreaFingerPrints :=
  let rect := area.intersected image.rect
  let sized := prints.initFromSize rect.width rect.height templateWidth
  { sized with hashedArea := rect }.updateFromImage image rect

/-- `findPosition(needle, searchArea, result, matcher)`: the columns are tried from
left to right and a position counts when `positionMatches` accepts it. -/
def findPosition (prints : AreaFingerPrints) (needle : AreaFingerPrint) (searchArea : QRect)
    (positionMatches : QPoint → Bool) : Option QPoint :=
  let common := prints.hashedArea.intersected searchArea
  if common.height < needle.length then none
  else
    let narrowed := common.setWidth (common.width - prints.templateWidth + 1)
    let rect := narrowed.moveTo (narrowed.topLeft.sub prints.hashedArea.topLeft)
    let startIndex := rect.y1
    let endIndex := rect.y2 + 1 - needle.length
    (List.range (rect.x2 + 1 - rect.x1).toNat).findSome? fun (offset : Nat) =>
      let column := rect.x1 + offset
      match indexOf (prints.fingerPrints.getD column.toNat []) needle startIndex.toNat endIndex with
      | none => none
      | some index =>
          if positionMatches ⟨column, index⟩ then some ⟨column, index⟩ else none

/-- A position found has been accepted by the matcher, whatever the hashes are. -/
theorem find_position_matches {prints : AreaFingerPrints} {needle : AreaFingerPrint}
    {searchArea : QRect} {positionMatches : QPoint → Bool} {result : QPoint}
    (found : prints.findPosition needle searchArea positionMatches = some result) :
    positionMatches result = true := by
  simp only [findPosition] at found
  split_ifs at found
  obtain ⟨offset, _, hit⟩ := List.exists_of_findSome?_eq_some found
  split at hit
  · exact absurd hit (by simp)
  · split_ifs at hit with accepted
    simp only [Option.some.injEq] at hit
    exact hit ▸ accepted

end AreaFingerPrints

end Viridity.FingerPrintSearch
