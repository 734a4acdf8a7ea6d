import Mathlib.Algebra.Ring.Basic
import Mathlib.Tactic.Ring

/-!
# Compositing pixels

Pixels whose colours are multiplied by their alpha. An operator weighs the source and the
backdrop by factors that the alphas of both give, and pictures are composited point by point.
-/

namespace Viridity.Compositing

set_option autoImplicit false

variable {Number : Type*}

@[ext]
structure Pixel (Number : Type*) where
  alpha : Number
  red : Number
  green : Number
  blue : Number
deriving DecidableEq

namespace Pixel

section Operators

variable [CommRing Number]

def clear : Pixel Number := ⟨0, 0, 0, 0⟩

def scale (factor : Number) (pixel : Pixel Number) : Pixel Number :=
  ⟨factor * pixel.alpha, factor * pixel.red, factor * pixel.green, factor * pixel.blue⟩

def add (first second : Pixel Number) : Pixel Number :=
  ⟨first.alpha + second.alpha, first.red + second.red, first.green + second.green,
    first.blue + second.blue⟩

/-- The source hides the backdrop as far as it is opaque. -/
def sourceOver (source backdrop : Pixel Number) : Pixel Number :=
  add source (scale (1 - source.alpha) backdrop)

/-- Each is shown as far as the other is transparent. -/
def xor (source backdrop : Pixel Number) : Pixel Number :=
  add (scale (1 - backdrop.alpha) source) (scale (1 - source.alpha) backdrop)

theorem source_over_clear (source : Pixel Number) : sourceOver source clear = source := by
  ext <;> simp only [sourceOver, add, scale, clear] <;> ring

theorem xor_filled {backdrop : Pixel Number} (filled : backdrop.alpha = 1)
    (source : Pixel Number) : xor source backdrop = scale (1 - source.alpha) backdrop := by
  ext <;> simp only [xor, add, scale, filled] <;> ring

end Operators

end Pixel

section Pictures

variable {Point : Type*}

/-- The points that `covers` are composited with the source, the others keep their pixels. -/
def composite (operator : Pixel Number → Pixel Number → Pixel Number) (covers : Point → Bool)
    (source backdrop : Point → Pixel Number) : Point → Pixel Number :=
  fun point => if covers point then operator (source point) (backdrop point) else backdrop point

variable {operator : Pixel Number → Pixel Number → Pixel Number} {covers : Point → Bool}
variable {source backdrop : Point → Pixel Number} {point : Point}

theorem composite_covered (covered : covers point = true) :
    composite operator covers source backdrop point = operator (source point) (backdrop point) :=
  if_pos covered

theorem composite_uncovered (uncovered : covers point = false) :
    composite operator covers source backdrop point = backdrop point := by
  unfold composite
  rw [uncovered, if_neg Bool.false_ne_true]

end Pictures

end Viridity.Compositing
