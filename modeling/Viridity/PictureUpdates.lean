import Mathlib.Data.List.Perm.Basic

/-!
# Pictures kept up to date by differences

One side paints on a canvas what the other sends: operations that lead from a picture it takes
for known to the next one. A blank colour says nothing of a point, so a picture may be known
in part.
-/

namespace Viridity.PictureUpdates

set_option autoImplicit false

variable {Point Colour Shade Operation : Type*}

structure Picture (Point Colour : Type*) where
  area : Point → Prop
  colour : Point → Colour

section Knowledge

variable (blank : Colour)

def nothing : Picture Point Colour := ⟨fun _ => False, fun _ => blank⟩

/-- Who knows the first picture knows what the second one says. -/
def Entails (known claimed : Picture Point Colour) : Prop :=
  ∀ point, claimed.area point → claimed.colour point ≠ blank →
    known.area point ∧ known.colour point = claimed.colour point

def SaysNothing (picture : Picture Point Colour) : Prop :=
  ∀ point, picture.area point → picture.colour point = blank

/-- The canvas has the colours of the picture wherever they are not blank. -/
def Shows (render : Colour → Shade) (canvas : Point → Shade) (picture : Picture Point Colour) :
    Prop :=
  ∀ point, picture.area point → picture.colour point ≠ blank →
    canvas point = render (picture.colour point)

variable {blank}

theorem entails_refl (picture : Picture Point Colour) : Entails blank picture picture :=
  fun _ inside _ => ⟨inside, rfl⟩

theorem Entails.trans {first second third : Picture Point Colour}
    (left : Entails blank first second) (right : Entails blank second third) :
    Entails blank first third := by
  intro point inside filled
  have later := right point inside filled
  have earlier := left point later.1 (by rw [later.2]; exact filled)
  exact ⟨earlier.1, earlier.2.trans later.2⟩

theorem entails_of_says_nothing (known : Picture Point Colour) {claimed : Picture Point Colour}
    (silent : SaysNothing blank claimed) : Entails blank known claimed :=
  fun point inside filled => absurd (silent point inside) filled

theorem says_nothing_of_entails {known claimed : Picture Point Colour}
    (silent : SaysNothing blank known) (entails : Entails blank known claimed) :
    SaysNothing blank claimed := by
  intro point inside
  by_contra filled
  have told := entails point inside filled
  exact filled (told.2 ▸ silent point told.1)

theorem nothing_says_nothing : SaysNothing blank (nothing blank : Picture Point Colour) :=
  fun _ inside => inside.elim

variable {render : Colour → Shade} {canvas : Point → Shade}

theorem Shows.of_entails {known claimed : Picture Point Colour}
    (shows : Shows blank render canvas known) (entails : Entails blank known claimed) :
    Shows blank render canvas claimed := by
  intro point inside filled
  have told := entails point inside filled
  rw [← told.2]
  exact shows point told.1 (by rw [told.2]; exact filled)

theorem shows_of_says_nothing {picture : Picture Point Colour}
    (silent : SaysNothing blank picture) : Shows blank render canvas picture :=
  fun point inside filled => absurd (silent point inside) filled

end Knowledge

section Painting

variable (covers : Operation → Point → Prop)

/-- Operations that lead from one picture to another one without blank points. -/
structure Repaints (blank : Colour) (before target : Picture Point Colour)
    (operations : List Operation) : Prop where
  sameArea : ∀ point, target.area point → before.area point
  filled : ∀ point, target.area point → target.colour point ≠ blank
  complete : ∀ point, target.area point → before.colour point ≠ target.colour point →
    ∃ operation ∈ operations, covers operation point

/-- Each point of the target is right, or an outstanding operation will paint it. -/
def Unfinished (render : Colour → Shade) (target : Picture Point Colour)
    (outstanding : List Operation) (canvas : Point → Shade) : Prop :=
  ∀ point, target.area point → canvas point = render (target.colour point) ∨
    ∃ operation ∈ outstanding, covers operation point

/-- An operation leaves the colours of the target on the points it covers and no others. -/
def PaintsRight (render : Colour → Shade) (target : Picture Point Colour) (operation : Operation)
    (canvas after : Point → Shade) : Prop :=
  ∀ point, target.area point →
    (covers operation point → after point = render (target.colour point)) ∧
      (¬covers operation point → after point = canvas point)

variable {covers} {blank : Colour} {render : Colour → Shade} {canvas after : Point → Shade}
variable {before target : Picture Point Colour} {operations outstanding : List Operation}

theorem Repaints.unfinished (repaints : Repaints covers blank before target operations)
    (shows : Shows blank render canvas before) :
    Unfinished covers render target operations canvas := by
  intro point inside
  by_cases same : before.colour point = target.colour point
  · left
    rw [← same]
    exact shows point (repaints.sameArea point inside) (same ▸ repaints.filled point inside)
  · exact Or.inr (repaints.complete point inside same)

theorem Unfinished.perm {others : List Operation}
    (unfinished : Unfinished covers render target outstanding canvas)
    (perm : outstanding.Perm others) : Unfinished covers render target others canvas := by
  intro point inside
  rcases unfinished point inside with right | ⟨operation, member, covered⟩
  · exact Or.inl right
  · exact Or.inr ⟨operation, perm.mem_iff.mp member, covered⟩

theorem Unfinished.painted {operation : Operation}
    (unfinished : Unfinished covers render target (operation :: outstanding) canvas)
    (painted : PaintsRight covers render target operation canvas after) :
    Unfinished covers render target outstanding after := by
  intro point inside
  by_cases covered : covers operation point
  · exact Or.inl ((painted point inside).1 covered)
  · rcases unfinished point inside with right | ⟨other, member, later⟩
    · exact Or.inl (((painted point inside).2 covered).trans right)
    · rcases List.mem_cons.mp member with same | remaining
      · exact absurd (same ▸ later) covered
      · exact Or.inr ⟨other, remaining, later⟩

theorem Unfinished.finished (unfinished : Unfinished covers render target [] canvas)
    {point : Point} (inside : target.area point) :
    canvas point = render (target.colour point) := by
  rcases unfinished point inside with right | ⟨operation, member, _⟩
  · exact right
  · exact absurd member List.not_mem_nil

theorem Unfinished.shows (unfinished : Unfinished covers render target [] canvas) :
    Shows blank render canvas target :=
  fun _ inside _ => unfinished.finished inside

end Painting

section Streams

/-- One step to the next picture; one that resets takes nothing for known. -/
structure Change (Point Colour Operation : Type*) where
  number : Nat
  resets : Bool
  before : Picture Point Colour
  target : Picture Point Colour
  operations : List Operation

/-- What is sent: something that concerns no picture, the news that nothing is taken for known
any more, or a change. -/
inductive Update (Point Colour Operation : Type*) where
  | silent
  | reset
  | change (change : Change Point Colour Operation)

/-- The number of the last change and what is known after it. -/
structure Mark (Point Colour : Type*) where
  number : Nat
  known : Picture Point Colour

variable (blank : Colour)

/-- The updates lead from what the receiver knows to what the sender takes for known. -/
def Follows : Mark Point Colour → List (Update Point Colour Operation) → Mark Point Colour → Prop
  | mark, [], final => mark.number = final.number ∧ Entails blank mark.known final.known
  | mark, .silent :: updates, final => Follows mark updates final
  | mark, .reset :: updates, final => Follows ⟨mark.number, nothing blank⟩ updates final
  | mark, .change change :: updates, final =>
      change.number = mark.number + 1 ∧ Entails blank mark.known change.before ∧
        (change.resets = true → SaysNothing blank change.before) ∧
          Follows ⟨change.number, change.target⟩ updates final

variable {blank} {mark final later : Mark Point Colour}
  {updates : List (Update Point Colour Operation)}

/-- The sender may forget what is known. -/
theorem Follows.entails (follows : Follows blank mark updates final)
    (number : final.number = later.number) (entails : Entails blank final.known later.known) :
    Follows blank mark updates later := by
  induction updates generalizing mark with
  | nil => exact ⟨follows.1.trans number, follows.2.trans entails⟩
  | cons update updates induction =>
      cases update with
      | silent => exact induction follows
      | reset => exact induction follows
      | change change =>
          exact ⟨follows.1, follows.2.1, follows.2.2.1, induction follows.2.2.2⟩

/-- The receiver may know more. -/
theorem Follows.of_entails {first : Mark Point Colour} (follows : Follows blank mark updates final)
    (number : first.number = mark.number) (entails : Entails blank first.known mark.known) :
    Follows blank first updates final := by
  induction updates generalizing mark first with
  | nil => exact ⟨number.trans follows.1, entails.trans follows.2⟩
  | cons update updates induction =>
      cases update with
      | silent => exact induction follows number entails
      | reset => exact induction follows number (entails_refl _)
      | change change =>
          refine ⟨follows.1.trans (by rw [number]), entails.trans follows.2.1, follows.2.2.1, ?_⟩
          exact follows.2.2.2

/-- More updates follow those sent. -/
theorem Follows.append {others : List (Update Point Colour Operation)}
    (follows : Follows blank mark updates final) (behind : Follows blank final others later) :
    Follows blank mark (updates ++ others) later := by
  induction updates generalizing mark with
  | nil => exact behind.of_entails follows.1 follows.2
  | cons update updates induction =>
      cases update with
      | silent => exact induction follows
      | reset => exact induction follows
      | change change =>
          exact ⟨follows.1, follows.2.1, follows.2.2.1, induction follows.2.2.2⟩

end Streams

end Viridity.PictureUpdates
