import Mathlib.Data.List.InsertIdx
import Mathlib.Data.List.Nodup

/-!
# Replication of a list

The edits of a list name their place by a neighbour, and a script of edits stops at the first
one whose neighbour or target is not there. A replica that takes messages from a queue asks
for the whole state when it cannot follow, and what it makes of the queue up to that point is
what matters.
-/

namespace Viridity.ListReplication

set_option autoImplicit false

inductive Edit (Item : Type*) where
  | prepend (item : Item)
  | append (item : Item)
  | insertAfter (item afterItem : Item)
  | remove (item : Item)
deriving DecidableEq

namespace Edit

variable {Item : Type*}

def inserted : Edit Item → Option Item
  | prepend item => some item
  | append item => some item
  | insertAfter item _ => some item
  | remove _ => none

/-- The item that has to be there for the edit to apply. -/
def refers : Edit Item → Option Item
  | prepend _ => none
  | append _ => none
  | insertAfter _ afterItem => some afterItem
  | remove item => some item

end Edit

section Scripts

variable {Item : Type*} [DecidableEq Item]

def putAfter (item afterItem : Item) : List Item → List Item
  | [] => []
  | first :: rest =>
      if first = afterItem then first :: item :: rest
      else first :: putAfter item afterItem rest

def Edit.apply (items : List Item) : Edit Item → Option (List Item)
  | prepend item => some (item :: items)
  | append item => some (items ++ [item])
  | insertAfter item afterItem =>
      if afterItem ∈ items then some (putAfter item afterItem items) else none
  | remove item => if item ∈ items then some (items.erase item) else none

/-- What a script makes of a list up to the first edit that does not apply, and whether all
of them did. -/
def applyAll (items : List Item) : List (Edit Item) → List Item × Bool
  | [] => (items, true)
  | edit :: script =>
      match edit.apply items with
      | some next => applyAll next script
      | none => (items, false)

variable {items next final : List Item} {edit : Edit Item} {script : List (Edit Item)} {item : Item}

theorem mem_put_after {afterItem other : Item} (there : afterItem ∈ items) :
    other ∈ putAfter item afterItem items ↔ other = item ∨ other ∈ items := by
  induction items with
  | nil => cases there
  | cons first rest induction =>
      by_cases here : first = afterItem
      · simp only [putAfter, if_pos here, List.mem_cons]
        exact or_left_comm
      · have later : afterItem ∈ rest := by
          cases List.mem_cons.mp there with
          | inl same => exact absurd same.symm here
          | inr later => exact later
        simp only [putAfter, if_neg here, List.mem_cons, induction later]
        exact or_left_comm

theorem put_after_index {afterItem : Item} {index : Nat} (distinct : items.Nodup)
    (found : items[index]? = some afterItem) :
    putAfter item afterItem items = items.insertIdx (index + 1) item := by
  induction items generalizing index with
  | nil => simp at found
  | cons first rest induction =>
      have apart := List.nodup_cons.mp distinct
      cases index with
      | zero =>
          have here : first = afterItem := by simpa using found
          simp [putAfter, here]
      | succ index =>
          have later : rest[index]? = some afterItem := by simpa using found
          have other : first ≠ afterItem := by
            intro same
            exact apart.1 (same ▸ List.mem_of_getElem? later)
          simp only [putAfter, if_neg other, List.insertIdx_succ_cons]
          rw [induction apart.2 later]

theorem mem_applied (applies : edit.apply items = some next) (member : item ∈ next) :
    item ∈ items ∨ edit.inserted = some item := by
  cases edit with
  | prepend new =>
      rw [← Option.some.inj applies] at member
      cases List.mem_cons.mp member with
      | inl same => exact Or.inr (congrArg some same.symm)
      | inr earlier => exact Or.inl earlier
  | append new =>
      rw [← Option.some.inj applies] at member
      cases List.mem_append.mp member with
      | inl earlier => exact Or.inl earlier
      | inr same => exact Or.inr (congrArg some (List.mem_singleton.mp same).symm)
  | insertAfter new afterItem =>
      simp only [Edit.apply, Option.ite_none_right_eq_some, Option.some.injEq] at applies
      rw [← applies.2, mem_put_after applies.1] at member
      cases member with
      | inl same => exact Or.inr (congrArg some same.symm)
      | inr earlier => exact Or.inl earlier
  | remove old =>
      simp only [Edit.apply, Option.ite_none_right_eq_some, Option.some.injEq] at applies
      rw [← applies.2] at member
      exact Or.inl (List.mem_of_mem_erase member)

theorem inserted_mem (applies : edit.apply items = some next) (new : edit.inserted = some item) :
    item ∈ next := by
  cases edit with
  | prepend other =>
      rw [← Option.some.inj applies, Option.some.inj new]
      exact List.mem_cons_self
  | append other =>
      rw [← Option.some.inj applies, Option.some.inj new]
      exact List.mem_append_right items (List.mem_singleton.mpr rfl)
  | insertAfter other afterItem =>
      simp only [Edit.apply, Option.ite_none_right_eq_some, Option.some.injEq] at applies
      rw [← applies.2, mem_put_after applies.1]
      exact Or.inl (Option.some.inj new).symm
  | remove other => cases new

theorem kept_mem (applies : edit.apply items = some next) (member : item ∈ items)
    (other : edit ≠ .remove item) : item ∈ next := by
  cases edit with
  | prepend new =>
      rw [← Option.some.inj applies]
      exact List.mem_cons_of_mem new member
  | append new =>
      rw [← Option.some.inj applies]
      exact List.mem_append_left [new] member
  | insertAfter new afterItem =>
      simp only [Edit.apply, Option.ite_none_right_eq_some, Option.some.injEq] at applies
      rw [← applies.2, mem_put_after applies.1]
      exact Or.inr member
  | remove old =>
      simp only [Edit.apply, Option.ite_none_right_eq_some, Option.some.injEq] at applies
      rw [← applies.2]
      have apart : item ≠ old := fun same => other (congrArg Edit.remove same.symm)
      exact (List.mem_erase_of_ne apart).mpr member

theorem refers_mem (applies : edit.apply items = some next) (named : edit.refers = some item) :
    item ∈ items := by
  cases edit with
  | prepend new => cases named
  | append new => cases named
  | insertAfter new afterItem =>
      simp only [Edit.apply, Option.ite_none_right_eq_some] at applies
      exact Option.some.inj named ▸ applies.1
  | remove old =>
      simp only [Edit.apply, Option.ite_none_right_eq_some] at applies
      exact Option.some.inj named ▸ applies.1

theorem apply_all_append (second : List (Edit Item)) (applies : applyAll items script = (next, true)) :
    applyAll items (script ++ second) = applyAll next second := by
  induction script generalizing items with
  | nil =>
      simp only [applyAll, Prod.mk.injEq, and_true] at applies
      rw [List.nil_append, applies]
  | cons edit script induction =>
      simp only [List.cons_append, applyAll] at applies ⊢
      cases first : edit.apply items with
      | none => simp [first] at applies
      | some middle =>
          simp only [first] at applies ⊢
          exact induction applies

/-- A script that refers to an item which is neither there nor inserted by it stops. -/
theorem missing_stops (absent : item ∉ items) (new : ∀ edit ∈ script, edit.inserted ≠ some item)
    (named : ∃ edit ∈ script, edit.refers = some item) : (applyAll items script).2 = false := by
  induction script generalizing items with
  | nil =>
      obtain ⟨edit, member, _⟩ := named
      cases member
  | cons edit script induction =>
      simp only [applyAll]
      cases first : edit.apply items with
      | none => rfl
      | some middle =>
          have still : item ∉ middle := by
            intro member
            cases mem_applied first member with
            | inl earlier => exact absent earlier
            | inr inserts => exact new edit List.mem_cons_self inserts
          apply induction still
          · intro later member
            exact new later (List.mem_cons_of_mem edit member)
          · obtain ⟨naming, member, names⟩ := named
            cases List.mem_cons.mp member with
            | inl same =>
                rw [same] at names
                exact absurd (refers_mem first names) absent
            | inr later => exact ⟨naming, later, names⟩

/-- An item that was there, or came, and is gone in the end has been removed. -/
theorem gone_removed (applies : applyAll items script = (final, true)) (gone : item ∉ final)
    (came : item ∈ items ∨ ∃ edit ∈ script, edit.inserted = some item) :
    Edit.remove item ∈ script := by
  induction script generalizing items with
  | nil =>
      simp only [applyAll, Prod.mk.injEq, and_true] at applies
      cases came with
      | inl member => exact absurd (applies ▸ member) gone
      | inr inserts =>
          obtain ⟨edit, member, _⟩ := inserts
          cases member
  | cons edit script induction =>
      simp only [applyAll] at applies
      cases first : edit.apply items with
      | none => simp [first] at applies
      | some middle =>
          simp only [first] at applies
          by_cases removes : edit = .remove item
          · rw [removes]
            exact List.mem_cons_self
          · apply List.mem_cons_of_mem
            apply induction applies
            cases came with
            | inl member => exact Or.inl (kept_mem first member removes)
            | inr inserts =>
                obtain ⟨later, member, new⟩ := inserts
                cases List.mem_cons.mp member with
                | inl same => exact Or.inl (inserted_mem first (same ▸ new))
                | inr rest => exact Or.inr ⟨later, rest, new⟩

theorem filter_put_dropped (keep : Item → Bool) (afterItem : Item) (dropped : keep item = false) :
    (putAfter item afterItem items).filter keep = items.filter keep := by
  induction items with
  | nil => rfl
  | cons first rest induction =>
      by_cases here : first = afterItem
      · rw [putAfter, if_pos here, List.filter_cons, List.filter_cons, List.filter_cons]
        simp [dropped]
      · rw [putAfter, if_neg here, List.filter_cons, induction, List.filter_cons]

theorem filter_put_kept (keep : Item → Bool) {afterItem : Item} (stays : keep item = true)
    (kept : keep afterItem = true) :
    (putAfter item afterItem items).filter keep = putAfter item afterItem (items.filter keep) := by
  induction items with
  | nil => rfl
  | cons first rest induction =>
      by_cases here : first = afterItem
      · simp [putAfter, here, kept, stays]
      · rw [putAfter, if_neg here, List.filter_cons, induction, List.filter_cons]
        by_cases front : keep first = true
        · simp [front, putAfter, here]
        · simp [front]

/-- Without the items that are dropped an edit does the same, as long as it concerns none. -/
theorem apply_kept (keep : Item → Bool) (applies : edit.apply items = some next)
    (new : ∀ item, edit.inserted = some item → keep item = true)
    (named : ∀ item, edit.refers = some item → keep item = true) :
    edit.apply (items.filter keep) = some (next.filter keep) := by
  cases edit with
  | prepend item =>
      rw [← Option.some.inj applies, List.filter_cons_of_pos (new item rfl)]
      rfl
  | append item =>
      have stays : [item].filter keep = [item] := by simp [new item rfl]
      rw [← Option.some.inj applies, List.filter_append, stays]
      rfl
  | insertAfter item afterItem =>
      simp only [Edit.apply, Option.ite_none_right_eq_some, Option.some.injEq] at applies
      have there : afterItem ∈ items.filter keep :=
        List.mem_filter.mpr ⟨applies.1, named afterItem rfl⟩
      rw [← applies.2, filter_put_kept keep (new item rfl) (named afterItem rfl)]
      exact if_pos there
  | remove item =>
      simp only [Edit.apply, Option.ite_none_right_eq_some, Option.some.injEq] at applies
      have there : item ∈ items.filter keep := List.mem_filter.mpr ⟨applies.1, named item rfl⟩
      rw [← applies.2, ← List.erase_filter]
      exact if_pos there

theorem apply_dropped (keep : Item → Bool) (applies : edit.apply items = some next)
    (new : edit.inserted = some item) (dropped : keep item = false) :
    next.filter keep = items.filter keep := by
  cases edit with
  | prepend other =>
      have same : other = item := Option.some.inj new
      rw [← Option.some.inj applies, same]
      exact List.filter_cons_of_neg (by simp [dropped])
  | append other =>
      have same : other = item := Option.some.inj new
      rw [← Option.some.inj applies, same, List.filter_append]
      simp [dropped]
  | insertAfter other afterItem =>
      have same : other = item := Option.some.inj new
      simp only [Edit.apply, Option.ite_none_right_eq_some, Option.some.injEq] at applies
      rw [← applies.2, same]
      exact filter_put_dropped keep afterItem dropped
  | remove other => cases new

/-- Where the inserts of some items are left out and nothing else refers to them, the script
makes the list without them. -/
theorem apply_all_without (keep : Item → Bool) (sends : Edit Item → Bool)
    (applies : applyAll items script = (final, true))
    (sent : ∀ edit ∈ script, sends edit = true →
      ∀ item, edit.inserted = some item ∨ edit.refers = some item → keep item = true)
    (skipped : ∀ edit ∈ script, sends edit = false →
      ∃ item, edit.inserted = some item ∧ keep item = false) :
    applyAll (items.filter keep) (script.filter sends) = (final.filter keep, true) := by
  induction script generalizing items with
  | nil =>
      simp only [applyAll, Prod.mk.injEq, and_true] at applies
      rw [applies]
      rfl
  | cons edit script induction =>
      simp only [applyAll] at applies
      cases first : edit.apply items with
      | none => simp [first] at applies
      | some middle =>
          simp only [first] at applies
          have rest := induction applies
            (fun later member => sent later (List.mem_cons_of_mem edit member))
            (fun later member => skipped later (List.mem_cons_of_mem edit member))
          cases sends_ : sends edit with
          | true =>
              have concerns := sent edit List.mem_cons_self sends_
              have applied := apply_kept keep first (fun item new => concerns item (Or.inl new))
                (fun item named => concerns item (Or.inr named))
              rw [List.filter_cons_of_pos sends_]
              simp only [applyAll, applied]
              exact rest
          | false =>
              obtain ⟨item, new, dropped⟩ := skipped edit List.mem_cons_self sends_
              rw [List.filter_cons_of_neg (by simp [sends_]), ← apply_dropped keep first new dropped]
              exact rest

end Scripts

section Replicas

variable {Replica Message : Type*}

/-- Handling the queue ends well, unless a message on the way makes the replica ask for the
whole state. -/
def Follows (receive : Replica → Message → Replica × Bool) (good : Replica → Prop) :
    Replica → List Message → Prop
  | replica, [] => good replica
  | replica, message :: queue =>
      (receive replica message).2 = true ∨ Follows receive good (receive replica message).1 queue

variable {receive : Replica → Message → Replica × Bool} {good better : Replica → Prop}
variable {replica : Replica} {queue : List Message} {message : Message}

theorem follows_append (follows : Follows receive good replica queue)
    (handled : ∀ replica, good replica →
      (receive replica message).2 = true ∨ better (receive replica message).1) :
    Follows receive better replica (queue ++ [message]) := by
  induction queue generalizing replica with
  | nil => exact handled replica follows
  | cons first queue induction =>
      cases follows with
      | inl asks => exact Or.inl asks
      | inr rest => exact Or.inr (induction rest)

/-- A message that puts any replica right ends well behind any queue. -/
theorem follows_whole (whole : ∀ replica, good (receive replica message).1) :
    Follows receive good replica (queue ++ [message]) := by
  induction queue generalizing replica with
  | nil => exact Or.inr (whole replica)
  | cons first queue induction => exact Or.inr induction

end Replicas

end Viridity.ListReplication
