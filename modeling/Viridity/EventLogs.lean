import Mathlib.Data.List.Induction

/-!
# Logs of events

A log is lawful when each of its events was allowed by the events before it. The
keys a log has added and neither taken nor dropped since are pending.
-/

namespace Viridity.EventLogs

set_option autoImplicit false

variable {Event Key : Type}

def Lawful (allowed : List Event → Event → Prop) (log : List Event) : Prop :=
  ∀ earlier event later, log = earlier ++ event :: later → allowed earlier event

theorem lawful_nil (allowed : List Event → Event → Prop) : Lawful allowed [] := by
  intro earlier event later split
  simp at split

theorem lawful_snoc {allowed : List Event → Event → Prop} {log : List Event} {last : Event}
    (lawful : Lawful allowed log) (permitted : allowed log last) :
    Lawful allowed (log ++ [last]) := by
  intro earlier event later split
  rcases List.eq_nil_or_concat later with rfl | ⟨front, final, rfl⟩
  · have ends := List.append_inj' split rfl
    simp only [List.cons.injEq, and_true] at ends
    rw [← ends.1, ← ends.2]
    exact permitted
  · rw [List.concat_eq_append, ← List.cons_append, ← List.append_assoc] at split
    exact lawful earlier event front (List.append_inj' split rfl).1

theorem lawful_append {allowed : List Event → Event → Prop} {log events : List Event}
    (lawful : Lawful allowed log)
    (permitted : ∀ earlier event later, events = earlier ++ event :: later →
      allowed (log ++ earlier) event) : Lawful allowed (log ++ events) := by
  induction events using List.reverseRecOn with
  | nil => simpa using lawful
  | append_singleton events last induction =>
      rw [← List.append_assoc]
      apply lawful_snoc
      · apply induction
        intro earlier event later split
        exact permitted earlier event (later ++ [last]) (by rw [split]; simp)
      · exact permitted events last [] rfl

theorem lawful_mono {allowed weaker : List Event → Event → Prop} {log : List Event}
    (lawful : Lawful allowed log)
    (implied : ∀ earlier event, event ∈ log → allowed earlier event → weaker earlier event) :
    Lawful weaker log := by
  intro earlier event later split
  have member : event ∈ log := by simp [split]
  exact implied earlier event member (lawful earlier event later split)

inductive Entry (Key : Type) where
  | add (key : Key)
  | take (key : Key)
  | reset
deriving DecidableEq

variable [DecidableEq Key]

def pendingAfter (pending : List Key) : Entry Key → List Key
  | .add key => key :: pending
  | .take key => pending.filter fun other => other ≠ key
  | .reset => []

/-- The keys added and neither taken nor dropped since. -/
def pending (log : List (Entry Key)) : List Key := log.foldl pendingAfter []

theorem pending_append (first second : List (Entry Key)) :
    pending (first ++ second) = second.foldl pendingAfter (pending first) := by
  simp [pending]

theorem mem_pending_fold {key : Key} {log : List (Entry Key)} {start : List Key}
    (member : key ∈ start) (kept : Entry.take key ∉ log ∧ Entry.reset ∉ log) :
    key ∈ log.foldl pendingAfter start := by
  induction log generalizing start with
  | nil => exact member
  | cons entry log induction =>
      simp only [List.mem_cons, not_or] at kept
      apply induction _ ⟨kept.1.2, kept.2.2⟩
      cases entry with
      | add other => exact List.mem_cons_of_mem other member
      | take other =>
          apply List.mem_filter.mpr
          refine ⟨member, ?_⟩
          have different : key ≠ other := by
            intro same
            exact kept.1.1 (same ▸ rfl)
          simpa using different
      | reset => exact absurd rfl kept.2.1

theorem not_mem_pending_fold {key : Key} {log : List (Entry Key)} {start : List Key}
    (once : Entry.add key ∉ log)
    (gone : key ∉ start ∨ Entry.take key ∈ log ∨ Entry.reset ∈ log) :
    key ∉ log.foldl pendingAfter start := by
  induction log generalizing start with
  | nil =>
      rcases gone with absent | impossible | impossible
      · exact absent
      · exact absurd impossible List.not_mem_nil
      · exact absurd impossible List.not_mem_nil
  | cons entry log induction =>
      simp only [List.mem_cons, not_or] at once gone
      apply induction once.2
      cases entry with
      | add other =>
          rcases gone with absent | (impossible | taken) | (impossible | dropped)
          · left
            intro member
            rcases List.mem_cons.mp member with same | earlier
            · exact once.1 (same ▸ rfl)
            · exact absent earlier
          · cases impossible
          · exact Or.inr (Or.inl taken)
          · cases impossible
          · exact Or.inr (Or.inr dropped)
      | take other =>
          rcases gone with absent | (same | taken) | (impossible | dropped)
          · left
            intro member
            exact absent (List.mem_filter.mp member).1
          · left
            intro member
            cases same
            simp [pendingAfter] at member
          · exact Or.inr (Or.inl taken)
          · cases impossible
          · exact Or.inr (Or.inr dropped)
      | reset => exact Or.inl List.not_mem_nil

theorem mem_pending_added {key : Key} (earlier later : List (Entry Key))
    (once : Entry.add key ∉ later) :
    key ∈ pending (earlier ++ Entry.add key :: later) ↔
      Entry.take key ∉ later ∧ Entry.reset ∉ later := by
  rw [pending_append, List.foldl_cons]
  constructor
  · intro member
    by_contra gone
    apply not_mem_pending_fold once _ member
    rw [not_and_or, not_not, not_not] at gone
    exact Or.inr gone
  · intro kept
    exact mem_pending_fold List.mem_cons_self kept

theorem mem_pending_adds {key : Key} (keys start : List Key) :
    key ∈ (keys.map Entry.add).foldl pendingAfter start ↔ key ∈ keys ∨ key ∈ start := by
  induction keys generalizing start with
  | nil => simp
  | cons head keys induction =>
      rw [List.map_cons, List.foldl_cons, induction]
      simp only [pendingAfter, List.mem_cons]
      tauto

end Viridity.EventLogs
