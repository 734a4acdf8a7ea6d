import Viridity.LabelledRuns
import Viridity.SessionUse

/-!
# Attaching and detaching a session

Uses of a session come and go, each release starts the timer for detaching again. Only when
that timer expires without a use left is the session detached.
-/

namespace Viridity.SessionAttachment

open Viridity.LabelledRuns
open Viridity.SessionUse
open ViriditySession

set_option autoImplicit false

/-- `now` is the time of the call. -/
inductive UseAction where
  | incrementUseCount (now : Nat)
  | decrementUseCount
  | detachDeferTimerTimeout

/-- No decrement goes without its increment, and the timer expires only while it runs. -/
def useStep (session : ViriditySession) : UseAction → Option ViriditySession
  | .incrementUseCount now => some (session.incrementUseCount now)
  | .decrementUseCount => if 0 < session.useCount then some session.decrementUseCount else none
  | .detachDeferTimerTimeout =>
      if session.detachDeferTimer = true then some session.detachDeferTimerTimeout else none

/-- The signal at a place of the sequence attached, detached, attached and so on. -/
def alternatingSignal (index : Nat) : SessionSignal :=
  if index % 2 = 0 then SessionSignal.attached else SessionSignal.detached

def alternating (count : Nat) : List SessionSignal := (List.range count).map alternatingSignal

theorem alternating_succ (count : Nat) :
    alternating (count + 1) = alternating count ++ [alternatingSignal count] := by
  simp [alternating, List.range_succ]

/-- What any bouncing of uses keeps. The timer runs only for a session that is attached, and
an odd number of signals is what makes it so. -/
structure Debounced (session : ViriditySession) : Prop where
  counted : 0 ≤ session.useCount
  used : 0 < session.useCount → session.attached = true
  pending : session.detachDeferTimer = true → session.attached = true
  settled : session.detachDeferTimer = false → session.attached = true → 0 < session.useCount
  alternates : session.signals = alternating session.signals.length
  parity : session.attached = true ↔ session.signals.length % 2 = 1

theorem create_debounced (id : String) (now : Nat) : Debounced (create id now) where
  counted := Int.le_refl 0
  used positive := absurd positive (Int.lt_irrefl 0)
  pending running := running
  settled _ attached := absurd attached Bool.false_ne_true
  alternates := rfl
  parity := by simp [create]

theorem alternates_emit {session : ViriditySession} {signal : SessionSignal}
    (alternates : session.signals = alternating session.signals.length)
    (next : signal = alternatingSignal session.signals.length) :
    (session.emitSignal signal).signals =
      alternating (session.emitSignal signal).signals.length := by
  have length : (session.emitSignal signal).signals.length = session.signals.length + 1 := by
    simp [emitSignal]
  rw [length, alternating_succ, ← alternates, ← next]
  simp [emitSignal]

theorem increment_debounced {session : ViriditySession} (debounced : Debounced session)
    (now : Nat) : Debounced (session.incrementUseCount now) := by
  have counted := debounced.counted
  by_cases first : session.useCount = 0 ∧ session.attached = false
  · have even : session.signals.length % 2 = 0 := by
      have parity := debounced.parity
      rw [first.2] at parity
      simp only [Bool.false_eq_true, false_iff] at parity
      omega
    have next : SessionSignal.attached = alternatingSignal session.signals.length :=
      (if_pos even).symm
    have emitted : session.incrementUseCount now =
        emitSignal { resetLastUsed { session with useCount := session.useCount + 1 } now with
          attached := true } SessionSignal.attached := if_pos first
    rw [emitted]
    exact {
      counted := by
        show 0 ≤ session.useCount + 1
        omega
      used := fun _ => rfl
      pending := fun _ => rfl
      settled := by
        intro _ _
        show 0 < session.useCount + 1
        omega
      alternates := alternates_emit debounced.alternates next
      parity := by
        simp only [emitSignal, resetLastUsed, List.length_append, List.length_singleton, true_iff]
        omega }
  · have same : session.incrementUseCount now =
        resetLastUsed { session with useCount := session.useCount + 1 } now := if_neg first
    have attached : session.attached = true := by
      by_cases zero : session.useCount = 0
      · by_contra apart
        exact first ⟨zero, Bool.eq_false_iff.mpr apart⟩
      · exact debounced.used (by omega)
    rw [same]
    exact {
      counted := by
        show 0 ≤ session.useCount + 1
        omega
      used := fun _ => attached
      pending := fun _ => attached
      settled := by
        intro _ _
        show 0 < session.useCount + 1
        omega
      alternates := debounced.alternates
      parity := debounced.parity }

theorem decrement_debounced {session : ViriditySession} (debounced : Debounced session)
    (positive : 0 < session.useCount) : Debounced session.decrementUseCount where
  counted := by
    show 0 ≤ session.useCount - 1
    omega
  used _ := debounced.used positive
  pending _ := debounced.used positive
  settled stopped := absurd stopped.symm Bool.false_ne_true
  alternates := debounced.alternates
  parity := debounced.parity

theorem timeout_debounced {session : ViriditySession} (debounced : Debounced session)
    (running : session.detachDeferTimer = true) : Debounced session.detachDeferTimerTimeout := by
  have counted := debounced.counted
  have attached := debounced.pending running
  by_cases unused : session.useCount = 0
  · have odd := debounced.parity.mp attached
    have next : SessionSignal.detached = alternatingSignal session.signals.length :=
      (if_neg (by omega)).symm
    have emitted : session.detachDeferTimerTimeout =
        emitSignal { session with detachDeferTimer := false, attached := false }
          SessionSignal.detached := if_pos unused
    rw [emitted]
    exact {
      counted := counted
      used := fun positive => absurd unused (Int.ne_of_gt positive)
      pending := fun running => absurd running Bool.false_ne_true
      settled := fun _ attached => absurd attached Bool.false_ne_true
      alternates := alternates_emit debounced.alternates next
      parity := by
        simp only [emitSignal, List.length_append, List.length_singleton, Bool.false_eq_true,
          false_iff]
        omega }
  · have same : session.detachDeferTimerTimeout = { session with detachDeferTimer := false } :=
      if_neg unused
    rw [same]
    exact {
      counted := counted
      used := debounced.used
      pending := fun running => absurd running Bool.false_ne_true
      settled := by
        intro _ _
        show 0 < session.useCount
        omega
      alternates := debounced.alternates
      parity := debounced.parity }

theorem step_debounced {session after : ViriditySession} {action : UseAction}
    (debounced : Debounced session) (taken : useStep session action = some after) :
    Debounced after := by
  cases action with
  | incrementUseCount now =>
      simp only [useStep, Option.some.injEq] at taken
      exact taken ▸ increment_debounced debounced now
  | decrementUseCount =>
      simp only [useStep, Option.ite_none_right_eq_some, Option.some.injEq] at taken
      exact taken.2 ▸ decrement_debounced debounced taken.1
  | detachDeferTimerTimeout =>
      simp only [useStep, Option.ite_none_right_eq_some, Option.some.injEq] at taken
      exact taken.2 ▸ timeout_debounced debounced taken.1

theorem run_debounced {session after : ViriditySession} (actions : List UseAction)
    (debounced : Debounced session) (run : execute useStep session actions = some after) :
    Debounced after := by
  have reached := execute_reaches actions (Reach.start debounced) run
  exact reached.invariant (fun _ begins => begins)
    fun _ _ _ held _ taken => step_debounced held taken

/-- The uses of a polling client: it is gone between two requests, then for good. -/
def pollingActions : List UseAction :=
  [.incrementUseCount 0, .decrementUseCount, .incrementUseCount 5, .detachDeferTimerTimeout,
    .decrementUseCount, .detachDeferTimerTimeout, .incrementUseCount 90]

end Viridity.SessionAttachment
