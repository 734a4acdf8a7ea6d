import Mathlib.Data.List.Basic

/-!
# Runs of a labelled transition system

States, labels and the step relation are arbitrary. A run may be restricted by
a condition on the state before a step and the label taken there, so that the
same induction serves unrestricted runs and runs in which a given branch is
never entered.
-/

namespace Viridity.LabelledRuns

set_option autoImplicit false

variable {State Label : Type*}

/-- States reached by steps that all meet `allowed`. -/
inductive Reach (step : State → Label → State → Prop) (allowed : State → Label → Prop)
    (initial : State → Prop) : State → Prop
  | start {state : State} (begins : initial state) : Reach step allowed initial state
  | next {state after : State} {label : Label} (before : Reach step allowed initial state)
      (permitted : allowed state label) (taken : step state label after) :
      Reach step allowed initial after

def always (_state : State) (_label : Label) : Prop := True

theorem Reach.invariant {step : State → Label → State → Prop}
    {allowed : State → Label → Prop} {initial : State → Prop} {holds : State → Prop}
    (base : ∀ state, initial state → holds state)
    (preserved : ∀ state label after, holds state → allowed state label →
      step state label after → holds after)
    {state : State} (reached : Reach step allowed initial state) : holds state := by
  induction reached with
  | start begins => exact base _ begins
  | next _ permitted taken induction => exact preserved _ _ _ induction permitted taken

/-- A weaker condition admits the same runs. -/
theorem Reach.mono {step : State → Label → State → Prop}
    {allowed weaker : State → Label → Prop} {initial : State → Prop}
    (implies : ∀ state label, allowed state label → weaker state label)
    {state : State} (reached : Reach step allowed initial state) :
    Reach step weaker initial state := by
  induction reached with
  | start begins => exact .start begins
  | next _ permitted taken induction => exact .next induction (implies _ _ permitted) taken

/-- A run of one system is followed by a run of another one, if every step is followed by a step
between states that correspond. -/
theorem Reach.simulated {Other OtherLabel : Type*} {step : State → Label → State → Prop}
    {allowed : State → Label → Prop} {initial : State → Prop}
    {otherStep : Other → OtherLabel → Other → Prop} {otherAllowed : Other → OtherLabel → Prop}
    {otherInitial : Other → Prop} {corresponds : State → Other → Prop}
    (base : ∀ state, initial state → ∃ other, otherInitial other ∧ corresponds state other)
    (follows : ∀ state other label after, corresponds state other → allowed state label →
      step state label after → ∃ otherLabel otherAfter, otherAllowed other otherLabel ∧
        otherStep other otherLabel otherAfter ∧ corresponds after otherAfter)
    {state : State} (reached : Reach step allowed initial state) :
    ∃ other, Reach otherStep otherAllowed otherInitial other ∧ corresponds state other := by
  induction reached with
  | start begins =>
      obtain ⟨other, start, same⟩ := base _ begins
      exact ⟨other, .start start, same⟩
  | next before permitted taken induction =>
      obtain ⟨other, reached, same⟩ := induction
      obtain ⟨otherLabel, after, allows, moves, corresponding⟩ :=
        follows _ other _ _ same permitted taken
      exact ⟨after, .next reached allows moves, corresponding⟩

/-- Executes a list of labels; `none` as soon as a label is not enabled. -/
def execute (step : State → Label → Option State) (start : State) : List Label → Option State
  | [] => some start
  | label :: rest => (step start label).bind fun next => execute step next rest

theorem execute_reaches {step : State → Label → Option State} {initial : State → Prop}
    {middle final : State} (labels : List Label)
    (reached : Reach (fun state label after => step state label = some after) always initial middle)
    (executed : execute step middle labels = some final) :
    Reach (fun state label after => step state label = some after) always initial final := by
  induction labels generalizing middle with
  | nil =>
      simp only [execute, Option.some.injEq] at executed
      exact executed ▸ reached
  | cons label rest induction =>
      simp only [execute, Option.bind_eq_some_iff] at executed
      obtain ⟨following, taken, remaining⟩ := executed
      exact induction (Reach.next reached trivial taken) remaining

/-- Two systems whose steps lead from states that correspond to such states, or are both not
enabled, do so in whole runs. -/
theorem execute_related {Other : Type*} {step : State → Label → Option State}
    {otherStep : Other → Label → Option Other} {corresponds : State → Other → Prop}
    (together : ∀ state other label, corresponds state other →
      Option.Rel corresponds (step state label) (otherStep other label))
    {state : State} {other : Other} (same : corresponds state other) (labels : List Label) :
    Option.Rel corresponds (execute step state labels) (execute otherStep other labels) := by
  induction labels generalizing state other with
  | nil => exact .some same
  | cons label labels induction =>
      have next := together state other label same
      unfold execute
      cases first : step state label with
      | none =>
          rw [first] at next
          cases second : otherStep other label with
          | none => exact .none
          | some after =>
              rw [second] at next
              cases next
      | some after =>
          rw [first] at next
          cases second : otherStep other label with
          | none =>
              rw [second] at next
              cases next
          | some otherAfter =>
              rw [second] at next
              cases next with
              | some corresponding => exact induction corresponding

/-- Executes a list of labels that all pass a test. -/
def executeChecked (check : State → Label → Bool) (step : State → Label → Option State)
    (start : State) : List Label → Option State
  | [] => some start
  | label :: rest =>
      if check start label then
        (step start label).bind fun next => executeChecked check step next rest
      else none

theorem execute_checked_reaches {check : State → Label → Bool} {step : State → Label → Option State}
    {allowed : State → Label → Prop} {initial : State → Prop}
    (sound : ∀ state label, check state label = true → allowed state label) {middle final : State}
    (labels : List Label)
    (reached : Reach (fun state label after => step state label = some after) allowed initial middle)
    (executed : executeChecked check step middle labels = some final) :
    Reach (fun state label after => step state label = some after) allowed initial final := by
  induction labels generalizing middle with
  | nil =>
      simp only [executeChecked, Option.some.injEq] at executed
      exact executed ▸ reached
  | cons label rest induction =>
      unfold executeChecked at executed
      split_ifs at executed with passed
      simp only [Option.bind_eq_some_iff] at executed
      obtain ⟨following, taken, remaining⟩ := executed
      exact induction (Reach.next reached (sound _ _ passed) taken) remaining

/-- Every step of a run has the property, which may speak of the state after it. -/
def Along (step : State → Label → Option State) (property : State → Label → State → Prop)
    (start : State) : List Label → Prop
  | [] => True
  | label :: rest => ∀ next, step start label = some next →
      property start label next ∧ Along step property next rest

theorem Along.cons {step : State → Label → Option State}
    {property : State → Label → State → Prop} {start next : State} {label : Label}
    {labels : List Label} (taken : step start label = some next) (met : property start label next)
    (along : Along step property next labels) : Along step property start (label :: labels) := by
  intro after same
  rw [taken, Option.some.injEq] at same
  exact same ▸ ⟨met, along⟩

instance Along.decidable {step : State → Label → Option State}
    {property : State → Label → State → Prop}
    [∀ state label next, Decidable (property state label next)] (start : State) :
    (labels : List Label) → Decidable (Along step property start labels)
  | [] => isTrue trivial
  | label :: labels =>
      match taken : step start label with
      | none => isTrue fun next same => by simp [taken] at same
      | some next =>
          have : Decidable (Along step property next labels) := Along.decidable next labels
          decidable_of_iff (property start label next ∧ Along step property next labels)
            ⟨fun both => Along.cons taken both.1 both.2, fun along => along next taken⟩

/-- Two properties of a step are the same of whole runs, where they are the same of a
step from a state that holds, and the first keeps the next state so. -/
theorem along_congr_while {step : State → Label → Option State}
    {first second : State → Label → State → Prop} {holds : State → Prop}
    (preserved : ∀ state label next, holds state → step state label = some next →
      first state label next → holds next)
    (same : ∀ state label next, holds state → step state label = some next →
      (first state label next ↔ second state label next))
    {start : State} (base : holds start) (labels : List Label) :
    Along step first start labels ↔ Along step second start labels := by
  induction labels generalizing start with
  | nil => exact Iff.rfl
  | cons label rest induction =>
      apply forall_congr'
      intro next
      apply imp_congr_right
      intro taken
      rw [← same start label next base taken]
      apply and_congr_right
      intro met
      exact induction (preserved start label next base taken met)

/-- Where an invariant makes two properties of a step the same, they are the same of
whole runs. -/
theorem along_congr {step : State → Label → Option State}
    {first second : State → Label → State → Prop} {holds : State → Prop}
    (preserved : ∀ state label next, holds state → step state label = some next → holds next)
    (same : ∀ state label next, holds state → step state label = some next →
      (first state label next ↔ second state label next))
    {start : State} (base : holds start) (labels : List Label) :
    Along step first start labels ↔ Along step second start labels := by
  apply along_congr_while _ same base
  intro state label next held taken _
  exact preserved state label next held taken

/-- A property that brings another one with it, from states that hold, does so in whole runs. -/
theorem along_imp_while {step : State → Label → Option State}
    {first second : State → Label → State → Prop} {holds : State → Prop}
    (preserved : ∀ state label next, holds state → step state label = some next →
      first state label next → holds next)
    (implied : ∀ state label next, holds state → step state label = some next →
      first state label next → second state label next)
    {start : State} (base : holds start) (labels : List Label)
    (along : Along step first start labels) : Along step second start labels := by
  induction labels generalizing start with
  | nil => trivial
  | cons label rest induction =>
      intro next taken
      have met := along next taken
      exact ⟨implied start label next base taken met.1,
        induction (preserved start label next base taken met.1) met.2⟩

theorem along_and {step : State → Label → Option State}
    {first second : State → Label → State → Prop} {start : State} (labels : List Label) :
    Along step (fun state label next => first state label next ∧ second state label next) start
        labels ↔ Along step first start labels ∧ Along step second start labels := by
  induction labels generalizing start with
  | nil => exact (and_self_iff).symm
  | cons label rest induction =>
      constructor
      · intro along
        constructor
        · intro next taken
          have met := along next taken
          exact ⟨met.1.1, (induction.mp met.2).1⟩
        · intro next taken
          have met := along next taken
          exact ⟨met.1.2, (induction.mp met.2).2⟩
      · intro both next taken
        have met := both.1 next taken
        have also := both.2 next taken
        exact ⟨⟨met.1, also.1⟩, induction.mpr ⟨met.2, also.2⟩⟩

/-- What steps with a property preserve holds at the end of a run. -/
theorem execute_holds {step : State → Label → Option State}
    {property : State → Label → State → Prop} {holds : State → Prop}
    (preserved : ∀ state label next, holds state → step state label = some next →
      property state label next → holds next)
    {start final : State} (base : holds start) (labels : List Label)
    (along : Along step property start labels) (executed : execute step start labels = some final) :
    holds final := by
  induction labels generalizing start with
  | nil =>
      simp only [execute, Option.some.injEq] at executed
      exact executed ▸ base
  | cons label rest induction =>
      simp only [execute, Option.bind_eq_some_iff] at executed
      obtain ⟨next, taken, remaining⟩ := executed
      have met := along next taken
      exact induction (preserved start label next base taken met.1) met.2 remaining

theorem Along.last {step : State → Label → Option State}
    {property : State → Label → State → Prop} {start middle next : State} {labels : List Label}
    {label : Label} (along : Along step property start (labels ++ [label]))
    (executed : execute step start labels = some middle)
    (taken : step middle label = some next) : property middle label next := by
  induction labels generalizing start with
  | nil =>
      simp only [execute, Option.some.injEq] at executed
      subst executed
      exact (along next taken).1
  | cons first rest induction =>
      simp only [execute, Option.bind_eq_some_iff] at executed
      obtain ⟨following, went, remaining⟩ := executed
      exact induction (along following went).2 remaining

end Viridity.LabelledRuns
