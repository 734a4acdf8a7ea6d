import Mathlib.Data.List.Basic

/-!
# An answer overwritten in turn

A loop that stores each answer in one variable is left with the last one. It tells whether
any answer was positive exactly if a positive one is never followed by negative ones only.
-/

namespace Viridity.OverwrittenAnswers

set_option autoImplicit false

/-- What is left in a variable that starts false. -/
def lastAnswer (answers : List Bool) : Bool := answers.getLast?.getD false

/-- If any answer is positive, then the last one is. -/
def EndsPositive (answers : List Bool) : Prop := true ∈ answers → answers.getLast? = some true

instance (answers : List Bool) : Decidable (EndsPositive answers) :=
  inferInstanceAs (Decidable (_ → _))

@[simp] theorem last_answer_nil : lastAnswer [] = false := rfl

@[simp] theorem last_answer_append (answers : List Bool) (answer : Bool) :
    lastAnswer (answers ++ [answer]) = answer := by
  simp [lastAnswer]

theorem last_answer_true_iff (answers : List Bool) :
    lastAnswer answers = true ↔ answers.getLast? = some true := by
  cases last : answers.getLast? with
  | none => simp [lastAnswer, last]
  | some answer => simp [lastAnswer, last]

/-- The variable tells the truth about all answers exactly if these end positive. -/
theorem last_answer_truthful_iff (answers : List Bool) :
    (lastAnswer answers = true ↔ true ∈ answers) ↔ EndsPositive answers := by
  rw [last_answer_true_iff]
  constructor
  · intro truthful
    exact truthful.mpr
  · intro ends
    exact ⟨List.mem_of_getLast?, ends⟩

end Viridity.OverwrittenAnswers
