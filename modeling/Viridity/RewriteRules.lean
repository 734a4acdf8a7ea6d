import Mathlib.Data.List.Forall2
import Mathlib.Data.List.InsertIdx
import Viridity.LabelledRuns
import Viridity.NumberText
import Viridity.TextReplacement

/-!
# Rewrite rules

`RewriteRequestHandler` keeps the strings of its rules and, in a second list, what it read off
them. What a regular expression captures is any function of pattern and URL.
-/

namespace Viridity.RewriteRules

open Viridity.LabelledRuns
open Viridity.NumberText
open Viridity.TextEncoding
open Viridity.TextReplacement

set_option autoImplicit false

inductive RewriteFlag where
  | rewriteInternal
  | rewriteExternal
deriving DecidableEq

/-- The flag is `none` where it is left at a value that is neither. -/
structure RewriteRule where
  pattern : Units
  substitution : Units
  flag : Option RewriteFlag
  rewriteHttpStatusCode : Int
deriving DecidableEq

def trimmed (text : Units) : Units :=
  ((text.dropWhile isSpace).reverse.dropWhile isSpace).reverse

def isDigit (unit : UInt16) : Bool := utf16.unit '0' ≤ unit && unit ≤ utf16.unit '9'

def digitValue (unit : UInt16) : Int := unit.toNat - (utf16.unit '0').toNat

/-- The digits of the first place that matches `=([0-9]{3})\]`. -/
def statusCode : Units → Option Int
  | [] => none
  | first :: rest =>
      match rest with
      | hundreds :: tens :: ones :: close :: _ =>
          if first = utf16.unit '=' ∧ isDigit hundreds = true ∧ isDigit tens = true ∧
              isDigit ones = true ∧ close = utf16.unit ']' then
            some (digitValue hundreds * 100 + digitValue tens * 10 + digitValue ones)
          else statusCode rest
      | _ => statusCode rest

namespace RewriteRule

/-- `irule` is the rule as it is before: its members have no initial values. -/
def interpretRule (irule : RewriteRule) (rule : Units) : Option RewriteRule :=
  match (trimmed rule).splitOn (utf16.unit ' ') with
  | pattern :: substitution :: others =>
      let irule := { irule with pattern, substitution }
      match others with
      | [] => some { irule with flag := some .rewriteInternal }
      | flags :: _ =>
          if (utf16.encode ['[', 'R']).isPrefixOf flags then
            some { irule with
              flag := some .rewriteExternal
              rewriteHttpStatusCode := (statusCode flags).getD 301 }
          else some irule
  | _ => none

def reference (index : Nat) : Units := utf16.encode ('$' :: Nat.toDigits 10 index)

def substitute (substitution : Units) (capturedTexts : List Units) : Units :=
  capturedTexts.zipIdx.foldl
    (fun ruleRewrite (cap, i) => replaceAll (reference i) cap ruleRewrite) substitution

def doesMatchAndSubstitute (capture : Units → Units → Option (List Units)) (rule : RewriteRule)
    (input : Units) : Option Units :=
  (capture rule.pattern input).map (substitute rule.substitution)

end RewriteRule

structure RewriteRequestHandler where
  rewriteRules : List Units
  interpretedRewriteRules : List RewriteRule
deriving DecidableEq

namespace RewriteRequestHandler

def create : RewriteRequestHandler := { rewriteRules := [], interpretedRewriteRules := [] }

/-- `irule` is the local variable before its interpretation. -/
def addRule (handler : RewriteRequestHandler) (irule : RewriteRule) (rule : Units) :
    Bool × RewriteRequestHandler :=
  match irule.interpretRule rule with
  | some irule =>
      (true,
        { interpretedRewriteRules := handler.interpretedRewriteRules ++ [irule]
          rewriteRules := handler.rewriteRules ++ [rule] })
  | none => (false, handler)

def removeRule (handler : RewriteRequestHandler) (rule : Units) : Bool × RewriteRequestHandler :=
  match handler.rewriteRules.idxOf? rule with
  | some index =>
      (true,
        { rewriteRules := handler.rewriteRules.eraseIdx index
          interpretedRewriteRules := handler.interpretedRewriteRules.eraseIdx index })
  | none => (false, handler)

def clear (handler : RewriteRequestHandler) : RewriteRequestHandler :=
  { handler with rewriteRules := [] }

end RewriteRequestHandler

/-- The memory a rule is interpreted in comes with the call. -/
inductive RuleAction where
  | addRule (irule : RewriteRule) (rule : Units)
  | removeRule (rule : Units)
  | clear
deriving DecidableEq

/-- Beside the handler stand the rules added and not since removed or cleared, each with its
interpretation. -/
structure RuleState where
  handler : RewriteRequestHandler
  rules : List (Units × RewriteRule)

def start : RuleState := { handler := .create, rules := [] }

def ruleStep (state : RuleState) : RuleAction → Option RuleState
  | .addRule irule rule => some {
      handler := (state.handler.addRule irule rule).2
      rules := state.rules ++ ((irule.interpretRule rule).map fun irule => (rule, irule)).toList }
  | .removeRule rule => some {
      handler := (state.handler.removeRule rule).2
      rules := state.rules.eraseP fun entry => entry.1 = rule }
  | .clear => some { handler := state.handler.clear, rules := [] }

def Interprets (rule : Units) (irule : RewriteRule) : Prop :=
  ∃ memory : RewriteRule, memory.interpretRule rule = some irule

/-- Each interpreted rule is the interpretation of the string at its place, and the rules in
force are those added and not since removed or cleared. -/
structure InStep (state : RuleState) : Prop where
  interpreted : List.Forall₂ Interprets state.handler.rewriteRules
    state.handler.interpretedRewriteRules
  strings : state.handler.rewriteRules = state.rules.map Prod.fst
  inForce : state.handler.interpretedRewriteRules = state.rules.map Prod.snd

theorem start_in_step : InStep start := ⟨.nil, rfl, rfl⟩

theorem in_step_iff {state : RuleState} :
    InStep state ↔ state.handler.rewriteRules = state.rules.map Prod.fst ∧
      state.handler.interpretedRewriteRules = state.rules.map Prod.snd ∧
        ∀ entry ∈ state.rules, Interprets entry.1 entry.2 := by
  constructor
  · intro inStep
    have interpreted := inStep.interpreted
    rw [inStep.strings, inStep.inForce, List.forall₂_map_left_iff, List.forall₂_map_right_iff,
      List.forall₂_same] at interpreted
    exact ⟨inStep.strings, inStep.inForce, interpreted⟩
  · intro ⟨strings, inForce, interpreted⟩
    refine ⟨?_, strings, inForce⟩
    rw [strings, inForce, List.forall₂_map_left_iff, List.forall₂_map_right_iff, List.forall₂_same]
    exact interpreted

theorem add_in_step {state after : RuleState} {irule : RewriteRule} {rule : Units}
    (inStep : InStep state) (taken : ruleStep state (.addRule irule rule) = some after) :
    InStep after := by
  rw [in_step_iff] at inStep ⊢
  obtain ⟨strings, inForce, interpreted⟩ := inStep
  simp only [ruleStep, Option.some.injEq] at taken
  subst taken
  cases read : irule.interpretRule rule with
  | none =>
      have same : (state.handler.addRule irule rule).2 = state.handler := by
        simp [RewriteRequestHandler.addRule, read]
      rw [same, Option.map_none, Option.toList_none, List.append_nil]
      exact ⟨strings, inForce, interpreted⟩
  | some result =>
      have known : Interprets rule result := ⟨irule, read⟩
      simp only [RewriteRequestHandler.addRule, read, Option.map_some, Option.toList_some,
        List.map_append, List.map_singleton, strings, inForce, true_and]
      intro entry member
      rcases List.mem_append.mp member with earlier | here
      · exact interpreted entry earlier
      · rw [List.mem_singleton.mp here]
        exact known

theorem remove_in_step {state after : RuleState} {rule : Units} (inStep : InStep state)
    (taken : ruleStep state (.removeRule rule) = some after) : InStep after := by
  rw [in_step_iff] at inStep ⊢
  obtain ⟨strings, inForce, interpreted⟩ := inStep
  simp only [ruleStep, Option.some.injEq] at taken
  subst taken
  have place : state.handler.rewriteRules.idxOf? rule =
      state.rules.findIdx? fun entry => entry.1 = rule := by
    rw [strings, List.idxOf?, List.findIdx?_map]
    congr 1
    funext entry
    exact Bool.beq_eq_decide_eq _ _
  have erased := @List.eraseP_eq_eraseIdx _ state.rules fun entry => entry.1 = rule
  unfold RewriteRequestHandler.removeRule
  rw [place]
  cases found : state.rules.findIdx? fun entry => entry.1 = rule with
  | none =>
      rw [found] at erased
      rw [erased]
      exact ⟨strings, inForce, interpreted⟩
  | some index =>
      rw [found] at erased
      simp only [erased, strings, inForce, List.eraseIdx_map, true_and]
      intro entry member
      exact interpreted entry (List.mem_of_mem_eraseIdx member)

theorem clear_in_step_iff {state after : RuleState} (inStep : InStep state)
    (taken : ruleStep state .clear = some after) :
    InStep after ↔ state.handler.rewriteRules = [] := by
  simp only [ruleStep, Option.some.injEq] at taken
  subst taken
  have cleared : InStep { handler := state.handler.clear, rules := [] } ↔
      state.handler.interpretedRewriteRules = [] := by
    rw [in_step_iff]
    simp [RewriteRequestHandler.clear]
  rw [cleared, inStep.strings, inStep.inForce, List.map_eq_nil_iff, List.map_eq_nil_iff]

/-- The rules are in step all along exactly if `clear` only ever finds no rule. -/
theorem rules_in_step_iff (actions : List RuleAction) :
    Along ruleStep (fun _ _ after => InStep after) start actions ↔
      Along ruleStep (fun state action _ =>
        action = .clear → state.handler.rewriteRules = []) start actions := by
  apply @along_congr_while _ _ _ _ _ InStep _ _ _ start_in_step
  · intro _ _ _ _ _ inStep
    exact inStep
  · intro state action after inStep taken
    cases action with
    | addRule irule rule =>
        exact iff_of_true (add_in_step inStep taken) (fun clears => by cases clears)
    | removeRule rule =>
        exact iff_of_true (remove_in_step inStep taken) (fun clears => by cases clears)
    | clear =>
        rw [clear_in_step_iff inStep taken]
        exact ⟨fun empty _ => empty, fun empty => empty rfl⟩

def clearedActions : List RuleAction :=
  [.addRule ⟨[], [], none, 0⟩ (utf16.encode ['/', 'a', ' ', '/', 'b']), .clear]

/-- The rule stays in force although it was cleared. -/
theorem cleared_rule_in_force :
    ¬ ∀ actions : List RuleAction, Along ruleStep (fun _ _ after => InStep after) start actions := by
  intro always
  have cleared := ((always clearedActions _ rfl).2 _ rfl).1.inForce
  revert cleared
  decide

end Viridity.RewriteRules
