import Mathlib.Data.List.Basic
import Mathlib.Tactic.Common

/-!
# Parsers that are resumed

A parser holds back what it has not read yet and goes round until it needs more input. What it
does depends on the input alone and not on how that is cut, if input that comes later changes no
round that goes on, and a round that stops can be taken up again. A parser that has given up
need not keep to this.
-/

namespace Viridity.ResumedParsing

set_option autoImplicit false

variable {State Symbol Event : Type*}

/-- What one round makes of a state, and whether another follows. -/
structure Round (State Event : Type*) where
  state : State
  events : List Event
  again : Bool

def rounds (round : State → Round State Event) : Nat → State → State × List Event
  | 0, state => (state, [])
  | bound + 1, state =>
      let first := round state
      if first.again then
        let rest := rounds round bound first.state
        (rest.1, first.events ++ rest.2)
      else (first.state, first.events)

/-- A parser: `supply` appends input to what is held back, `work` bounds the rounds to come. -/
structure Parser (State Symbol Event : Type*) where
  supply : State → List Symbol → State
  round : State → Round State Event
  work : State → Nat
  live : State → Prop
  supply_append : ∀ state front back, supply state (front ++ back) = supply (supply state front) back
  shrinks : ∀ state, (round state).again = true → work (round state).state < work state
  gives_up : ∀ state, live (round state).state → live state
  gone : ∀ state more, ¬ live (round state).state → ¬ live (round (supply state more)).state
  stable : ∀ state more, live (round state).state → (round state).again = true →
    round (supply state more) =
      { round state with state := supply (round state).state more }
  resumes : ∀ state more, live (round state).state → (round state).again = false →
    round (supply state more) =
      { round (supply (round state).state more) with
        events := (round state).events ++ (round (supply (round state).state more)).events }

namespace Parser

variable (parser : Parser State Symbol Event)

def parse (state : State) : State × List Event :=
  rounds parser.round (parser.work state + 1) state

def feed (state : State) (piece : List Symbol) : State × List Event :=
  parser.parse (parser.supply state piece)

def feedAll (state : State) : List (List Symbol) → State × List Event
  | [] => (state, [])
  | piece :: pieces =>
      let first := parser.feed state piece
      let rest := feedAll first.1 pieces
      (rest.1, first.2 ++ rest.2)

variable {parser}

/-- More rounds than there is work for change nothing. -/
theorem rounds_enough {bound : Nat} {state : State} (enough : parser.work state < bound) :
    rounds parser.round bound state = parser.parse state := by
  unfold parse
  generalize more : parser.work state + 1 = other
  have below : parser.work state < other := by omega
  clear more
  induction bound generalizing state other with
  | zero => omega
  | succ bound induction =>
      cases other with
      | zero => omega
      | succ other =>
          unfold rounds
          dsimp only
          split_ifs with again
          · have less := parser.shrinks state again
            rw [induction (by omega) other (by omega)]
          · rfl

theorem parse_round (state : State) :
    parser.parse state =
      if (parser.round state).again then
        ((parser.parse (parser.round state).state).1,
          (parser.round state).events ++ (parser.parse (parser.round state).state).2)
      else ((parser.round state).state, (parser.round state).events) := by
  conv_lhs => unfold parse rounds
  dsimp only
  split_ifs with again
  · rw [rounds_enough (parser.shrinks state again)]
  · rfl

theorem parse_again {state : State} (again : (parser.round state).again = true) :
    parser.parse state = ((parser.parse (parser.round state).state).1,
      (parser.round state).events ++ (parser.parse (parser.round state).state).2) := by
  rw [parse_round, if_pos again]

theorem parse_stops {state : State} (stops : (parser.round state).again = false) :
    parser.parse state = ((parser.round state).state, (parser.round state).events) := by
  rw [parse_round, if_neg (by rw [stops]; exact Bool.false_ne_true)]

theorem parse_back {holds : State → Prop}
    (back : ∀ state, holds (parser.round state).state → holds state) {state : State}
    (after : holds (parser.parse state).1) : holds state := by
  induction work : parser.work state using Nat.strongRecOn generalizing state with
  | _ work induction =>
      apply back
      cases again : (parser.round state).again with
      | true =>
          rw [parse_again again] at after
          exact induction _ (work ▸ parser.shrinks state again) after rfl
      | false =>
          rw [parse_stops again] at after
          exact after

theorem parse_live {state : State} (alive : parser.live (parser.parse state).1) :
    parser.live state :=
  parse_back parser.gives_up alive

theorem parse_live_round {state : State} (alive : parser.live (parser.parse state).1) :
    parser.live (parser.round state).state := by
  rw [parse_round] at alive
  split_ifs at alive
  · exact parse_live alive
  · exact alive

/-- No later input saves a parser that gives up. -/
theorem parse_gone {state : State} (more : List Symbol)
    (alive : parser.live (parser.parse (parser.supply state more)).1) :
    parser.live (parser.parse state).1 := by
  induction work : parser.work state using Nat.strongRecOn generalizing state with
  | _ work induction =>
      have first : parser.live (parser.round state).state := by
        by_contra dead
        exact parser.gone state more dead (parse_live_round alive)
      cases again : (parser.round state).again with
      | true =>
          have goes := parser.stable state more first again
          have repeated : (parser.round (parser.supply state more)).again = true := by
            rw [goes]
            exact again
          rw [parse_again repeated, goes] at alive
          rw [parse_again again]
          exact induction _ (work ▸ parser.shrinks state again) alive rfl
      | false =>
          rw [parse_stops again]
          exact first

/-- Input that comes later is parsed as if it had been there before. -/
theorem parse_supplied {state : State} (more : List Symbol)
    (alive : parser.live (parser.parse state).1) :
    parser.parse (parser.supply state more) =
      ((parser.feed (parser.parse state).1 more).1,
        (parser.parse state).2 ++ (parser.feed (parser.parse state).1 more).2) := by
  unfold feed
  induction work : parser.work state using Nat.strongRecOn generalizing state with
  | _ work induction =>
      cases again : (parser.round state).again with
      | true =>
          rw [parse_again again] at alive ⊢
          have goes := parser.stable state more (parse_live alive) again
          have later := induction _ (work ▸ parser.shrinks state again) alive rfl
          have repeated : (parser.round (parser.supply state more)).again = true := by
            rw [goes]
            exact again
          rw [parse_again repeated, goes]
          dsimp only
          rw [later, List.append_assoc]
      | false =>
          rw [parse_stops again] at alive ⊢
          have taken := parser.resumes state more alive again
          dsimp only at alive ⊢
          rw [parse_round (parser.supply state more), taken,
            parse_round (parser.supply (parser.round state).state more)]
          dsimp only
          split_ifs
          · rw [List.append_assoc]
          · rfl

theorem feed_append {state : State} (front back : List Symbol)
    (alive : parser.live (parser.feed state front).1) :
    parser.feed state (front ++ back) =
      ((parser.feed (parser.feed state front).1 back).1,
        (parser.feed state front).2 ++ (parser.feed (parser.feed state front).1 back).2) := by
  have supplied := parse_supplied back alive
  rw [← parser.supply_append] at supplied
  exact supplied

/-- However the input is cut, a parser that does not give up on it does the same. -/
theorem feed_all_flatten {pieces : List (List Symbol)} {state : State} (filled : pieces ≠ [])
    (alive : parser.live (parser.feed state pieces.flatten).1) :
    parser.feedAll state pieces = parser.feed state pieces.flatten := by
  induction pieces generalizing state with
  | nil => exact absurd rfl filled
  | cons piece pieces induction =>
      rw [List.flatten_cons] at alive ⊢
      cases pieces with
      | nil =>
          rw [List.flatten_nil, List.append_nil]
          unfold feedAll feedAll
          simp only [List.append_nil]
      | cons next pieces =>
          have first : parser.live (parser.feed state piece).1 := by
            apply parse_gone (next :: pieces).flatten
            rw [← parser.supply_append]
            exact alive
          have appended := feed_append piece (next :: pieces).flatten first
          rw [appended] at alive
          rw [appended]
          unfold feedAll
          dsimp only
          rw [induction (by simp) alive]

end Parser

end Viridity.ResumedParsing
