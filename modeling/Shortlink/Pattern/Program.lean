import Shortlink.Pattern.Expression

/-!
# Programs

An expression is carried out as a program of numbered steps.  A step takes a
character, or asks for an edge, or goes on in two ways of which the first is
preferred; and one step is the end.
-/

namespace Shortlink.Pattern

/-- A step of a program, with the numbers of the steps after it. -/
inductive Instruction
  | accept
  /-- Takes a character of a set. -/
  | take (set : CharSet) (next : Nat)
  /-- Asks for an edge. -/
  | ask (edge : Edge) (next : Nat)
  /-- Goes on in two ways. -/
  | fork (preferred other : Nat)
  deriving DecidableEq, Repr

structure Program where
  steps : Array Instruction
  /-- The number of the first step. -/
  start : Nat
  deriving DecidableEq, Repr

namespace Program

/-- A step that is added behind others, and its number. -/
def add (steps : Array Instruction) (step : Instruction) : Nat × Array Instruction :=
  (steps.size, steps.push step)

/-- Two ways, of which the repeated one is preferred by a greedy repetition. -/
def way (greedy : Bool) (again onward : Nat) : Instruction :=
  if greedy then .fork again onward else .fork onward again

/-- Adds the steps of an expression that is followed by the step `next`, and gives the
number of their first one.  A repetition comes back to the step that decides whether
to go on; if its body may be empty, that step comes after the body, so that the body
is gone through before it is asked for again. -/
def addExpression (steps : Array Instruction) (next : Nat) :
    Expression → Nat × Array Instruction
  | .empty => (next, steps)
  | .one set => add steps (.take set next)
  | .edge kind => add steps (.ask kind next)
  | .sequence first second =>
      let (middle, steps) := addExpression steps next second
      addExpression steps middle first
  | .choice preferred other =>
      let (first, steps) := addExpression steps next preferred
      let (second, steps) := addExpression steps next other
      add steps (.fork first second)
  | .repetition count greedy body =>
      match count with
      | .optional =>
          let (first, steps) := addExpression steps next body
          add steps (way greedy first next)
      | .some | .many =>
          let (decision, steps) := add steps .accept
          let (first, steps) := addExpression steps decision body
          let steps := steps.setIfInBounds decision (way greedy first next)
          if count = .some then (first, steps)
          else if body.mayBeEmpty then add steps (way greedy first next)
          else (decision, steps)

/-- The program of an expression. -/
def ofExpression (expression : Expression) : Program :=
  let (start, steps) := addExpression #[.accept] 0 expression
  { steps, start }

end Program

end Shortlink.Pattern
