import Shortlink.Pattern.Fault
import Shortlink.Pattern.Syntax

/-!
# How deep a pattern is nested

Repetitions, groups, sequences, choices and classes may stand inside one another only
so many times.
-/

namespace Shortlink.Pattern

/-- One level deeper, unless that is too deep. -/
def deeper (span : Span) (depth : Nat) : Except Fault Nat :=
  if depth < deepest then .ok (depth + 1) else .error { complaint := .tooDeep, span }

mutual

/-- Checks how deep the content of a class is nested. -/
def ClassSet.checkDepth (depth : Nat) : ClassSet → Except Fault Unit
  | .empty _ | .literal _ | .range .. | .named .. | .letter .. | .property _ => .ok ()
  | .bracketed span _ content => do content.checkDepth (← deeper span depth)
  | .union span parts => do checkDepths (← deeper span depth) parts
  | .operation span _ left right => do
      let depth ← deeper span depth
      left.checkDepth depth
      right.checkDepth depth

/-- Checks how deep the parts of a class are nested. -/
def ClassSet.checkDepths (depth : Nat) : List ClassSet → Except Fault Unit
  | [] => .ok ()
  | part :: parts => do
      part.checkDepth depth
      checkDepths depth parts

end

mutual

/-- Checks how deep a pattern is nested. -/
def Node.checkDepth (depth : Nat) : Node → Except Fault Unit
  | .empty _ | .flags .. | .literal _ | .dot _ | .edge .. | .property _ | .letter .. => .ok ()
  | .bracketed span _ content => do content.checkDepth (← deeper span depth)
  | .repetition span _ _ body | .group span _ body => do body.checkDepth (← deeper span depth)
  | .sequence span nodes | .choice span nodes => do checkDepths (← deeper span depth) nodes

/-- Checks how deep several patterns are nested. -/
def Node.checkDepths (depth : Nat) : List Node → Except Fault Unit
  | [] => .ok ()
  | node :: nodes => do
      node.checkDepth depth
      checkDepths depth nodes

end

end Shortlink.Pattern
