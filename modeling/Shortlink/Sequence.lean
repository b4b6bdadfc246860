import Shortlink.ShortCode

/-!
# Sequences

A sequence counts upwards and issues a short code for each number it reaches.
It starts at zero, so the first code is that of one, and it ends at 2^64 - 1:
a sequence that has reached its end issues nothing more and stays as it is.
-/

namespace Shortlink

/-- The failure of a sequence at its end. -/
structure Exhausted where
  deriving DecidableEq, Repr

/-- The wording of the failure. -/
def Exhausted.message (_ : Exhausted) : String :=
  "sequence exhausted the u64 key space"

/-- A counter, named by the last number it has reached. -/
structure Sequence where
  /-- The last number reached, or zero before the first. -/
  last : UInt64 := 0
  deriving DecidableEq, Repr, Inhabited

namespace Sequence

def current (sequence : Sequence) : UInt64 :=
  sequence.last

/-- Moves on to the next number. -/
def advance (sequence : Sequence) : Except Exhausted Sequence :=
  if h : sequence.last.toNat + 1 < UInt64.size then
    .ok ⟨UInt64.ofNatLT (sequence.last.toNat + 1) h⟩
  else .error {}

/-- Moves on and issues the code of the number reached. -/
def nextCode (sequence : Sequence) : Except Exhausted (ShortCode × Sequence) :=
  sequence.advance.map fun moved => (ShortCode.ofNumber moved.current, moved)

/-- Moves on `count` times, or to the end if that comes first. -/
def advanceMany : Nat → Sequence → Sequence × Option Exhausted
  | 0, sequence => (sequence, none)
  | count + 1, sequence =>
      match sequence.advance with
      | .ok moved => advanceMany count moved
      | .error failure => (sequence, some failure)

/-- A sequence as it is shown for inspection. -/
def inspect (sequence : Sequence) : String :=
  "Sequence \x7b last: " ++ toString sequence.last.toNat ++ " \x7d"

end Sequence

end Shortlink
