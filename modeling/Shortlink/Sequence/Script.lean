import Shortlink.Sequence

/-!
# Scripts over registers of sequences

A script works on any number of named registers, each of which holds a
sequence.  Copying a register makes the target independent of its source from
then on.
-/

namespace Shortlink.Sequence.Script

/-- The sequence that each register holds. -/
abbrev Registers := String → Sequence

/-- One step of a script. -/
inductive Step
  /-- Move a register on and report the number reached. -/
  | advance (register : String)
  /-- Move a register on and report the code issued. -/
  | nextCode (register : String)
  /-- Move a register on `count` times. -/
  | advanceMany (register : String) (count : Nat)
  /-- Only look at a register. -/
  | current (register : String)
  | clone (register target : String)
  | equals (register other : String)
  | inspect (register : String)
  deriving DecidableEq, Repr

/-- The register that a step is about. -/
def Step.register : Step → String
  | .advance register | .nextCode register | .advanceMany register _ | .current register
  | .clone register _ | .equals register _ | .inspect register => register

inductive Report
  | nothing
  | number (value : UInt64)
  | code (value : ShortCode)
  /-- Whether two registers are equal. -/
  | truth (value : Bool)
  | shown (value : String)
  /-- The register was at its end. -/
  | exhausted (failure : Exhausted)
  deriving DecidableEq

/-- Puts a sequence into a register. -/
def Registers.set (registers : Registers) (register : String) (sequence : Sequence) :
    Registers :=
  fun name => if name = register then sequence else registers name

/-- One step: what it reports, and the registers after it. -/
def Step.run (registers : Registers) : Step → Report × Registers
  | .advance register =>
      match (registers register).advance with
      | .ok moved => (.number moved.current, registers.set register moved)
      | .error failure => (.exhausted failure, registers)
  | .nextCode register =>
      match (registers register).nextCode with
      | .ok (code, moved) => (.code code, registers.set register moved)
      | .error failure => (.exhausted failure, registers)
  | .advanceMany register count =>
      let (moved, failure?) := Sequence.advanceMany count (registers register)
      (failure?.elim .nothing .exhausted, registers.set register moved)
  | .current _ => (.nothing, registers)
  | .clone register target => (.nothing, registers.set target (registers register))
  | .equals register other => (.truth (registers register == registers other), registers)
  | .inspect register => (.shown (registers register).inspect, registers)

/-- A whole script: for each step its report and the number that the step's
register then shows. -/
def run (registers : Registers) : List Step → List (Report × UInt64)
  | [] => []
  | step :: rest =>
      let (report, after) := step.run registers
      (report, (after step.register).current) :: run after rest

end Shortlink.Sequence.Script
