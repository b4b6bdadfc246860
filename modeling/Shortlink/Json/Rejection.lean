import Shortlink.Json.Skip
import Shortlink.Text.Quoted

/-!
# Rejecting a document

A document is rejected because its bytes are no document, or because it is a
document of another shape than the one wanted.  A rejection names the member or
element that was being read, says what is wrong with it, and tells where.
-/

namespace Shortlink.Json

/-- A value as it is named when another one was wanted. -/
inductive Found
  | null
  | truth (value : Bool)
  | number (value : Number)
  | text (value : String)
  | list
  | object

/-- The wording of what was found. -/
def Found.message : Found → String
  | .null => "null"
  | .truth value => "boolean `" ++ toString value ++ "`"
  | .number (.integer value) => "integer `" ++ toString value ++ "`"
  | .number (.float value) => "floating point `" ++ showFloat value ++ "`"
  | .text value => "string " ++ Text.quote value
  | .list => "sequence"
  | .object => "map"

/-- A way in which a document has another shape than the one wanted. -/
inductive Mismatch
  /-- A value of another kind stands where the expected one is due. -/
  | kind (found : Found) (expected : String)
  | missing (name : String)
  | duplicate (name : String)
  /-- A list has another number of elements. -/
  | length (count : Nat) (expected : String)

/-- The wording of a mismatch. -/
def Mismatch.message : Mismatch → String
  | .kind found expected => "invalid type: " ++ found.message ++ ", expected " ++ expected
  | .missing name => "missing field `" ++ name ++ "`"
  | .duplicate name => "duplicate field `" ++ name ++ "`"
  | .length count expected =>
      "invalid length " ++ toString count ++ ", expected " ++ expected

/-- What is wrong with a document. -/
inductive Problem
  | malformed (flaw : Flaw)
  | mismatch (difference : Mismatch)

/-- The wording of a problem. -/
def Problem.message : Problem → String
  | .malformed flaw => flaw.message
  | .mismatch difference => difference.message

/-- Whether the document is one, but of the wrong shape. -/
def Problem.isMismatch : Problem → Bool
  | .malformed _ => false
  | .mismatch _ => true

/-- A part of a document. -/
inductive Part
  | member (name : String)
  | element (index : Nat)
  deriving DecidableEq, Repr

/-- The wording of a part. -/
def Part.message : Part → String
  | .member name => name
  | .element index => "[" ++ toString index ++ "]"

/-- A reason to reject a document. -/
structure Rejection where
  problem : Problem
  /-- What was left of the document when that was found. -/
  rest : List UInt8
  /-- The part that was being read, if it was not the document itself. -/
  part : Option Part := none

/-- The rejection for a fault. -/
def Fault.toRejection (fault : Fault) : Rejection :=
  { problem := .malformed fault.flaw, rest := fault.rest }

/-- The same rejection, found while a part was being read. -/
def Rejection.inside (rejection : Rejection) (part : Part) : Rejection :=
  { rejection with part := some part }

/-- The wording of a rejection without its place. -/
def Rejection.reason (rejection : Rejection) : String :=
  rejection.part.elim "" (fun part => part.message ++ ": ") ++ rejection.problem.message

/-- The wording of a rejection of a document. -/
def Rejection.message (rejection : Rejection) (document : List UInt8) : String :=
  rejection.reason ++ (Position.before document rejection.rest).suffix

/-- Rejects the value in front, which is not the expected one, by naming it. -/
def unexpected (expected : String) (first : UInt8) (rest : List UInt8) : Rejection :=
  let named (found : Found) (rest : List UInt8) : Rejection :=
    { problem := .mismatch (.kind found expected), rest := rest }
  let word (found : Found) (letters : List UInt8) : Rejection :=
    match skipWord letters rest with
    | .ok rest => named found rest
    | .error fault => fault.toRejection
  let number (result : Except Fault (Number × List UInt8)) : Rejection :=
    match result with
    | .ok (value, rest) => named (.number value) rest
    | .error fault => fault.toRejection
  if first == 0x6E then word .null restOfNull
  else if first == 0x74 then word (.truth true) restOfTrue
  else if first == 0x66 then word (.truth false) restOfFalse
  else if first == 0x2D then number (readNumber true rest)
  else if isDigit first then number (readNumber false (first :: rest))
  else if first == 0x22 then
    match readText rest with
    | .ok (text, rest) => named (.text text) rest
    | .error fault => fault.toRejection
  else if first == 0x5B then named .list (first :: rest)
  else if first == 0x7B then named .object (first :: rest)
  else { problem := .malformed .expectedValue, rest := rest }

/-- Reads a string and the blanks in front of it. -/
def expectText (bytes : List UInt8) : Except Rejection (String × List UInt8) :=
  match skipBlanks bytes with
  | [] => .error { problem := .malformed .endInValue, rest := [] }
  | first :: rest =>
      if first == 0x22 then (readText rest).mapError Fault.toRejection
      else .error (unexpected "a string" first rest)

/-- Requires that nothing but blanks is left. -/
def expectEnd (bytes : List UInt8) : Except Rejection Unit :=
  match skipBlanks bytes with
  | [] => .ok ()
  | _ :: rest => .error { problem := .malformed .trailingCharacters, rest := rest }

/-- What is left to read of a string takes at least its closing quote. -/
theorem length_lt_of_readTextOnto {content : List UInt8} {done : List Char}
    {stray : Option Nat} {bytes rest : List UInt8} {text : String}
    (read : readTextOnto content done stray bytes = .ok (text, rest)) :
    rest.length < bytes.length := by
  fun_induction readTextOnto content done stray bytes with
  | case1 => simp at read
  | case2 done byte tail shorter left found =>
      simp only [Except.ok.injEq, Prod.mk.injEq] at read
      obtain ⟨-, rfl⟩ := read
      rw [found] at shorter
      exact shorter
  | case3 => simp at read
  | case4 done stray byte tail shorter value left found fewer ih =>
      exact Nat.lt_trans (ih read) fewer
  | case5 done stray byte tail shorter left found fewer ih =>
      exact Nat.lt_trans (ih read) fewer
  | case6 => simp at read

/-- The rest of a string takes at least its closing quote. -/
theorem length_lt_of_readText {bytes rest : List UInt8} {text : String}
    (read : readText bytes = .ok (text, rest)) : rest.length < bytes.length :=
  length_lt_of_readTextOnto read

/-- Reading a string takes at least one byte. -/
theorem length_lt_of_expectText {bytes rest : List UInt8} {text : String}
    (read : expectText bytes = .ok (text, rest)) : rest.length < bytes.length := by
  have shorter := length_skipBlanks_le bytes
  unfold expectText at read
  split at read
  · simp at read
  · rename_i first after blanks
    rw [blanks, List.length_cons] at shorter
    split at read
    · cases result : readText after with
      | error fault =>
          rw [result] at read
          change Except.error fault.toRejection = _ at read
          cases read
      | ok pair =>
          rw [result] at read
          change Except.ok pair = _ at read
          cases read
          have shorterText := length_lt_of_readText result
          omega
    · simp at read

/-- Skipping takes nothing back. -/
theorem length_le_of_skipFrom {place : Place} {opened : List Container}
    {bytes rest : List UInt8} (skipped : skipFrom place opened bytes = .ok rest) :
    rest.length ≤ bytes.length := by
  have blanks := length_skipBlanks_le
  fun_induction skipFrom place opened bytes with
  | case1 => simp at skipped
  | case2 place opened bytes left moved =>
      simp only [Except.ok.injEq] at skipped
      subst skipped
      have fewer := blanks bytes
      revert moved
      unfold move
      intro moved
      repeat' split at moved
      all_goals first
        | (have fewer := length_lt_of_takeValue moved; simp only [Move.rest] at fewer; omega)
        | (have fewer := length_lt_of_takeName moved; simp only [Move.rest] at fewer; omega)
        | (simp at moved; done)
        | (simp only [Except.ok.injEq] at moved
           have same := congrArg Move.rest moved
           rw [Move.rest_ended] at same
           simp only [Move.rest] at same
           subst same
           simp_all only [List.length_cons]
           have := blanks bytes
           simp_all only [List.length_cons]
           omega)
        | (simp only [Except.ok.injEq, Move.done.injEq] at moved
           subst moved
           exact fewer)
  | case3 place opened bytes next after left moved fewer ih =>
      exact Nat.le_of_lt (Nat.lt_of_le_of_lt (ih skipped) fewer)

end Shortlink.Json
