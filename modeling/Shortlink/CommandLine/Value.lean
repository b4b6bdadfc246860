import Shortlink.CommandLine.Setting
import Shortlink.Text.Similarity

/-!
# Values

The values of settings are given as texts.  Here they are read, one setting at a
time, into settings of which some may still be missing.
-/

namespace Shortlink.CommandLine

/-- What is wrong with the value of a setting. -/
inductive ValueProblem
  | number (error : Decimal.NumeralError)
  /-- It is a number out of range. -/
  | range (number : Int) (bounds : String)
  | address
  /-- It is not one of the possible values, but perhaps like one. -/
  | choice (similar? : Option String)
  deriving DecidableEq, Repr

/-- The settings that have been given a value so far. -/
structure Given where
  port? : Option UInt16 := none
  host? : Option Net.Address := none
  requestTimeout? : Option UInt64 := none
  logFormat? : Option Log.Format := none
  logLevel? : Option String := none
  deriving DecidableEq, Repr

/-- Reads a port, which is not zero. -/
def readPort (text : String) : Except ValueProblem UInt16 :=
  match Decimal.readSigned text with
  | .error failure => .error (.number failure)
  | .ok value =>
      if 1 ≤ value ∧ value ≤ 65535 then .ok value.toNat.toUInt16
      else .error (.range value "1..=65535")

/-- Reads a number of seconds, which is not zero. -/
def readTimeout (text : String) : Except ValueProblem UInt64 :=
  match Decimal.readUnsigned text with
  | .error failure => .error (.number failure)
  | .ok value =>
      if value = 0 then .error (.range 0 "1..18446744073709551615") else .ok value

def readHost (text : String) : Except ValueProblem Net.Address :=
  match Net.Address.parse? text with
  | some address => .ok address
  | none => .error .address

def readFormat (text : String) : Except ValueProblem Log.Format :=
  if text = "json" then .ok .json
  else if text = "text" then .ok .text
  else .error (.choice (Text.mostSimilar? text (Setting.possibleValues .logFormat)))

/-- Reads the value of a setting. -/
def Given.read (given : Given) (setting : Setting) (text : String) :
    Except ValueProblem Given :=
  match setting with
  | .port => (readPort text).map fun port => { given with port? := some port }
  | .host => (readHost text).map fun host => { given with host? := some host }
  | .requestTimeout =>
      (readTimeout text).map fun timeout => { given with requestTimeout? := some timeout }
  | .logFormat => (readFormat text).map fun format => { given with logFormat? := some format }
  | .logLevel => .ok { given with logLevel? := some text }

/-- The settings, given that there is a port. -/
def Given.withDefaults (given : Given) (port : UInt16) : Settings :=
  { port
    host := given.host?.getD .unspecified
    requestTimeout := given.requestTimeout?.getD 15
    logFormat := given.logFormat?.getD .json
    logLevel := given.logLevel?.getD "info" }

end Shortlink.CommandLine
