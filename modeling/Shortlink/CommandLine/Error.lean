import Shortlink.CommandLine.Value
import Shortlink.Text.Displayed

/-!
# What can be wrong with a command line

A complaint about a command line says what is wrong, perhaps what was meant, and
how the program is used if that helps.  Of what was given it repeats only as much as
can be shown.
-/

namespace Shortlink.CommandLine

/-- What is wrong with a command line. -/
inductive Error
  /-- An argument stands where none is wanted, or is a letter that no flag has. -/
  | unexpected (argument : String)
  /-- No flag has this name, but there may be one with a similar name.  Settings are
  used before. -/
  | unknownFlag (name : String) (similar? : Option Flag) (used : List Flag)
  | repeated (setting : Setting)
  | valueRequired (setting : Setting)
  | invalidValue (setting : Setting) (text : String) (problem : ValueProblem)
  /-- Help is asked for with a value, perhaps after settings. -/
  | valueNotWanted (text : String) (afterSettings : Bool)
  | portRequired (used : List Flag)
  deriving DecidableEq, Repr

/-- How the program is called in messages. -/
def programName : String := "gateway"

/-- How the program is used in general. -/
def generalUsage : String :=
  programName ++ " [OPTIONS] " ++ (Flag.setting .port).usage

/-- How the program is used with flags.  The port is always required. -/
def usageWith (used : List Flag) : String :=
  " ".intercalate (programName :: (Flag.setting .port :: used.filter (· ≠ .setting .port)).map
    Flag.usage)

/-- How the program is used with flags that are no settings, and with any of the
settings. -/
def usageWithAny (flags : List Flag) : String :=
  let settings := Setting.all.map fun setting => (Flag.setting setting).usage
  " ".intercalate (programName :: flags.map Flag.usage ++ ["<" ++ "|".intercalate settings ++ ">"])

/-- The list of possible values, on a line of its own, if there is one. -/
def possibleValuesLine (setting : Setting) : String :=
  if setting.possibleValues.isEmpty then ""
  else "\n  [possible values: " ++ ", ".intercalate setting.possibleValues ++ "]"

namespace Error

/-- What is wrong, in words. -/
def complaint (medium : Text.Medium) : Error → String
  | .unexpected argument => unexpectedComplaint argument
  | .unknownFlag name _ _ => unexpectedComplaint ("--" ++ name)
  | .repeated setting =>
      "the argument '" ++ (Flag.setting setting).usage ++ "' cannot be used multiple times"
  | .valueRequired setting => valueRequiredComplaint setting
  | .invalidValue setting text problem =>
      let subject := "invalid value '" ++ Text.displayed medium text ++ "' for '" ++
        (Flag.setting setting).usage ++ "'"
      match problem with
      | .number error => subject ++ ": " ++ error.message
      | .range number bounds => subject ++ ": " ++ toString number ++ " is not in " ++ bounds
      | .address => subject ++ ": " ++ Net.addressSyntaxMessage
      | .choice _ =>
          if text.isEmpty then valueRequiredComplaint setting
          else subject ++ possibleValuesLine setting
  | .valueNotWanted text _ =>
      "unexpected value '" ++ Text.displayed medium text ++ "' for '" ++ Flag.help.usage ++
        "' found; no more were expected"
  | .portRequired _ =>
      "the following required arguments were not provided:\n  " ++ (Flag.setting .port).usage
where
  /-- That an argument is not asked for, in words. -/
  unexpectedComplaint (argument : String) : String :=
    "unexpected argument '" ++ Text.displayed medium argument ++ "' found"
  /-- That a setting has no value, in words. -/
  valueRequiredComplaint (setting : Setting) : String :=
    "a value is required for '" ++ (Flag.setting setting).usage ++ "' but none was supplied" ++
      possibleValuesLine setting

/-- What was meant, in words. -/
def tip? : Error → Option String
  | .unknownFlag _ (some flag) _ =>
      some ("a similar argument exists: '--" ++ flag.name ++ "'")
  | .invalidValue _ _ (.choice (some value)) => some ("a similar value exists: '" ++ value ++ "'")
  | _ => none

/-- How the program is used, if that helps.  A flag that was meant counts as used. -/
def usage? : Error → Option String
  | .unexpected _ | .repeated _ | .unknownFlag _ none [] => some generalUsage
  | .unknownFlag _ none used | .portRequired used => some (usageWith used)
  | .unknownFlag _ (some flag) used =>
      some (usageWith (if flag ∈ used then used else used ++ [flag]))
  | .valueNotWanted _ afterSettings =>
      some (if afterSettings then usageWithAny [.help] else usageWith [.help])
  | .valueRequired _ | .invalidValue .. => none

/-- The whole report of what is wrong. -/
def report (medium : Text.Medium) (error : Error) : String :=
  "error: " ++ error.complaint medium ++ error.tip?.elim "" (fun tip => "\n\n  tip: " ++ tip) ++
    error.usage?.elim "" (fun usage => "\n\nUsage: " ++ usage) ++
    "\n\nFor more information, try '--help'.\n"

end Error

end Shortlink.CommandLine
