import Shortlink.CommandLine.Error

/-!
# Help

The text that explains the command line, with the values that the environment gives
at the moment.
-/

namespace Shortlink.CommandLine

/-- How far explanations are indented. -/
def explanationIndent : String := "          "

/-- A text whose further lines are indented like an explanation. -/
def indented (text : String) : String :=
  String.ofList (text.toList.flatMap fun character =>
    if character = '\n' then '\n' :: explanationIndent.toList else [character])

/-- What is said about a setting. -/
def explanation (environment : Environment) (setting : Setting) : String :=
  let current := (environment setting.variableName).getD ""
  let remarks :=
    ["[env: " ++ setting.variableName ++ "=" ++ current ++ "]"] ++
      (setting.default?.map fun value => "[default: " ++ value ++ "]").toList ++
      (if setting.possibleValues.isEmpty then []
        else ["[possible values: " ++ ", ".intercalate setting.possibleValues ++ "]"])
  " ".intercalate ((if setting.description.isEmpty then [] else [setting.description]) ++ remarks)

/-- A text that is set off from the others. -/
def emphasised (text : String) : String :=
  "\x1b[1m" ++ text ++ "\x1b[0m"

/-- The letter of a flag, with what comes after it, or as much space. -/
def letterColumn (flag : Flag) : String :=
  match flag.letter? with
  | some letter => "  " ++ emphasised (String.ofList ['-', letter]) ++ ", "
  | none => "      "

/-- A flag and what it is for. -/
def helpEntry (environment : Environment) (flag : Flag) : String :=
  let (valueName, text) := match flag with
    | .setting setting => (" <" ++ setting.valueName ++ ">", explanation environment setting)
    | .help => ("", "Print help")
  letterColumn flag ++ emphasised ("--" ++ flag.name) ++ valueName ++ "\n" ++
    explanationIndent ++ indented text ++ "\n"

/-- The text that explains the command line, as it is shown.  A sequence that
steers the terminal, in a value of the environment, reaches as far as the next flag if
nothing ends it. -/
def helpText (medium : Text.Medium) (environment : Environment) : String :=
  Text.displayed medium ("HTTP gateway of the portal URL shortener\n\nUsage: " ++ generalUsage ++
    "\n\nOptions:\n" ++ String.join (Flag.all.map (helpEntry environment)))

end Shortlink.CommandLine
