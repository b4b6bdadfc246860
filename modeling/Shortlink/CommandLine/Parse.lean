import Shortlink.CommandLine.Help

/-!
# Reading a command line

Arguments are taken from the left.  A value that is an argument of its own is looked
at only when the next flag turns up, or the end; until then an argument that is out
of place is complained about first.  What the command line does not give is taken
from the environment, in the usual order of the settings.
-/

namespace Shortlink.CommandLine

/-- What a command line comes to, other than settings. -/
inductive Stop
  | help
  | error (error : Error)
  deriving DecidableEq, Repr

/-- A flag that has turned up without its value. -/
inductive Pending
  | none
  /-- The next argument may be the value of this setting. -/
  | awaiting (setting : Setting)
  /-- The value of this setting has not been looked at yet. -/
  | holding (setting : Setting) (text : String)
  deriving DecidableEq, Repr

/-- What has been read of a command line. -/
structure Progress where
  given : Given := {}
  /-- The settings that have turned up, in order. -/
  used : List Setting := []
  /-- The flag whose value is still missing or has not been looked at. -/
  pending : Pending := .none
  deriving DecidableEq, Repr

namespace Progress

/-- Gives a setting its value. -/
def give (progress : Progress) (setting : Setting) (text : String) : Except Stop Progress :=
  if setting ∈ progress.used then .error (.error (.repeated setting))
  else match progress.given.read setting text with
  | .error problem => .error (.error (.invalidValue setting text problem))
  | .ok given => .ok { progress with given, used := progress.used ++ [setting] }

/-- Looks at a value that has not been looked at yet. -/
def settle (progress : Progress) : Except Stop Progress :=
  match progress.pending with
  | .none => .ok progress
  | .awaiting setting => .error (.error (.valueRequired setting))
  | .holding setting text => { progress with pending := .none }.give setting text

/-- The settings that have turned up, with the one whose value has not been looked at
yet.  If that one is repeated it does not count at all. -/
def usedSoFar (progress : Progress) : List Setting :=
  match progress.pending with
  | .none | .awaiting _ => progress.used
  | .holding setting _ =>
      if setting ∈ progress.used then progress.used.erase setting
      else progress.used ++ [setting]

/-- Complains about an argument that is out of place. -/
def outOfPlace {α : Type} (argument : String) : Except Stop α :=
  .error (.error (.unexpected argument))

/-- Complains about a flag that does not exist. -/
def unknownFlag {α : Type} (progress : Progress) (name : String) : Except Stop α :=
  let similar? := (Text.mostSimilar? name (Flag.all.map Flag.name)).bind Flag.ofName?
  .error (.error (.unknownFlag name similar? (progress.usedSoFar.map .setting)))

/-- Takes the flag of a setting, with or without a value that is attached to it. -/
def takeSetting (progress : Progress) (setting : Setting) (attached? : Option String) :
    Except Stop Progress := do
  let progress ← progress.settle
  match attached? with
  | some text => progress.give setting text
  | none => return { progress with pending := .awaiting setting }

/-- Takes the flag that asks for help. -/
def takeHelp {α : Type} (progress : Progress) : Except Stop α := do
  let _ ← progress.settle
  throw .help

/-- Takes a flag that is given by its name. -/
def takeName (progress : Progress) (name : String) (attached? : Option String) :
    Except Stop Progress :=
  match Flag.ofName? name, attached? with
  | some (.setting subject), _ => progress.takeSetting subject attached?
  | some .help, none => progress.takeHelp
  | some .help, some text =>
      .error (.error (.valueNotWanted text (!progress.used.isEmpty)))
  | none, _ => progress.unknownFlag name

/-- What is attached to a letter, without the equals sign in front. -/
def attachment? : List Char → Option String
  | [] => none
  | '=' :: rest => some (String.ofList rest)
  | rest => some (String.ofList rest)

/-- Takes a flag that is given by its letter. -/
def takeLetter (progress : Progress) (letter : Char) (rest : List Char) :
    Except Stop Progress :=
  match Flag.ofLetter? letter with
  | some (.setting subject) => progress.takeSetting subject (attachment? rest)
  | some .help => progress.takeHelp
  | none => outOfPlace (String.ofList ['-', letter])

/-- Takes an argument that is no flag. -/
def takeValue (progress : Progress) (text : String) : Except Stop Progress :=
  match progress.pending with
  | .awaiting setting => .ok { progress with pending := .holding setting text }
  | .none | .holding .. => outOfPlace text

end Progress

/-- What kind of argument a text is. -/
inductive Argument
  /-- The mark after which there are no flags. -/
  | endOfFlags
  | name (name : String) (attached? : Option String)
  | letter (letter : Char) (rest : List Char)
  | value (text : String)
  deriving DecidableEq, Repr

/-- What kind of argument a text is. -/
def Argument.ofText (text : String) : Argument :=
  match text.toList with
  | ['-', '-'] => .endOfFlags
  | '-' :: '-' :: rest =>
      .name (String.ofList (rest.takeWhile (· ≠ '=')))
        (match rest.dropWhile (· ≠ '=') with
        | [] => none
        | _ :: attached => some (String.ofList attached))
  | '-' :: first :: rest => .letter first rest
  | _ => .value text

def takeAll (progress : Progress) : List String → Except Stop Progress
  | [] => progress.settle
  | text :: rest =>
      match Argument.ofText text with
      | .endOfFlags =>
          match rest with
          | [] => progress.settle
          | argument :: _ => Progress.outOfPlace argument
      | .name name attached? => do takeAll (← progress.takeName name attached?) rest
      | .letter letter attached => do takeAll (← progress.takeLetter letter attached) rest
      | .value text => do takeAll (← progress.takeValue text) rest

/-- Takes from the environment what is not given yet. -/
def takeEnvironment (environment : Environment) (progress : Progress) :
    List Setting → Except Stop Progress
  | [] => .ok progress
  | setting :: rest =>
      match environment setting.variableName with
      | none => takeEnvironment environment progress rest
      | some text =>
          if setting ∈ progress.used then takeEnvironment environment progress rest
          else do takeEnvironment environment (← progress.give setting text) rest

def parse (environment : Environment) (arguments : List String) : Except Stop Settings := do
  let progress ← takeAll {} arguments
  let progress ← takeEnvironment environment progress Setting.all
  match progress.given.port? with
  | some port => return progress.given.withDefaults port
  | none => throw (.error (.portRequired (progress.used.map .setting)))

end Shortlink.CommandLine
