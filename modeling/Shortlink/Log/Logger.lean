import Shortlink.Log.Filter
import Shortlink.Log.Line

/-!
# Loggers

A logger writes the entries that its filter lets through, in its format.  The
filter is read from the directives in the environment if there are any that can be
read, and from the settings otherwise.
-/

namespace Shortlink.Log

/-- How entries are laid out. -/
inductive Format
  | json
  | text
  deriving DecidableEq, Repr

/-- A format as it is shown for inspection. -/
def Format.inspect : Format → String
  | .json => "Json"
  | .text => "Text"

/-- The settings of a logger. -/
structure Settings where
  /-- How entries are laid out. -/
  format : Format := .json
  /-- The directives of the filter. -/
  level : String := "info"
  /-- Whether text is coloured. -/
  colours : Bool := true
  deriving DecidableEq, Repr

/-- Settings as they are shown for inspection. -/
def Settings.inspect (settings : Settings) : String :=
  "TelemetryConfig \x7b format: " ++ settings.format.inspect ++ ", level: " ++
    Text.quote settings.level ++ ", ansi: " ++ toString settings.colours ++ " \x7d"

/-- Why there is no logger. -/
inductive SetupError
  | invalidFilter (directives : String) (error : DirectiveError)
  /-- A part of the directives would begin or end within a character. -/
  | broken (fault : Text.CutFault)
  /-- There is one already. -/
  | installed
  deriving DecidableEq, Repr

namespace SetupError

/-- The wording of a failure. -/
def message : SetupError → String
  | .invalidFilter directives error =>
      "invalid log filter '" ++ directives ++ "': " ++ error.message
  | .broken fault => fault.message
  | .installed =>
      "failed to install tracing subscriber: a global default trace dispatcher has already been set"

/-- The wordings of what a failure comes from. -/
def causes : SetupError → List String
  | .invalidFilter _ error => error.causes
  | .broken _ | .installed => []

end SetupError

/-- Reads the filter that the settings of a logger ask for. -/
def Settings.ownFilter (settings : Settings) : Except SetupError Filter :=
  match Filter.parse settings.level with
  | .ok filter => .ok filter
  | .error (.refused error) => .error (.invalidFilter settings.level error)
  | .error (.broken fault) => .error (.broken fault)

/-- The filter of a logger, given the directives in the environment. -/
def Settings.filter (settings : Settings) (environment? : Option String) :
    Except SetupError Filter :=
  match environment?.map Filter.parse with
  | some (.ok filter) => .ok filter
  | some (.error (.broken fault)) => .error (.broken fault)
  | some (.error (.refused _)) | none => settings.ownFilter

structure Logger where
  filter : Filter
  format : Format
  colours : Bool

/-- Sets up the logger, unless there is one already. -/
def Settings.install (settings : Settings) (environment? : Option String)
    (installed? : Option Logger) : Except SetupError Logger := do
  let filter ← settings.filter environment?
  if installed?.isSome then throw .installed
  return { filter, format := settings.format, colours := settings.colours }

namespace Logger

/-- What a logger tells of an entry that it lets through.  The request is left out if the
filter does not let it be told of. -/
def shown (logger : Logger) (entry : Entry) : Entry :=
  if logger.filter.showsRequests then entry else { entry with span? := none }

/-- What a logger writes for an entry that it lets through. -/
def line (logger : Logger) (moment : Moment) (entry : Entry) : String :=
  match logger.format with
  | .json => (logger.shown entry).json moment
  | .text => (logger.shown entry).text logger.colours moment

/-- What a logger writes. -/
def lines (logger : Logger) (moment : Moment) (entries : List Entry) : List String :=
  (entries.filter logger.filter.lets).map (logger.line moment)

/-- What a logger puts out: all that it writes, each with the end of a line after it. -/
def output (logger : Logger) (moment : Moment) (entries : List Entry) : String :=
  String.join ((logger.lines moment entries).map (· ++ "\n"))

end Logger

end Shortlink.Log
