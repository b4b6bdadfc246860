import Shortlink.Log.Logger
import Shortlink.Net.Address

/-!
# What can be set

Five settings can be given on the command line or in the environment.  All but the
port have a value even if neither gives one.
-/

namespace Shortlink.CommandLine

inductive Setting
  | port
  | host
  /-- How many seconds a request may take. -/
  | requestTimeout
  | logFormat
  /-- The filter of the log. -/
  | logLevel
  deriving DecidableEq, Repr

namespace Setting

/-- All settings in their usual order. -/
def all : List Setting := [.port, .host, .requestTimeout, .logFormat, .logLevel]

/-- The name of a setting. -/
def name : Setting → String
  | .port => "port"
  | .host => "host"
  | .requestTimeout => "request-timeout-secs"
  | .logFormat => "log-format"
  | .logLevel => "log-level"

/-- What the value of a setting is called. -/
def valueName : Setting → String
  | .port => "PORT"
  | .host => "HOST"
  | .requestTimeout => "REQUEST_TIMEOUT_SECS"
  | .logFormat => "LOG_FORMAT"
  | .logLevel => "LOG_LEVEL"

/-- The variable of the environment that gives a setting. -/
def variableName : Setting → String
  | .port => "PORTAL_GATEWAY_PORT"
  | .host => "PORTAL_GATEWAY_HOST"
  | .requestTimeout => "PORTAL_GATEWAY_REQUEST_TIMEOUT_SECS"
  | .logFormat => "PORTAL_LOG_FORMAT"
  | .logLevel => "PORTAL_LOG_LEVEL"

/-- The value of a setting that nothing gives. -/
def default? : Setting → Option String
  | .port => none
  | .host => some "0.0.0.0"
  | .requestTimeout => some "15"
  | .logFormat => some "json"
  | .logLevel => some "info"

/-- What there is to say about a setting. -/
def description : Setting → String
  | .port => "TCP port to listen on (1-65535)"
  | .requestTimeout => "Seconds a request may run before it is answered with 408"
  | .logLevel => "Log filter directive, e.g. `info` or `portal_gateway=debug,info`"
  | .host | .logFormat => ""

/-- The values of a setting, if these can be listed. -/
def possibleValues : Setting → List String
  | .logFormat => ["json", "text"]
  | .port | .host | .requestTimeout | .logLevel => []

end Setting

/-- What can be asked for on the command line. -/
inductive Flag
  | setting (setting : Setting)
  | help
  deriving DecidableEq, Repr

namespace Flag

/-- All flags in their usual order. -/
def all : List Flag := Setting.all.map .setting ++ [.help]

/-- The name of a flag. -/
def name : Flag → String
  | .setting subject => subject.name
  | .help => "help"

/-- The flag of a name. -/
def ofName? (name : String) : Option Flag :=
  all.find? fun flag => flag.name = name

/-- The letter of a flag, if it has one. -/
def letter? : Flag → Option Char
  | .setting .port => some 'p'
  | .help => some 'h'
  | .setting _ => none

/-- The flag of a single letter. -/
def ofLetter? (letter : Char) : Option Flag :=
  all.find? fun flag => flag.letter? = some letter

/-- A flag as it is used. -/
def usage : Flag → String
  | .setting subject => "--" ++ subject.name ++ " <" ++ subject.valueName ++ ">"
  | .help => "--help"

end Flag

structure Settings where
  port : UInt16
  host : Net.Address
  /-- How many seconds a request may take. -/
  requestTimeout : UInt64
  logFormat : Log.Format
  logLevel : String
  deriving DecidableEq, Repr

namespace Settings

/-- The name of a format, as it is given. -/
def formatName : Log.Format → String
  | .json => "json"
  | .text => "text"

/-- Settings as they are shown for inspection. -/
def inspect (settings : Settings) : String :=
  "CLI \x7b port: " ++ toString settings.port.toNat ++ ", host: " ++ settings.host.text ++
    ", request_timeout_secs: " ++ toString settings.requestTimeout.toNat ++
    ", log_format: " ++ settings.logFormat.inspect ++ ", log_level: " ++
    Text.quote settings.logLevel ++ " \x7d"

end Settings

/-- The value of each variable of the environment that is set. -/
abbrev Environment := String → Option String

end Shortlink.CommandLine
