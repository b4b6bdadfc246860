import Shortlink.CommandLine.Parse
import Shortlink.Gateway.Service
import Shortlink.Gateway.Settings
import Shortlink.Store.Memory

/-!
# The program

The program reads its command line, sets up its log, listens, serves one request
after the other, and stops when it is told to.  What it needs from outside is the
environment and a network to listen on.
-/

namespace Shortlink.Program

open Http (Request Response)

/-- Why an address cannot be listened on. -/
structure BindError where
  /-- What the system says. -/
  reason : String
  /-- The number that the system gives it. -/
  number : Nat
  deriving DecidableEq, Repr

namespace BindError

/-- The wording of a failure. -/
def message (error : BindError) : String :=
  error.reason ++ " (os error " ++ toString error.number ++ ")"

/-- Somebody else listens there. -/
def inUse : BindError := ⟨"Address already in use", 98⟩

/-- The address is not one of this machine. -/
def unavailable : BindError := ⟨"Cannot assign requested address", 99⟩

end BindError

/-- What the program finds around it. -/
structure Surroundings where
  /-- The values of the variables of the environment. -/
  environment : CommandLine.Environment
  /-- Why an address cannot be listened on, if so. -/
  bindError? : Net.SocketAddress → Option BindError

/-- The variable of the environment that gives the filter of the log. -/
def filterVariable : String := "RUST_LOG"

/-- What the program leaves behind besides its log. -/
structure Ending where
  exitCode : UInt8 := 0
  /-- What is written to the standard output. -/
  output : String := ""
  /-- What is written to the standard error. -/
  errors : String := ""
  deriving DecidableEq, Repr

/-- A text in which further lines are indented. -/
def hanging (indent text : String) : String :=
  ("\n" ++ indent).intercalate ((Text.split '\n' text.toList).map String.ofList)

/-- The list of causes under an error, numbered if there are several. -/
def causeLines (causes : List String) : List String :=
  match causes with
  | [cause] => ["    " ++ hanging "    " cause]
  | _ => causes.zipIdx.map fun (cause, index) =>
      "    " ++ toString index ++ ": " ++ hanging "       " cause

/-- The report of an error that ends the program. -/
def errorReport (message : String) (causes : List String) : String :=
  "\n".intercalate (["Error: " ++ message] ++
    (if causes.isEmpty then [] else ["", "Caused by:"] ++ causeLines causes)) ++ "\n"

/-- The end of the program after an error. -/
def Ending.ofError (message : String) (causes : List String) : Ending :=
  { exitCode := 1, errors := errorReport message causes }

/-- The end of the program without a log.  Directives that cannot even be taken apart
break it off. -/
def Ending.ofSetupError : Log.SetupError → Ending
  | .broken fault => { exitCode := 101, errors := fault.message ++ "\n" }
  | error => .ofError error.message error.causes

/-- The end of the program after the command line. -/
def Ending.ofStop (environment : CommandLine.Environment) : CommandLine.Stop → Ending
  | .help => { output := CommandLine.helpText .stream environment }
  | .error error => { exitCode := 2, errors := error.report .stream }

/-- The program once it is set up. -/
structure Setup where
  settings : CommandLine.Settings
  logger : Log.Logger

namespace Setup

/-- The settings of the gateway. -/
def gateway (setup : Setup) : Gateway.Settings :=
  { host := setup.settings.host
    port := setup.settings.port
    requestTimeout := setup.settings.requestTimeout }

/-- Where the program listens, as a text. -/
def addressText (setup : Setup) : String :=
  setup.gateway.listenAddress.text

/-- The event of having been set up. -/
def startEvent (setup : Setup) : Log.Event :=
  .starting setup.addressText setup.settings.requestTimeout
    (CommandLine.Settings.formatName setup.settings.logFormat)

/-- The end of the program when it cannot listen. -/
def bindFailure (setup : Setup) (error : BindError) : Ending :=
  .ofError ("failed to bind " ++ setup.addressText) [error.message]

/-- What becomes of one request. -/
def serve (setup : Setup) (store : MemoryStore) (request : Request) :
    Gateway.Reply MemoryStore :=
  Gateway.serve Gateway.gatewaySite setup.gateway.timeoutMilliseconds store request

end Setup

/-- Reads the command line and sets up the log. -/
def prepare (environment : CommandLine.Environment) (arguments : List String) :
    Except Ending Setup := do
  let settings ← (CommandLine.parse environment arguments).mapError (Ending.ofStop environment)
  let logSettings : Log.Settings := { format := settings.logFormat, level := settings.logLevel }
  let logger ← (logSettings.install (environment filterVariable) none).mapError
    Ending.ofSetupError
  return { settings, logger }

/-- A request that reaches the program, on a connection of its own. -/
structure Arrival where
  request : Request
  /-- Its body is sent only once the program has been told to stop. -/
  late : Bool := false

/-- A response as it is sent: with its length, and with a word of warning if the
connection is closed after it. -/
def sent (response : Response) (persistent : Bool) : Response :=
  if persistent then response.withLength
  else response.withLength.withHeader "connection" "close"

/-- What the program has done so far. -/
structure History where
  store : MemoryStore := .empty
  /-- The responses, in the order of the requests; a late one is still missing. -/
  responses : List (Option Response) := []
  /-- What is reported. -/
  entries : List Log.Entry := []

namespace History

/-- Serves the requests that are there in full.  Of a late one, only the start is
reported. -/
def serveAll (setup : Setup) (history : History) : List Arrival → History
  | [] => history
  | arrival :: arrivals =>
      if arrival.late then
        serveAll setup
          { history with
            responses := history.responses ++ [none]
            entries := history.entries ++
              Log.during (Gateway.spanOf arrival.request) [.requestStarted] } arrivals
      else
        let reply := setup.serve history.store arrival.request
        serveAll setup
          { store := reply.store
            responses := history.responses ++ [some (sent reply.response false)]
            entries := history.entries ++ reply.entries } arrivals

/-- Serves the late requests, whose start has been reported. -/
def serveLate (setup : Setup) (history : History) : List Arrival → History
  | [] => history
  | arrival :: arrivals =>
      if arrival.late then
        let reply := setup.serve history.store arrival.request
        serveLate setup
          { store := reply.store
            responses := history.responses ++ [some (sent reply.response false)]
            entries := history.entries ++ reply.entries.tail } arrivals
      else serveLate setup history arrivals

/-- Adds events that belong to no request. -/
def report (history : History) (events : List Log.Event) : History :=
  { history with entries := history.entries ++ Log.outside events }

end History

/-- A run of the program from its start to its end. -/
structure Run where
  /-- The log, if it was ever set up. -/
  logger? : Option Log.Logger := none
  /-- What is reported to the log. -/
  entries : List Log.Entry := []
  /-- The responses, or `none` in the place of a late one, which comes at the end. -/
  responses : List (Option Response) := []
  /-- Whether clients could reach it. -/
  served : Bool := false
  /-- What else is left behind. -/
  ending : Ending := {}

/-- What is reported when the program is told to stop while it still has to do with
some connections. -/
def stopEvents (connections : Nat) : List Log.Event :=
  [.shuttingDown, .stopAnnounced, .notAccepting, .awaiting connections]

/-- Runs the program: it serves the requests and is told to stop after the last one
that is not late. -/
def run (surroundings : Surroundings) (arguments : List String) (arrivals : List Arrival) : Run :=
  match prepare surroundings.environment arguments with
  | .error ending => { ending }
  | .ok setup =>
      match surroundings.bindError? setup.gateway.listenAddress with
      | some error =>
          { logger? := some setup.logger
            entries := Log.outside [setup.startEvent]
            ending := setup.bindFailure error }
      | none =>
          let late := arrivals.countP Arrival.late
          let history := ({} : History).report [setup.startEvent, .listening setup.addressText]
          let history := (history.serveAll setup arrivals).report (stopEvents late)
          let history := (history.serveLate setup arrivals).report [.stopped]
          { logger? := some setup.logger
            entries := history.entries
            responses := history.responses
            served := true }

end Shortlink.Program
