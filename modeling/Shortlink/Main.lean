import Std.Async.Signal
import Std.Async.TCP
import Shortlink.Clock
import Shortlink.Http.Wire
import Shortlink.Program

/-!
# The command line program

The program with a real environment, real clocks and a real network.  Everything
that it decides is decided elsewhere; here are the loops that wait for bytes.
-/

namespace Shortlink.Main

open Std.Async Http

/-- An address in the form that the network takes. -/
def networkAddress (address : Net.SocketAddress) : Std.Net.SocketAddress :=
  match address.host with
  | .v4 host => .v4 ⟨⟨#v[host.first, host.second, host.third, host.fourth]⟩, address.port⟩
  | .v6 host => .v6 ⟨⟨⟨host.groups.toArray, host.length_eq⟩⟩, address.port⟩

/-- The failure to listen that the network reports. -/
def bindError : IO.Error → Program.BindError
  | .resourceBusy .. => .inUse
  | error => { Program.BindError.unavailable with reason := toString error }

/-- What all connections share. -/
structure Shared where
  setup : Program.Setup
  store : IO.Ref MemoryStore
  /-- How many requests have begun and have not been answered. -/
  active : IO.Ref Nat

/-- The seconds and the microseconds of now. -/
def now : IO (Clock.Calendar × Nat) := do
  let nanoseconds := (← Std.Time.Timestamp.now).toNanosecondsSinceUnixEpoch.val.toNat
  return (.ofSeconds (nanoseconds / 1000000000), nanoseconds / 1000 % 1000000)

/-- Writes entries to the log. -/
def log (logger : Log.Logger) (startedAt : Nat) (entries : List Log.Entry) : IO Unit := do
  let (calendar, microseconds) ← now
  let elapsed := (← IO.monoMsNow) - startedAt
  let moment : Log.Moment :=
    { time := calendar.logText microseconds, elapsed := toString elapsed }
  let output ← IO.getStdout
  output.putStr (logger.output moment entries)
  output.flush

/-- Writes events that belong to no request to the log. -/
def logOutside (logger : Log.Logger) (events : List Log.Event) : IO Unit := do
  log logger (← IO.monoMsNow) (Log.outside events)

def send (client : TCP.Socket.Client) (text : String) : Async Unit :=
  client.send text.toUTF8

/-- Sends a response, with the date. -/
def respond (client : TCP.Socket.Client) (response : Response) (persistent : Bool) :
    Async Unit := do
  let (calendar, _) ← now
  send client
    (Wire.write ((Program.sent response persistent).withHeader "date" calendar.headerText))

def answer (shared : Shared) (client : TCP.Socket.Client) (message : Request)
    (persistent : Bool) : Async Unit := do
  let startedAt ← IO.monoMsNow
  let reply ← shared.store.modifyGet fun store =>
    let reply := shared.setup.serve store message
    (reply, reply.store)
  log shared.setup.logger startedAt reply.entries
  respond client reply.response persistent

structure Connection where
  /-- The other end. -/
  client : TCP.Socket.Client
  /-- Whether a request has begun and has not been answered. -/
  busy : IO.Ref Bool

/-- Notes whether a request has begun and has not been answered. -/
def Connection.setBusy (connection : Connection) (shared : Shared) (busy : Bool) : IO Unit := do
  unless (← connection.busy.get) = busy do
    connection.busy.set busy
    shared.active.modify fun count => if busy then count + 1 else count - 1

/-- Answers the requests on a connection, of which `received` has not been read yet.
The client may have been told to go on. -/
partial def converse (shared : Shared) (connection : Connection) (received : List UInt8)
    (toldToGoOn : Bool) : Async Unit := do
  connection.setBusy shared !received.isEmpty
  match Wire.read received with
  | .malformed => respond connection.client { status := 400 } false
  | .request message persistent rest =>
      answer shared connection.client message persistent
      if persistent then converse shared connection rest false
  | .incomplete waiting =>
      if waiting && !toldToGoOn then send connection.client Wire.goOn
      if let some bytes ← connection.client.recv? 65536 then
        converse shared connection (received ++ bytes.toList) (toldToGoOn || waiting)

/-- Holds a conversation and hangs up, whatever happens to the connection. -/
def host (shared : Shared) (client : TCP.Socket.Client) : Async Unit := do
  let connection : Connection := { client, busy := ← IO.mkRef false }
  try
    converse shared connection [] false
    client.shutdown
  catch _ => pure ()
  connection.setBusy shared false

/-- Waits for clients until the program is told to stop. -/
partial def accept (shared : Shared) (server : TCP.Socket.Server)
    (stops : Array (Selectable (Option TCP.Socket.Client))) : Async Unit := do
  let arrival := .case server.acceptSelector fun client => return some client
  match ← Selectable.one (stops.push arrival) with
  | none => return
  | some client =>
      background (host shared client)
      accept shared server stops

/-- Waits until every request that has begun is answered. -/
partial def finish (shared : Shared) : IO Unit := do
  unless (← shared.active.get) = 0 do
    IO.sleep 10
    finish shared

/-- Serves until the program is told to stop. -/
def serve (setup : Program.Setup) (server : TCP.Socket.Server) : IO Unit := do
  let shared : Shared :=
    { setup, store := ← IO.mkRef .empty, active := ← IO.mkRef 0 }
  logOutside setup.logger [.listening setup.addressText]
  let interrupt ← Signal.Waiter.mk .sigint false
  let terminate ← Signal.Waiter.mk .sigterm false
  let stop (waiter : Signal.Waiter) : Selectable (Option TCP.Socket.Client) :=
    .case waiter.selector fun _ => return none
  (accept shared server #[stop interrupt, stop terminate]).block
  logOutside setup.logger (Program.stopEvents (← shared.active.get))
  finish shared
  logOutside setup.logger [.stopped]

/-- Leaves behind what there is to leave behind. -/
def leave (ending : Program.Ending) : IO UInt32 := do
  IO.print ending.output
  IO.eprint ending.errors
  return ending.exitCode.toUInt32

/-- The variables of the environment that the program asks for. -/
def readEnvironment : IO CommandLine.Environment := do
  let names := Program.filterVariable ::
    CommandLine.Setting.all.map CommandLine.Setting.variableName
  let values ← names.filterMapM fun name => do
    return (← IO.getEnv name).map fun value => (name, value)
  return fun name => values.lookup name

def run (arguments : List String) : IO UInt32 := do
  match Program.prepare (← readEnvironment) arguments with
  | .error ending => leave ending
  | .ok setup =>
      logOutside setup.logger [setup.startEvent]
      let server ← TCP.Socket.Server.mk
      match ← (do
        server.bind (networkAddress setup.gateway.listenAddress)
        server.listen 1024 : IO Unit).toBaseIO with
      | .error error => leave (setup.bindFailure (bindError error))
      | .ok _ =>
          serve setup server
          return 0

end Shortlink.Main

def main (arguments : List String) : IO UInt32 :=
  Shortlink.Main.run arguments
