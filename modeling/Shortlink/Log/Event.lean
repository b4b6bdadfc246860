import Shortlink.Log.Level
import Shortlink.ShortCode

/-!
# Events

Everything that the program has to report while it runs.  An event knows its
level, the target it is filed under, its message and its fields; how these are
laid out as a line is the business of the line formats.
-/

namespace Shortlink.Log

/-- The value of a field. -/
inductive Value
  /-- A text that is shown as it is. -/
  | plain (text : String)
  /-- A text that is shown in quotes where texts are quoted at all. -/
  | quoted (text : String)
  | natural (number : Nat)
  /-- A number of milliseconds read from the clock. -/
  | elapsed
  deriving DecidableEq, Repr

/-- A named value. -/
abbrev Field := String × Value

/-- Something that has happened. -/
inductive Event
  /-- The store has issued a code, its `count`th. -/
  | allocated (code : ShortCode) (url : String) (count : UInt64)
  /-- The store has found a URL that already has a code. -/
  | reused (code : ShortCode) (url : String)
  | resolving (key : String)
  | unreadableRequest (error : String)
  | shortened (url : String) (key : ShortCode)
  | keyNotFound (key : String)
  /-- A URL cannot be sent in a header. -/
  | unsendableUrl (key error : String)
  | redirecting (key url : String)
  /-- A request is refused before its handler runs. -/
  | rejecting (status : Nat) (body kind : String)
  | panicRecovered (detail : String)
  | requestStarted
  /-- A response is ready. -/
  | requestFinished (status : Nat)
  /-- The response is a failure of the server. -/
  | requestFailed (classification : String)
  | bodySent
  /-- The program has read its settings. -/
  | starting (address : String) (timeoutSeconds : UInt64) (format : String)
  | listening (address : String)
  /-- The server has been asked to stop. -/
  | shuttingDown
  /-- The connections are told that the server is about to stop. -/
  | stopAnnounced
  /-- The server takes no more connections. -/
  | notAccepting
  /-- The server waits for the connections that are still open. -/
  | awaiting (connections : Nat)
  | stopped
  deriving DecidableEq

namespace Event

/-- How much an event matters. -/
def level : Event → Level
  | .resolving _ | .rejecting .. | .stopAnnounced | .notAccepting | .awaiting _ => .trace
  | .allocated .. | .reused .. | .requestStarted | .bodySent => .debug
  | .shortened .. | .redirecting .. | .requestFinished _ | .starting .. | .listening _
  | .shuttingDown | .stopped => .info
  | .unreadableRequest _ | .keyNotFound _ | .unsendableUrl .. => .warn
  | .panicRecovered _ | .requestFailed _ => .error

/-- What an event is filed under. -/
def target : Event → String
  | .allocated .. | .reused .. | .resolving _ => "portal_storage::memory"
  | .unreadableRequest _ | .shortened .. | .keyNotFound _ | .unsendableUrl .. | .redirecting .. =>
      "portal_gateway::handlers::url"
  | .rejecting .. => "axum::rejection"
  | .panicRecovered _ => "portal_gateway::app"
  | .requestStarted => "tower_http::trace::on_request"
  | .requestFinished _ => "tower_http::trace::on_response"
  | .requestFailed _ => "tower_http::trace::on_failure"
  | .bodySent => "tower_http::trace::on_eos"
  | .starting .. => "gateway"
  | .stopAnnounced | .notAccepting | .awaiting _ => "axum::serve"
  | .listening _ | .shuttingDown | .stopped => "portal_gateway::server"

/-- What an event says. -/
def message : Event → String
  | .allocated .. => "allocated new short code"
  | .reused .. => "reused existing short code"
  | .resolving _ => "resolving short code"
  | .unreadableRequest _ => "failed to parse shorten request"
  | .shortened .. => "shortened url"
  | .keyNotFound _ => "key not found"
  | .unsendableUrl .. => "stored url is not a valid location header"
  | .redirecting .. => "redirecting"
  | .rejecting .. => "rejecting request"
  | .panicRecovered _ => "panic recovered"
  | .requestStarted => "started processing request"
  | .requestFinished _ => "finished processing request"
  | .requestFailed _ => "response failed"
  | .bodySent => "end of stream"
  | .starting .. => "starting portal gateway"
  | .listening _ => "starting gateway server"
  | .shuttingDown => "shutting down gateway server gracefully"
  | .stopAnnounced => "received graceful shutdown signal. Telling tasks to shutdown"
  | .notAccepting => "signal received, not accepting new connections"
  | .awaiting connections => "waiting for " ++ toString connections ++ " task(s) to finish"
  | .stopped => "gateway server stopped"

/-- What an event holds besides its message, in the order of a line. -/
def fields : Event → List Field
  | .allocated code url count =>
      [("code", .plain code.text), ("url", .plain url), ("allocated", .natural count.toNat)]
  | .reused code url => [("code", .plain code.text), ("url", .plain url)]
  | .resolving key => [("code", .plain key)]
  | .unreadableRequest error => [("error", .plain error)]
  | .shortened url key => [("url", .plain url), ("key", .plain key.text)]
  | .keyNotFound key => [("key", .plain key)]
  | .unsendableUrl key error => [("key", .plain key), ("error", .plain error)]
  | .redirecting key url => [("key", .plain key), ("url", .plain url)]
  | .rejecting status body kind =>
      [("status", .natural status), ("body", .quoted body), ("rejection_type", .quoted kind)]
  | .panicRecovered detail => [("panic", .plain detail)]
  | .requestStarted => []
  | .requestFinished status => [("latency", .elapsed), ("status", .natural status)]
  | .requestFailed classification =>
      [("classification", .plain classification), ("latency", .elapsed)]
  | .bodySent => [("stream_duration", .elapsed)]
  | .starting address timeoutSeconds format =>
      [("listen_addr", .plain address), ("request_timeout_secs", .natural timeoutSeconds.toNat),
        ("log_format", .plain format)]
  | .listening address => [("listen_addr", .plain address)]
  | .shuttingDown | .stopAnnounced | .notAccepting | .awaiting _ | .stopped => []

/-- The names of fields that an event could hold but never does. -/
def unusedFieldNames : Event → List String
  | .requestFinished _ => ["response_headers"]
  | .bodySent => ["status"]
  | _ => []

/-- The names of all fields of an event, whether it holds them or not. -/
def fieldNames (event : Event) : List String :=
  "message" :: event.fields.map Prod.fst ++ event.unusedFieldNames

end Event

/-- A request, as the events that happen while it is handled refer to it. -/
structure Span where
  method : String
  /-- The target of the request. -/
  uri : String
  version : String := "HTTP/1.1"
  deriving DecidableEq, Repr

namespace Span

/-- How much it matters that an event belongs to a request. -/
def level : Level := .info

/-- What requests are filed under. -/
def target : String := "tower_http::trace::make_span"

/-- What the events of a request are grouped as. -/
def name : String := "request"

/-- What is told of every request. -/
def fieldNames : List String := ["method", "uri", "version"]

/-- What is told of a request, in the order of a line. -/
def fields (span : Span) : List (String × String) :=
  [("method", span.method), ("uri", span.uri), ("version", span.version)]

end Span

/-- An event, with the request during which it happened, if any. -/
structure Entry where
  span? : Option Span := none
  event : Event
  deriving DecidableEq

/-- Events that happen outside any request. -/
def outside (events : List Event) : List Entry :=
  events.map fun event => { event }

/-- Events that happen during a request. -/
def during (span : Span) (events : List Event) : List Entry :=
  events.map fun event => { span? := some span, event }

end Shortlink.Log
