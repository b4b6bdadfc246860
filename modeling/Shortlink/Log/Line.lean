import Shortlink.Json.Writer
import Shortlink.Log.Event

/-!
# Lines

An entry of the log is laid out as a document on one line, or as text that may be
coloured.  Texts in a document are escaped.  In text they stand as they are, so
that a text of several lines takes up several lines.
-/

namespace Shortlink.Log

/-- What the clocks show when a line is written. -/
structure Moment where
  time : String
  /-- The milliseconds that have passed since whatever the event counts from. -/
  elapsed : String

/-- A number of milliseconds with its unit. -/
def Moment.elapsedText (moment : Moment) : String :=
  moment.elapsed ++ " ms"

/-- A value in a document. -/
def Value.json (moment : Moment) : Value → String
  | .plain text | .quoted text => Json.string text
  | .natural number => Json.natural number
  | .elapsed => Json.string moment.elapsedText

/-- A value in text. -/
def Value.text (moment : Moment) : Value → String
  | .plain text => text
  | .quoted text => Text.quote text
  | .natural number => toString number
  | .elapsed => moment.elapsedText

/-- A request in a document. -/
def Span.json (span : Span) : String :=
  Json.object ((span.fields ++ [("name", Span.name)]).map fun (name, value) =>
    (name, Json.string value))

/-- The fields of an event in a document, the message first. -/
def Event.jsonFields (event : Event) (moment : Moment) : String :=
  Json.object (("message", Json.string event.message) ::
    event.fields.map fun (name, value) => (name, value.json moment))

/-- An entry as a document. -/
def Entry.json (entry : Entry) (moment : Moment) : String :=
  let event := entry.event
  Json.object ([("timestamp", Json.string moment.time), ("level", Json.string event.level.name),
      ("fields", event.jsonFields moment), ("target", Json.string event.target)] ++
    (entry.span?.map fun span => ("spans", Json.list [span.json])).toList)

/-- How a piece of text looks. -/
inductive Style
  | bold
  | dim
  | italic
  /-- In the colour of a level. -/
  | level (level : Level)
  deriving DecidableEq, Repr

/-- The number that tells a terminal of a style. -/
def Style.code : Style → String
  | .bold => "1"
  | .dim => "2"
  | .italic => "3"
  | .level .error => "31"
  | .level .warn => "33"
  | .level .info => "32"
  | .level .debug => "34"
  | .level .trace => "35"

/-- Text in a style, if there are colours at all. -/
def Style.paint (colours : Bool) (style : Style) (text : String) : String :=
  if colours then "\x1b[" ++ style.code ++ "m" ++ text ++ "\x1b[0m" else text

/-- The name of a level, five characters wide. -/
def Level.paddedName (level : Level) : String :=
  String.ofList (List.replicate (5 - level.name.length) ' ') ++ level.name

/-- A name and a value in text. -/
def fieldText (colours : Bool) (name value : String) : String :=
  Style.italic.paint colours name ++ Style.dim.paint colours "=" ++ value

/-- A request in text. -/
def Span.text (span : Span) (colours : Bool) : String :=
  Style.bold.paint colours Span.name ++ Style.bold.paint colours "\x7b" ++
    " ".intercalate (span.fields.map fun (name, value) => fieldText colours name value) ++
    Style.bold.paint colours "\x7d" ++ Style.dim.paint colours ":" ++ " "

/-- What an event says, in text, the message first. -/
def Event.text (event : Event) (colours : Bool) (moment : Moment) : String :=
  " ".intercalate (event.message ::
    event.fields.map fun (name, value) => fieldText colours name (value.text moment))

/-- An entry as text. -/
def Entry.text (entry : Entry) (colours : Bool) (moment : Moment) : String :=
  let event := entry.event
  Style.dim.paint colours moment.time ++ " " ++
    (Style.level event.level).paint colours event.level.paddedName ++ " " ++
    (entry.span?.map fun span => span.text colours).getD "" ++
    Style.dim.paint colours event.target ++ Style.dim.paint colours ":" ++ " " ++
    event.text colours moment

end Shortlink.Log
