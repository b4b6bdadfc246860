import Shortlink.Log.Logger
import Shortlink.Proofs.Json.Documents
import Shortlink.Proofs.Text.Lines

/-!
# What lines hold

A line of documents is one document that holds all that an entry has to tell.  A line of text
ends where the entry ends, unless a text that is shown as it is has lines of its own.
-/

namespace Shortlink.Log

open Json (Data IsDocumentOf)
open Text (breaks)

variable {moment : Moment}

/-! ## Documents -/

/-- What a value is in a document. -/
def Value.data (moment : Moment) : Value → Data
  | .plain text | .quoted text => .text text
  | .natural number => .natural number
  | .elapsed => .text moment.elapsedText

/-- What a document has to tell of a request. -/
def Span.data (span : Span) : Data :=
  .object ((span.fields ++ [("name", Span.name)]).map fun field => (field.1, .text field.2))

/-- What a document has to tell of an event, the message first. -/
def Event.data (event : Event) (moment : Moment) : Data :=
  .object (("message", .text event.message) ::
    event.fields.map fun field => (field.1, field.2.data moment))

/-- What a document has to tell of an entry. -/
def Entry.data (entry : Entry) (moment : Moment) : Data :=
  .object ([("timestamp", .text moment.time), ("level", .text entry.event.level.name),
      ("fields", entry.event.data moment), ("target", .text entry.event.target)] ++
    (entry.span?.map fun span => ("spans", .list [span.data])).toList)

theorem Value.isDocumentOf_json (value : Value) (moment : Moment) :
    IsDocumentOf (Utf8.ofString (value.json moment)) (value.data moment) := by
  cases value with
  | plain text => exact Json.isDocumentOf_string text
  | quoted text => exact Json.isDocumentOf_string text
  | natural number => exact .natural number
  | elapsed => exact Json.isDocumentOf_string _

theorem Span.isDocumentOf_json (span : Span) :
    IsDocumentOf (Utf8.ofString span.json) span.data :=
  Json.isDocumentOf_object fun field _ => Json.isDocumentOf_string field.2

theorem Event.isDocumentOf_jsonFields (event : Event) (moment : Moment) :
    IsDocumentOf (Utf8.ofString (event.jsonFields moment)) (event.data moment) :=
  @Json.isDocumentOf_object Field (("message", .quoted event.message) :: event.fields) Prod.fst
    (fun field => field.2.json moment) (fun field => field.2.data moment)
    fun field _ => field.2.isDocumentOf_json moment

/-- An entry that is written as a document is one, and tells all that the entry has to tell. -/
theorem Entry.isDocumentOf_json (entry : Entry) (moment : Moment) :
    IsDocumentOf (Utf8.ofString (entry.json moment)) (entry.data moment) := by
  obtain ⟨span?, event⟩ := entry
  let always : List (String × String × Data) :=
    [("timestamp", Json.string moment.time, .text moment.time),
      ("level", Json.string event.level.name, .text event.level.name),
      ("fields", event.jsonFields moment, event.data moment),
      ("target", Json.string event.target, .text event.target)]
  have each : ∀ member ∈ always, IsDocumentOf (Utf8.ofString member.2.1) member.2.2 := by
    refine List.forall_mem_cons.mpr ⟨Json.isDocumentOf_string moment.time, ?_⟩
    refine List.forall_mem_cons.mpr ⟨Json.isDocumentOf_string event.level.name, ?_⟩
    refine List.forall_mem_cons.mpr ⟨event.isDocumentOf_jsonFields moment, ?_⟩
    exact List.forall_mem_singleton.mpr (Json.isDocumentOf_string event.target)
  have isObject (members : List (String × String × Data))
      (all : ∀ member ∈ members, IsDocumentOf (Utf8.ofString member.2.1) member.2.2) :=
    @Json.isDocumentOf_object (String × String × Data) members (·.1) (·.2.1) (·.2.2) all
  cases span? with
  | none => exact isObject always each
  | some span =>
      let spans : String × String × Data := ("spans", Json.list [span.json], .list [span.data])
      have isSpans : IsDocumentOf (Utf8.ofString spans.2.1) spans.2.2 :=
        @Json.isDocumentOf_list _ [span] Span.json Span.data fun span _ => span.isDocumentOf_json
      exact isObject (always ++ [spans])
        (List.forall_mem_append.mpr ⟨each, List.forall_mem_singleton.mpr isSpans⟩)

theorem Value.breaks_json (value : Value) (moment : Moment) : breaks (value.json moment) = 0 := by
  cases value with
  | plain text => exact Json.breaks_string text
  | quoted text => exact Json.breaks_string text
  | natural number => exact Text.breaks_toString number
  | elapsed => exact Json.breaks_string _

theorem Span.breaks_json (span : Span) : breaks span.json = 0 :=
  Json.breaks_object (List.forall_mem_map.mpr fun field _ => Json.breaks_string field.2)

theorem Event.breaks_jsonFields (event : Event) (moment : Moment) :
    breaks (event.jsonFields moment) = 0 :=
  Json.breaks_object (List.forall_mem_cons.mpr ⟨Json.breaks_string event.message,
    List.forall_mem_map.mpr fun field _ => field.2.breaks_json moment⟩)

theorem Entry.breaks_json (entry : Entry) (moment : Moment) : breaks (entry.json moment) = 0 := by
  refine Json.breaks_object ?_
  intro member isMember
  rcases List.mem_append.mp isMember with fixed | more
  · simp only [List.mem_cons, List.not_mem_nil, or_false] at fixed
    rcases fixed with rfl | rfl | rfl | rfl
    · exact Json.breaks_string moment.time
    · exact Json.breaks_string entry.event.level.name
    · exact entry.event.breaks_jsonFields moment
    · exact Json.breaks_string entry.event.target
  · obtain ⟨span, -, rfl⟩ := Option.map_eq_some_iff.mp (Option.mem_toList.mp more)
    exact Json.breaks_list (List.forall_mem_singleton.mpr span.breaks_json)

/-! ## Texts -/

/-- The texts of a value that are shown as they are. -/
def Value.rawTexts (moment : Moment) : Value → List String
  | .plain text => [text]
  | .quoted _ | .natural _ => []
  | .elapsed => [moment.elapsedText]

/-- The texts of an entry that are shown as they are: the time, what there is to tell of the
request, and plain values. -/
def Entry.rawTexts (entry : Entry) (moment : Moment) : List String :=
  moment.time :: entry.span?.elim [] (fun span => span.fields.map Prod.snd) ++
    entry.event.fields.flatMap fun field => field.2.rawTexts moment

theorem Value.breaks_text (value : Value) (moment : Moment) :
    breaks (value.text moment) = breaks (String.join (value.rawTexts moment)) := by
  cases value with
  | plain text => exact congrArg breaks (Text.join_singleton text).symm
  | quoted text => exact Text.breaks_quote text
  | natural number => exact Text.breaks_toString number
  | elapsed => exact congrArg breaks (Text.join_singleton moment.elapsedText).symm

theorem breaks_code (style : Style) : breaks style.code = 0 := by
  cases style with
  | level level => cases level <;> decide
  | _ => decide

@[simp]
theorem breaks_paint (style : Style) (colours : Bool) (text : String) :
    breaks (style.paint colours text) = breaks text := by
  cases colours with
  | false => rfl
  | true =>
      have around : breaks "\x1b[" = 0 ∧ breaks "m" = 0 ∧ breaks "\x1b[0m" = 0 := by decide
      simp only [Style.paint, if_true, Text.breaks_append, around, breaks_code, Nat.zero_add,
        Nat.add_zero]

theorem breaks_message (event : Event) : breaks event.message = 0 := by
  cases event with
  | awaiting connections =>
      rw [Event.message, Text.breaks_append, Text.breaks_append, Text.breaks_toString]
      decide
  | _ => exact Text.breaks_eq_zero (by simp [Event.message])

theorem breaks_target (event : Event) : breaks event.target = 0 :=
  Text.breaks_eq_zero (by cases event <;> simp [Event.target])

theorem breaks_paddedName (level : Level) : breaks level.paddedName = 0 := by
  cases level <;> decide

theorem breaks_fieldName {event : Event} {field : Field} (member : field ∈ event.fields) :
    breaks field.1 = 0 := by
  apply Text.breaks_eq_zero
  revert field
  cases event <;> simp [Event.fields]

@[simp]
theorem breaks_fieldText (colours : Bool) (name value : String) :
    breaks (fieldText colours name value) = breaks name + breaks value := by
  have sign : breaks "=" = 0 := by decide
  simp only [fieldText, Text.breaks_append, breaks_paint, sign, Nat.add_zero]

theorem Span.breaks_text (span : Span) (colours : Bool) :
    breaks (span.text colours) = breaks (String.join (span.fields.map Prod.snd)) := by
  have names : breaks "method" = 0 ∧ breaks "uri" = 0 ∧ breaks "version" = 0 := by decide
  have marks : breaks Span.name = 0 ∧ breaks "\x7b" = 0 ∧ breaks "\x7d" = 0 ∧ breaks ":" = 0 ∧
    breaks " " = 0 := by decide
  simp only [Span.text, Span.fields, Text.breaks_append, breaks_paint, marks,
    Text.breaks_intercalate, String.join_cons, String.join_nil, List.map_cons, List.map_nil,
    breaks_fieldText, names, Nat.zero_add, Nat.add_zero]

theorem Event.breaks_text (event : Event) (colours : Bool) (moment : Moment) :
    breaks (event.text colours moment) =
      breaks (String.join (event.fields.flatMap fun field => field.2.rawTexts moment)) := by
  rw [Event.text, Text.breaks_intercalate (by decide), String.join_cons, Text.breaks_append,
    breaks_message, Nat.zero_add]
  refine Text.breaks_join_map fun field member => ?_
  rw [breaks_fieldText, breaks_fieldName member, Nat.zero_add, field.2.breaks_text]

/-- What is written of an entry as text has as many ends of lines as the texts that it shows as
they are. -/
theorem Entry.breaks_text (entry : Entry) (colours : Bool) (moment : Moment) :
    breaks (entry.text colours moment) = breaks (String.join (entry.rawTexts moment)) := by
  have marks : breaks ":" = 0 ∧ breaks " " = 0 := by decide
  have request : breaks ((entry.span?.map fun span => span.text colours).getD "") =
      breaks (String.join (entry.span?.elim [] fun span => span.fields.map Prod.snd)) := by
    cases entry.span? with
    | none => rfl
    | some span => exact span.breaks_text colours
  simp only [Entry.text, Entry.rawTexts, Text.breaks_append, String.join_append, String.join_cons,
    breaks_paint, request, Event.breaks_text, breaks_paddedName, breaks_target, marks,
    Nat.add_zero]

/-! ## Loggers -/

namespace Logger

variable {logger : Logger}

/-- What a logger puts out for entries, each of which comes with the moment at which it is
written. -/
def transcript (logger : Logger) (timed : List (Moment × Entry)) : String :=
  String.join (timed.map fun written => logger.output written.1 [written.2])

/-- The entries that a logger lets through, with their moments. -/
def enabled (logger : Logger) (timed : List (Moment × Entry)) : List (Moment × Entry) :=
  timed.filter fun written => logger.filter.lets written.2

theorem output_singleton (logger : Logger) (moment : Moment) (entry : Entry) :
    logger.output moment [entry] =
      if logger.filter.lets entry then logger.line moment entry ++ "\n" else "" := by
  by_cases passes : logger.filter.lets entry
  · rw [if_pos passes, output, lines, List.filter_cons_of_pos passes, List.filter_nil,
      List.map_singleton, List.map_singleton, String.join_cons]
    exact String.append_empty
  · rw [if_neg passes, output, lines, List.filter_cons_of_neg passes]
    rfl

/-- A logger writes once for each entry that it lets through. -/
theorem transcript_eq (logger : Logger) (timed : List (Moment × Entry)) :
    logger.transcript timed =
      String.join (((logger.enabled timed).map fun written =>
        logger.line written.1 written.2).map (· ++ "\n")) := by
  induction timed with
  | nil => rfl
  | cons first rest ih =>
      rw [transcript, List.map_cons, String.join_cons, ← transcript, ih, output_singleton, enabled,
        enabled, List.filter_cons]
      split
      · rw [List.map_cons, List.map_cons, String.join_cons]
      · exact String.empty_append

/-- In documents there is one line for each entry that is let through, and this line is one
document that tells all that the entry has to tell, and nothing else. -/
theorem lines_transcript_json (json : logger.format = .json) (timed : List (Moment × Entry)) :
    Text.lines (logger.transcript timed) =
        (logger.enabled timed).map (fun written => logger.line written.1 written.2) ∧
      ∀ moment entry data, IsDocumentOf (Utf8.ofString (logger.line moment entry)) data ↔
        data = (logger.shown entry).data moment := by
  have line (moment : Moment) (entry : Entry) :
      logger.line moment entry = (logger.shown entry).json moment := by
    rw [Logger.line, json]
  constructor
  · rw [transcript_eq]
    refine Text.lines_join (List.forall_mem_map.mpr fun written _ => ?_)
    rw [line]
    exact Entry.breaks_json _ _
  · intro moment entry
    rw [line]
    exact (Entry.isDocumentOf_json _ _).iff_eq

/-- In text there is one line for each entry that is let through, and one more for each end of a
line in the texts that are shown as they are. -/
theorem length_lines_transcript_text (text : logger.format = .text)
    (timed : List (Moment × Entry)) :
    (Text.lines (logger.transcript timed)).length =
      (logger.enabled timed).length + breaks (String.join ((logger.enabled timed).flatMap
        fun written => (logger.shown written.2).rawTexts written.1)) := by
  rw [Text.length_lines, transcript_eq]
  induction logger.enabled timed with
  | nil => rfl
  | cons first rest ih =>
      have line : logger.line first.1 first.2 =
          (logger.shown first.2).text logger.colours first.1 := by
        rw [Logger.line, text]
      have ending : breaks "\n" = 1 := by decide
      rw [List.map_cons, List.map_cons, String.join_cons, Text.breaks_append, ih, line,
        Text.breaks_append, Entry.breaks_text, ending, List.flatMap_cons, String.join_append,
        Text.breaks_append, List.length_cons]
      omega

end Logger

end Shortlink.Log
