import Mathlib.Data.List.Forall2
import Shortlink.Proofs.Log.Filtering
import Shortlink.Proofs.Log.Lines

/-!
# Receipts

The store has the log tell of each URL that it has shortened: that a new code was issued, and
how many there are by then, or that an old one was found.  These receipts can be read from a
log of documents, whatever the URLs are, as long as nothing of the store is held back.
-/

namespace Shortlink

namespace Json.Data

/-- What stands under a name in an object. -/
def member? (name : String) : Data → Option Data
  | .object fields => (fields.find? fun field => field.1 = name).map Prod.snd
  | .text _ | .natural _ | .list _ => none

/-- The text that a document is. -/
def text? : Data → Option String
  | .text content => some content
  | .natural _ | .list _ | .object _ => none

/-- The natural number that a document is. -/
def natural? : Data → Option Nat
  | .natural number => some number
  | .text _ | .list _ | .object _ => none

end Json.Data

namespace Log

open Json (Data IsDocumentOf)

/-- What the log tells of a URL that has been shortened. -/
inductive Receipt
  /-- A new code was issued, and there are `count` codes now. -/
  | allocated (code url : String) (count : Nat)
  /-- An old code was found. -/
  | reused (code url : String)

namespace Receipt

/-- Reads a receipt from a message and the fields that come with it. -/
def ofMessage? (message : String) (fields : Data) : Option Receipt :=
  let text (name : String) : Option String := (fields.member? name).bind Data.text?
  if message = "allocated new short code" then do
    return .allocated (← text "code") (← text "url")
      (← (fields.member? "allocated").bind Data.natural?)
  else if message = "reused existing short code" then do
    return .reused (← text "code") (← text "url")
  else none

/-- The messages of receipts. -/
def messages : List String :=
  ["allocated new short code", "reused existing short code"]

/-- The message of a document. -/
def message? (document : Data) : Option String := do
  let fields ← document.member? "fields"
  (fields.member? "message").bind Data.text?

/-- Reads a receipt from a document. -/
def ofDocument? (document : Data) : Option Receipt := do
  let message ← message? document
  let fields ← document.member? "fields"
  ofMessage? message fields

/-- The receipt that an event is. -/
def ofEvent? : Event → Option Receipt
  | .allocated code url count => some (.allocated code.text url count.toNat)
  | .reused code url => some (.reused code.text url)
  | _ => none

/-- The receipts among entries, in order. -/
def ofEntries (entries : List Entry) : List Receipt :=
  entries.filterMap fun entry => ofEvent? entry.event

/-- The receipts among events, in order. -/
def ofEvents (events : List Event) : List Receipt :=
  events.filterMap ofEvent?

theorem ofEntries_outside (events : List Event) : ofEntries (outside events) = ofEvents events :=
  List.filterMap_map

theorem ofEntries_during (span : Span) (events : List Event) :
    ofEntries (during span events) = ofEvents events :=
  List.filterMap_map

theorem ofEntries_append (first second : List Entry) :
    ofEntries (first ++ second) = ofEntries first ++ ofEntries second :=
  List.filterMap_append

theorem ofEvents_append (first second : List Event) :
    ofEvents (first ++ second) = ofEvents first ++ ofEvents second :=
  List.filterMap_append

/-- Only the store hands out receipts, and it files them under its own target. -/
theorem filed_of_ofEvent? {event : Event} {receipt : Receipt}
    (found : ofEvent? event = some receipt) :
    isStartOf "portal_storage" event.target ∧ event.level = .debug := by
  have filed : isStartOf "portal_storage" "portal_storage::memory" = true := by decide
  cases event with
  | allocated code url count => exact ⟨filed, rfl⟩
  | reused code url => exact ⟨filed, rfl⟩
  | _ => contradiction

/-! ## Reading -/

theorem message_awaiting_ne (connections : Nat) {text : String}
    (other : text.toList.head? ≠ some 'w') : (Event.awaiting connections).message ≠ text := by
  rintro rfl
  apply other
  rw [Event.message, String.toList_append, String.toList_append]
  rfl

/-- A receipt is read from the document of its event, and from no other document. -/
theorem ofDocument?_data (entry : Entry) (moment : Moment) :
    ofDocument? (entry.data moment) = ofEvent? entry.event := by
  obtain ⟨span?, event⟩ := entry
  change ofMessage? event.message (event.data moment) = ofEvent? event
  cases event with
  | awaiting connections =>
      -- The one message that is put together when it is needed.
      rw [ofMessage?, if_neg (message_awaiting_ne connections (by decide)),
        if_neg (message_awaiting_ne connections (by decide))]
      rfl
  | _ => rfl

theorem message?_data (entry : Entry) (moment : Moment) :
    message? (entry.data moment) = some entry.event.message :=
  rfl

/-- What has the message of a receipt is one. -/
theorem isSome_ofEvent?_of_mem {event : Event} (named : event.message ∈ messages) :
    (ofEvent? event).isSome := by
  cases event with
  | allocated code url count => rfl
  | reused code url => rfl
  | awaiting connections =>
      rcases List.mem_pair.mp named with new | old
      · exact absurd new (message_awaiting_ne connections (by decide))
      · exact absurd old (message_awaiting_ne connections (by decide))
  | _ => simp [messages, Event.message] at named

/-- No receipt is held back by a filter that lets through what the store reports. -/
theorem ofEntries_enabled {logger : Logger}
    (enables : logger.filter.EnablesFor .debug "portal_storage")
    (timed : List (Moment × Entry)) :
    ofEntries ((logger.enabled timed).map Prod.snd) = ofEntries (timed.map Prod.snd) := by
  rw [ofEntries, ofEntries, List.filterMap_map, List.filterMap_map, Logger.enabled,
    List.filterMap_filter]
  refine List.filterMap_congr fun written _ => ?_
  cases found : ofEvent? written.2.event with
  | none =>
      simp only [Function.comp_apply, found]
      split <;> rfl
  | some receipt =>
      obtain ⟨filed, level⟩ := filed_of_ofEvent? found
      have passes : logger.filter.lets written.2 := enables written.2 filed (level ▸ Nat.le_refl _)
      rw [if_pos passes]

/-- The receipts of a log of documents are those that were handed out, in the same order, and
every document that has the message of a receipt is one. -/
theorem exists_documents {logger : Logger} (json : logger.format = .json)
    (enables : logger.filter.EnablesFor .debug "portal_storage")
    (timed : List (Moment × Entry)) :
    ∃ documents : List Data,
      List.Forall₂ (fun line document => ∀ data,
        IsDocumentOf (Utf8.ofString line) data ↔ data = document)
        (Text.lines (logger.transcript timed)) documents ∧
      (∀ document ∈ documents, ∀ message ∈ messages, message? document = some message →
        (ofDocument? document).isSome) ∧
      documents.filterMap ofDocument? = ofEntries (timed.map Prod.snd) := by
  obtain ⟨lines, isDocument⟩ := Logger.lines_transcript_json json timed
  refine ⟨(logger.enabled timed).map fun written => (logger.shown written.2).data written.1,
    ?_, List.forall_mem_map.mpr ?_, ?_⟩
  · rw [lines, List.forall₂_map_left_iff, List.forall₂_map_right_iff]
    exact List.forall₂_same.mpr fun written _ => isDocument written.1 written.2
  · intro written _ message named same
    rw [message?_data, Option.some.injEq] at same
    rw [ofDocument?_data]
    exact isSome_ofEvent?_of_mem (same ▸ named)
  · have event (entry : Entry) : (logger.shown entry).event = entry.event := by
      rw [Logger.shown]
      split <;> rfl
    rw [← ofEntries_enabled enables, ofEntries, List.filterMap_map, List.filterMap_map]
    refine List.filterMap_congr fun written _ => ?_
    rw [Function.comp_apply, ofDocument?_data, event]
    rfl

end Receipt

end Log

end Shortlink
