import Shortlink.Decimal.Plain
import Shortlink.Log.Level
import Shortlink.Pattern
import Shortlink.Text.Alphanumeric
import Shortlink.Text.Blank
import Shortlink.Text.Cut
import Shortlink.Text.Split

/-!
# Filter directives

A directive sets a threshold for the events under a target, or within a span, or
with a field.  It is written as `target[span{field=value}]=threshold`, any part of which
may be missing; a word alone is a threshold if it can be one, and else a
target of which everything is let through.
-/

namespace Shortlink.Log

/-- What the value of a field is compared with. -/
inductive ValuePattern
  | truth (value : Bool)
  /-- A floating-point number, by its bits. -/
  | float (bits : UInt64)
  | natural (value : UInt64)
  | integer (value : Int)
  | notNumber
  | text (pattern : Pattern)
  deriving DecidableEq, Repr

namespace ValuePattern

/-- What a text is taken for. -/
def ofText (text : String) : Except Pattern.Error ValuePattern :=
  if text = "true" then .ok (.truth true)
  else if text = "false" then .ok (.truth false)
  else match Decimal.readUnsigned text with
  | .ok value => .ok (.natural value)
  | .error _ =>
      match Decimal.readSigned text with
      | .ok value => .ok (.integer value)
      | .error _ =>
          match Decimal.readFloat? text with
          | some value => .ok (if value.isNaN then .notNumber else .float value.toBits)
          | none => (Pattern.ofText text).map .text

/-- A pattern as it is written. -/
def written : ValuePattern → String
  | .truth value => toString value
  | .float bits => Decimal.showPlain (Float.ofBits bits)
  | .natural value => toString value.toNat
  | .integer value => toString value
  | .notNumber => "NaN"
  | .text pattern => pattern.source

/-- The place of the kind of a pattern in the order of patterns. -/
def rank : ValuePattern → Nat
  | .truth _ => 0
  | .float _ => 1
  | .notNumber => 2
  | .natural _ => 3
  | .integer _ => 4
  | .text _ => 5

/-- Whether a text is what the pattern asks for. -/
def accepts (pattern : ValuePattern) (value : String) : Bool :=
  match pattern with
  | .text expected => expected.endsWith value
  | _ => false

end ValuePattern

/-- A field that a directive asks for, perhaps with a value. -/
structure FieldPattern where
  name : String
  /-- What its value is compared with. -/
  value? : Option ValuePattern := none
  deriving DecidableEq, Repr

/-- A field as it is written. -/
def FieldPattern.written (field : FieldPattern) : String :=
  field.name ++ field.value?.elim "" fun value => "=" ++ value.written

structure Directive where
  /-- What the target of an event or a span starts with. -/
  target? : Option String := none
  span? : Option String := none
  field? : Option FieldPattern := none
  /-- What is let through. -/
  threshold : Threshold := .upTo .trace
  deriving DecidableEq, Repr

/-- Why a text is no directive. -/
inductive DirectiveError
  /-- It does not have the form of one. -/
  | form
  /-- What should be a threshold is none. -/
  | threshold
  /-- What the value of a field should be compared with is no pattern. -/
  | field (error : Pattern.Error)
  deriving DecidableEq, Repr

namespace DirectiveError

/-- The wording of a failure. -/
def message : DirectiveError → String
  | .form => "invalid filter directive"
  | .threshold =>
      "error parsing level filter: expected one of \"off\", \"error\", \"warn\", \"info\", " ++
        "\"debug\", \"trace\", or a number 0-5"
  | .field error => "invalid field filter: " ++ error.message

/-- The wordings of a failure and of what it comes from.  That a threshold cannot be
read comes from the failure to read it, which is worded in the same way. -/
def causes (error : DirectiveError) : List String :=
  error.message :: match error with
    | .form => []
    | .threshold => [error.message]
    | .field error => error.causes

end DirectiveError

/-- Why no directive could be read. -/
inductive DirectiveFailure
  /-- The text is none. -/
  | refused (error : DirectiveError)
  /-- A part of the text would begin or end within a character. -/
  | broken (fault : Text.CutFault)
  deriving DecidableEq, Repr

/-- All thresholds, each at the place that is its number. -/
def thresholds : List Threshold :=
  [.off, .upTo .error, .upTo .warn, .upTo .info, .upTo .debug, .upTo .trace]

/-- Reads a threshold: its number, or its name in letters of either case. -/
def Threshold.parse? (text : String) : Option Threshold :=
  match Decimal.readUnsigned text with
  | .ok number => thresholds[number.toNat]?
  | .error _ =>
      thresholds.find? fun threshold =>
        threshold.name = String.ofList (text.toList.map Char.toLower)

namespace Directive

/-- What a directive is about, in brackets. -/
def writtenScope (span? : Option String) (field? : Option String) : String :=
  if span?.isNone && field?.isNone then ""
  else "[" ++ span?.getD "" ++ field?.elim "" (fun field => "\x7b" ++ field ++ "\x7d") ++ "]"

/-- A threshold with what it is for. -/
def writtenFor (subject : String) (named : Bool) (threshold : Threshold) : String :=
  subject ++ (if named then "=" else "") ++ threshold.name

/-- A directive as it is written. -/
def written (directive : Directive) : String :=
  let scope := writtenScope directive.span? (directive.field?.map FieldPattern.written)
  writtenFor (directive.target?.getD "" ++ scope)
    (directive.target?.isSome || scope != "") directive.threshold

/-- What is being read, and where it has started. -/
inductive State
  | start
  /-- A threshold or a target. -/
  | word (first : Nat)
  | span (first : Nat)
  | field (first : Nat)
  /-- What follows the field. -/
  | fieldEnd
  /-- What follows the brackets. -/
  | scopeEnd
  | threshold (first : Nat)

/-- Refuses to read a text. -/
def refuse {α : Type} (error : DirectiveError) : Except DirectiveFailure α :=
  .error (.refused error)

/-- The part of a text between two places in bytes. -/
def cut (text : String) (start stop : Nat) : Except DirectiveFailure String :=
  (Text.cut text start stop).mapError .broken

def fieldOf (text : String) : Except DirectiveFailure FieldPattern :=
  match Text.split '=' text.toList with
  | name :: value :: _ =>
      match ValuePattern.ofText (String.ofList value) with
      | .ok value => .ok { name := String.ofList name, value? := some value }
      | .error error => refuse (.field error)
  | _ => if text.isEmpty then refuse .form else .ok { name := text }

/-- Whether a directive may start with a character. -/
def mayStart (character : Char) : Bool :=
  character = '-' || character = ':' || character = '_' || Text.isAlphanumeric character

/-- Takes the character at `place`, out of the directive that is `text`. -/
def State.take (text : String) (read : Directive) (place : Nat) (character : Char) :
    State → Except DirectiveFailure (State × Directive)
  | .start =>
      if character = '[' then .ok (.span (place + 1), read)
      else if mayStart character then .ok (.word place, read)
      else refuse .form
  | .word first =>
      if character = '=' then do
        return (.threshold (place + 1), { read with target? := some (← cut text first place) })
      else if character = '[' then do
        return (.span (place + 1), { read with target? := some (← cut text first place) })
      else .ok (.word first, read)
  | .span first =>
      if character = ']' then do
        return (.scopeEnd, { read with span? := some (← cut text first place) })
      else if character = '\x7b' then do
        let name ← cut text first place
        return (.field (place + 1),
          { read with span? := if name.isEmpty then none else some name })
      else .ok (.span first, read)
  | .field first =>
      if character = '\x7d' then do
        return (.fieldEnd, { read with field? := some (← fieldOf (← cut text first place)) })
      else .ok (.field first, read)
  | .fieldEnd => if character = ']' then .ok (.scopeEnd, read) else refuse .form
  | .scopeEnd => if character = '=' then .ok (.threshold (place + 1), read) else refuse .form
  | .threshold first => .ok (.threshold first, read)

/-- Takes characters one after the other, the first one at `place`. -/
def State.takeAll (text : String) (state : State) (read : Directive) (place : Nat) :
    List Char → Except DirectiveFailure (State × Directive)
  | [] => .ok (state, read)
  | character :: rest => do
      let (state, read) ← state.take text read place character
      state.takeAll text read (place + character.utf8Size) rest

/-- Makes an end where the characters are used up. -/
def State.finish (text : String) (read : Directive) : State → Except DirectiveFailure Directive
  | .word first => do
      let word ← cut text first text.utf8ByteSize
      match Threshold.parse? word with
      | some level => return { read with threshold := level }
      | none => return { read with target? := some word }
  | .threshold first => do
      let word ← cut text first text.utf8ByteSize
      if word.isEmpty then return read
      match Threshold.parse? word with
      | some level => return { read with threshold := level }
      | none => refuse .threshold
  | .scopeEnd => .ok read
  | _ => refuse .form

/-- Reads a directive.  Its form is found without the blanks at its ends, but its
parts are counted off from its very start and reach to its very end. -/
def parse (text : String) : Except DirectiveFailure Directive := do
  let (state, read) ← State.start.takeAll text {} 0 (Text.trim text.toList)
  state.finish text read

end Directive

/-- The pieces of a list of directives: what stands between commas, unless that is
nothing. -/
def directivePieces (text : String) : List String :=
  (Text.split ',' text.toList).filterMap fun piece =>
    if piece.isEmpty then none else some (String.ofList piece)

/-- Reads a list of directives. -/
def readDirectives (text : String) : Except DirectiveFailure (List Directive) :=
  (directivePieces text).mapM Directive.parse

end Shortlink.Log
