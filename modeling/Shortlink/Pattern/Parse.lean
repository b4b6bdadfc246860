import Shortlink.Decimal.Plain
import Shortlink.Pattern.Class
import Shortlink.Text.Alphanumeric

/-!
# Reading a pattern

A pattern is read from the left, with the groups and choices that are open around the
place reached, so that groups may be nested as deep as the pattern is long.
-/

namespace Shortlink.Pattern

/-- The parts of a sequence that have been read, the latest one first. -/
structure Parts where
  first : Place
  nodes : List Node := []

namespace Parts

def add (parts : Parts) (node : Node) : Parts :=
  { parts with nodes := node :: parts.nodes }

/-- The parts as a pattern that ends at a place. -/
def toNode (parts : Parts) (last : Place) : Node :=
  match parts.nodes with
  | [] => .empty ⟨parts.first, last⟩
  | [node] => node
  | nodes => .sequence ⟨parts.first, last⟩ nodes.reverse

end Parts

/-- What is open around a place in a pattern. -/
inductive OpenPart
  /-- A group: what stands before it, the span of its parenthesis, its flags, and
  whether the layout around it is loose. -/
  | group (before : Parts) (opening : Span) (settings : FlagSettings) (loose : Bool)
  /-- A choice: where it starts, and its branches so far, the latest one first. -/
  | choice (first : Place) (branches : List Node)

/-- Where reading a pattern has got to. -/
structure ParseState where
  cursor : Cursor
  /-- The parts read since the latest opening or bar. -/
  parts : Parts
  /-- What is open, from the inside out. -/
  opened : List OpenPart := []
  /-- The names of groups, and where they are written. -/
  names : List (String × Span) := []

/-- The flag of a letter. -/
def flagOf? : Char → Option Flag
  | 'i' => some .eitherCase
  | 'm' => some .multiLine
  | 's' => some .dotMatchesAll
  | 'U' => some .lazy
  | 'u' => some .unicode
  | 'R' => some .carriageReturns
  | 'x' => some .looseLayout
  | _ => none

/-- The flags that have been read, the latest one first. -/
structure FlagsRead where
  /-- The flags, where they are written, and whether they are turned on. -/
  flags : List (Flag × Span × Bool) := []
  /-- Where the negation sign is written. -/
  negation? : Option Span := none

/-- The settings that flags amount to. -/
def FlagsRead.settings (read : FlagsRead) : FlagSettings :=
  read.flags.reverse.map fun (flag, _, on) => (flag, on)

/-- Takes one more flag. -/
def FlagsRead.take (read : FlagsRead) (span : Span) (character : Char) :
    Except Fault FlagsRead :=
  if character = '-' then
    match read.negation? with
    | some other => .error { complaint := .flagNegatedTwice, span, other? := some other }
    | none => .ok { read with negation? := some span }
  else match flagOf? character with
  | none => Cursor.fail .flagUnknown span
  | some flag =>
      match read.flags.lookup flag with
      | some (other, _) => .error { complaint := .flagDuplicate, span, other? := some other }
      | none => .ok { read with flags := (flag, span, read.negation?.isNone) :: read.flags }

/-- Reads flags up to a colon or a closing parenthesis, which is given as well. -/
def readFlags (read : FlagsRead) (dangling? : Option Span) (cursor : Cursor) :
    Nat → Except Fault (FlagsRead × Char × Cursor)
  | 0 => Cursor.fail .flagEnd cursor.here
  | fuel + 1 =>
      match cursor.next? with
      | none => Cursor.fail .flagEnd cursor.here
      | some character =>
          if character = ':' || character = ')' then
            match dangling? with
            | some span => Cursor.fail .flagDangling span
            | none => .ok (read, character, cursor.step)
          else do
            let span := cursor.nextSpan
            let read ← read.take span character
            readFlags read (if character = '-' then some span else none) cursor.step fuel

/-- Whether a character may stand in the name of a group. -/
def isNameCharacter (isFirst : Bool) (character : Char) : Bool :=
  if isFirst then character = '_' || Text.isAlphabetic character
  else character = '_' || character = '.' || character = '[' || character = ']' ||
    Text.isAlphanumeric character

/-- Passes over the name of a group, up to the sign after it. -/
def readNameFrom (isFirst : Bool) (cursor : Cursor) : Nat → Except Fault Cursor
  | 0 => Cursor.fail .nameEnd cursor.here
  | fuel + 1 =>
      match cursor.next? with
      | none => Cursor.fail .nameEnd cursor.here
      | some '>' => .ok cursor
      | some character =>
          if isNameCharacter isFirst character then readNameFrom false cursor.step fuel
          else Cursor.fail .nameInvalid cursor.nextSpan

/-- Reads the name of a group and the sign after it. -/
def readName (names : List (String × Span)) (cursor : Cursor) :
    Except Fault (List (String × Span) × Cursor) := do
  let after ← readNameFrom true cursor (cursor.rest.length + 1)
  let name := String.ofList (cursor.rest.take (cursor.rest.length - after.rest.length))
  let span := after.since cursor.place
  if name.isEmpty then Cursor.fail .nameEmpty cursor.here
  else match names.lookup name with
  | some other => .error { complaint := .nameDuplicate, span, other? := some other }
  | none => return ((name, span) :: names, after.step)

/-- Whether the layout is loose under some flags. -/
def looseUnder (settings : FlagSettings) (loose : Bool) : Bool :=
  (settings.lookup .looseLayout).getD loose

/-- The signs of a look ahead or behind. -/
def lookSigns : List String := ["?=", "?!", "?<=", "?<!"]

/-- Opens a group, or takes flags.  The cursor is at the parenthesis. -/
def ParseState.openGroup (state : ParseState) : Except Fault ParseState := do
  let opening := state.cursor.nextSpan
  let inside := state.cursor.step.skipLayout
  let enter (names : List (String × Span)) (settings : FlagSettings) (cursor : Cursor) :
      ParseState :=
    { cursor := { cursor with loose := looseUnder settings cursor.loose }
      parts := { first := cursor.place }
      opened := .group state.parts opening settings state.cursor.loose :: state.opened
      names }
  match lookSigns.findSome? inside.take? with
  | some after => Cursor.fail .lookAround (after.since opening.first)
  | none =>
      match (inside.take? "?P<").or (inside.take? "?<"), inside.take? "?" with
      | some name, _ => do
          let (names, cursor) ← readName state.names name
          return enter names [] cursor
      | none, none => return enter state.names [] inside
      | none, some flags => do
          if flags.atEnd then Cursor.fail .groupUnclosed opening
          let (read, sign, cursor) ← readFlags {} none flags (flags.rest.length + 1)
          if sign = ':' then return enter state.names read.settings cursor
          else if read.flags.isEmpty then Cursor.fail .repetitionMissing inside.here
          else return { state with
            cursor := { cursor with loose := looseUnder read.settings cursor.loose }
            parts := state.parts.add (.flags (cursor.since opening.first) read.settings) }

/-- Closes a group.  The cursor is at the parenthesis. -/
def ParseState.closeGroup (state : ParseState) : Except Fault ParseState :=
  let last := state.cursor.place
  let after := state.cursor.step
  let branch := state.parts.toNode last
  let close (body : Node) (before : Parts) (opening : Span) (settings : FlagSettings)
      (loose : Bool) (opened : List OpenPart) : ParseState :=
    { state with
      cursor := { after with loose }
      parts := before.add (.group (after.since opening.first) settings body)
      opened }
  match state.opened with
  | .group before opening settings loose :: opened =>
      .ok (close branch before opening settings loose opened)
  | .choice first branches :: .group before opening settings loose :: opened =>
      .ok (close (.choice ⟨first, last⟩ (branch :: branches).reverse) before opening settings
        loose opened)
  | _ => Cursor.fail .groupUnopened state.cursor.nextSpan

/-- Ends a branch of a choice.  The cursor is at the bar. -/
def ParseState.endBranch (state : ParseState) : ParseState :=
  let branch := state.parts.toNode state.cursor.place
  let cursor := state.cursor.step
  let opened := match state.opened with
    | .choice first branches :: opened => .choice first (branch :: branches) :: opened
    | opened => .choice state.parts.first [branch] :: opened
  { state with cursor, parts := { first := cursor.place }, opened }

/-- Takes off the latest part, which a sign of repetition refers to. -/
def ParseState.repeated (state : ParseState) : Except Fault (Node × Parts) :=
  match state.parts.nodes with
  | node :: nodes =>
      if node.isRepeatable then .ok (node, { state.parts with nodes })
      else Cursor.fail .repetitionMissing state.cursor.here
  | [] => Cursor.fail .repetitionMissing state.cursor.here

/-- Takes a sign of repetition, and perhaps a question mark that makes it lazy. -/
def ParseState.takeRepetition (state : ParseState) (count : Count) : Except Fault ParseState := do
  let (node, parts) ← state.repeated
  let greedy := state.cursor.step.next? ≠ some '?'
  let cursor := if greedy then state.cursor.step else state.cursor.step.step
  return { state with
    cursor, parts := parts.add (.repetition (cursor.since node.span.first) count greedy node) }

/-- The largest number of a count. -/
def largestCount : Nat := UInt32.size - 1

/-- Reads the digits of a count, and passes over what does not count after each of them. -/
def readCountDigits (cursor : Cursor) : Nat → List Char × Cursor
  | 0 => ([], cursor)
  | fuel + 1 =>
      match cursor.next? with
      | some character =>
          if character.isDigit then
            let (digits, after) := readCountDigits cursor.stepOn fuel
            (character :: digits, after)
          else ([], cursor)
      | none => ([], cursor)

/-- Finds out what is wrong with a repetition in braces, which no pattern closes. -/
def ParseState.refuseCount (state : ParseState) : Except Fault ParseState := do
  let _ ← state.repeated
  let opening := state.cursor.place
  let before := state.cursor.stepOn.skipBlanks
  let (digits, afterDigits) := readCountDigits before before.rest.length
  let after := afterDigits.stepOnAll Text.isBlank
  let span := afterDigits.since before.place
  if after.atEnd then Cursor.fail .countUnclosed (after.since opening)
  else if digits.isEmpty then Cursor.fail .countEmpty span
  else if largestCount < Decimal.digitsValue digits then Cursor.fail .decimalInvalid span
  else Cursor.fail .countUnclosed (after.since opening)

/-- Takes the next part of a pattern, which begins with a character. -/
def ParseState.take (state : ParseState) (character : Char) : Except Fault ParseState := do
  match character with
  | '(' => state.openGroup
  | ')' => state.closeGroup
  | '|' => return state.endBranch
  | '?' => state.takeRepetition .optional
  | '*' => state.takeRepetition .many
  | '+' => state.takeRepetition .some
  | '\x7b' => state.refuseCount
  | '[' =>
      let (node, cursor) ← readClass state.cursor
      return { state with cursor, parts := state.parts.add node }
  | _ =>
      let (atom, cursor) ← readAtom state.cursor character
      return { state with cursor, parts := state.parts.add atom.toNode }

/-- The pattern that has been read once nothing is left. -/
def ParseState.finish (state : ParseState) : Except Fault Node :=
  let last := state.cursor.place
  let branch := state.parts.toNode last
  match state.opened with
  | [] => .ok branch
  | [.choice first branches] => .ok (.choice ⟨first, last⟩ (branch :: branches).reverse)
  | .group _ opening .. :: _ | .choice .. :: .group _ opening .. :: _ =>
      Cursor.fail .groupUnclosed opening
  | .choice first _ :: _ => Cursor.fail .groupUnclosed (.point first)

/-- Reads on, with at most `fuel` parts. -/
def ParseState.readFrom (state : ParseState) : Nat → Except Fault Node
  | 0 => state.finish
  | fuel + 1 =>
      let state := { state with cursor := state.cursor.skipLayout }
      match state.cursor.next? with
      | none => state.finish
      | some character => do (← state.take character).readFrom fuel

/-- Reads a pattern.  Every part takes a character. -/
def parseNode (text : String) : Except Fault Node :=
  let cursor : Cursor := { rest := text.toList }
  let state : ParseState := { cursor, parts := { first := cursor.place } }
  state.readFrom (cursor.rest.length + 1)

end Shortlink.Pattern
