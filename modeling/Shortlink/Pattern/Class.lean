import Shortlink.Pattern.Escape

/-!
# Classes in brackets

A class is read with the classes and operations that are open around the place
reached, so that classes may be nested as deep as the pattern is long.
-/

namespace Shortlink.Pattern

/-- The parts of a class that have been read, the latest one first. -/
structure ClassParts where
  first : Place
  last : Place
  parts : List ClassSet := []

namespace ClassParts

/-- No parts yet. -/
def startingAt (place : Place) : ClassParts := { first := place, last := place }

def add (read : ClassParts) (part : ClassSet) : ClassParts :=
  { first := if read.parts.isEmpty then part.span.first else read.first
    last := part.span.last
    parts := part :: read.parts }

/-- The parts as a set. -/
def toSet (read : ClassParts) : ClassSet :=
  match read.parts with
  | [] => .empty ⟨read.first, read.last⟩
  | [part] => part
  | parts => .union ⟨read.first, read.last⟩ parts.reverse

end ClassParts

/-- What is open around a place in a class. -/
inductive OpenClass
  /-- A class, the span of its opening, and the parts of the class around it. -/
  | bracket (outer : ClassParts) (opening : Span) (negated : Bool)
  /-- An operation and its left side. -/
  | operation (kind : SetOperation) (left : ClassSet)

/-- Where reading a class has got to. -/
structure ClassState where
  cursor : Cursor
  /-- The parts read since the latest opening or operation. -/
  read : ClassParts
  /-- What is open, from the inside out. -/
  opened : List OpenClass

/-- The span of the opening of the innermost class. -/
def innermost : List OpenClass → Span
  | [] => .point {}
  | .bracket _ opening _ :: _ => opening
  | .operation .. :: rest => innermost rest

/-- Complains that the innermost class has no end. -/
def ClassState.unclosed {α : Type} (state : ClassState) : Except Fault α :=
  Cursor.fail .classUnclosed (innermost state.opened)

/-- The names of named classes. -/
def namedClasses : List (String × NamedClass) :=
  [("alnum", .alnum), ("alpha", .alpha), ("ascii", .ascii), ("blank", .blank),
    ("cntrl", .cntrl), ("digit", .digit), ("graph", .graph), ("lower", .lower),
    ("print", .print), ("punct", .punct), ("space", .space), ("upper", .upper),
    ("word", .word), ("xdigit", .xdigit)]

/-- Reads a class by its name, if there is one.  The cursor is at its bracket. -/
def readNamed? (cursor : Cursor) : Option (ClassSet × Cursor) := do
  let colon ← cursor.take? "[:"
  let negated := colon.next? = some '^'
  let name := if negated then colon.step else colon
  let letters := name.rest.takeWhile (· ≠ ':')
  let after ← (name.steps letters.length).take? ":]"
  let named ← namedClasses.lookup (String.ofList letters)
  return (.named (after.since cursor.place) negated named, after)

/-- Takes the hyphens at the beginning of a class, which stand for themselves. -/
def readHyphens (start : Place) (read : ClassParts) (cursor : Cursor) :
    Nat → Except Fault (ClassParts × Cursor)
  | 0 => .ok (read, cursor)
  | fuel + 1 =>
      if cursor.next? = some '-' then
        let read := read.add (.literal { span := cursor.nextSpan, character := '-' })
        if cursor.stepOn.atEnd then Cursor.fail .classUnclosed (.point start)
        else readHyphens start read cursor.stepOn fuel
      else .ok (read, cursor)

/-- Passes on if something is left of the class that starts at a place. -/
def Cursor.within (cursor : Cursor) (start : Place) : Except Fault Cursor :=
  if cursor.atEnd then Cursor.fail .classUnclosed (cursor.since start) else .ok cursor

/-- Opens a class.  The cursor is at its bracket. -/
def openClass (state : ClassState) : Except Fault ClassState := do
  let start := state.cursor.place
  let cursor ← state.cursor.stepOn.within start
  let negated := cursor.next? = some '^'
  let cursor ← if negated then cursor.stepOn.within start else pure cursor
  let (read, cursor) ← readHyphens start (.startingAt cursor.place) cursor cursor.rest.length
  let bracketFirst := read.parts.isEmpty && cursor.next? = some ']'
  let read := if bracketFirst then
      read.add (.literal { span := cursor.nextSpan, character := ']' })
    else read
  let cursor ← if bracketFirst then cursor.stepOn.within start else pure cursor
  let opened := .bracket state.read (cursor.since start) negated :: state.opened
  return { cursor, read, opened }

/-- The operation of a sign that is written twice. -/
def operationOf? : Char → Option SetOperation
  | '&' => some .intersection
  | '-' => some .difference
  | '~' => some .symmetricDifference
  | _ => none

/-- Completes the operation that is open, if one is, with its right side. -/
def closeOperation (right : ClassSet) : List OpenClass → ClassSet × List OpenClass
  | .operation operation left :: opened =>
      (.operation ⟨left.span.first, right.span.last⟩ operation left right, opened)
  | opened => (right, opened)

/-- Reads a character, a class by its letter, or a range. -/
def readRange (state : ClassState) (character : Char) : Except Fault ClassState := do
  let (first, cursor) ← readCharacter state.cursor character
  let cursor := cursor.skipLayout
  if cursor.atEnd then state.unclosed
  else if cursor.next? ≠ some '-' || cursor.secondCounting? = some ']' ||
      cursor.secondCounting? = some '-' then
    return { state with cursor, read := state.read.add (← first.toSet) }
  else
    match cursor.stepOn.next? with
    | none => state.unclosed
    | some character =>
        let (last, cursor) ← readCharacter cursor.stepOn character
        let span : Span := ⟨first.span.first, last.span.last⟩
        let first ← first.toLiteral
        let last ← last.toLiteral
        if last.character < first.character then Cursor.fail .classRange span
        else return { state with cursor, read := state.read.add (.range span first last) }

/-- What one move in a class leads to. -/
inductive ClassMove
  | go (state : ClassState)
  /-- The outermost class has ended. -/
  | done (node : Node) (cursor : Cursor)

/-- Closes the innermost class.  The cursor is at its bracket. -/
def closeClass (state : ClassState) : ClassMove :=
  let (content, opened) := closeOperation state.read.toSet state.opened
  let cursor := state.cursor.step
  match opened with
  | .bracket outer opening negated :: opened =>
      let span := cursor.since opening.first
      if opened.isEmpty then .done (.bracketed span negated content) cursor
      else .go { cursor, read := outer.add (.bracketed span negated content), opened }
  | opened => .go { cursor, read := .startingAt cursor.place, opened }

/-- Takes the next part of a class. -/
def ClassState.move (state : ClassState) : Except Fault ClassMove := do
  let state := { state with cursor := state.cursor.skipLayout }
  match state.cursor.next? with
  | none => state.unclosed
  | some '[' =>
      match if state.opened.isEmpty then none else readNamed? state.cursor with
      | some (named, cursor) => return .go { state with cursor, read := state.read.add named }
      | none => return .go (← openClass state)
  | some ']' => return closeClass state
  | some character =>
      match if state.cursor.second? = some character then operationOf? character else none with
      | some operation =>
          let (left, opened) := closeOperation state.read.toSet state.opened
          let cursor := state.cursor.step.step
          let opened := .operation operation left :: opened
          return .go { cursor, read := .startingAt cursor.place, opened }
      | none => return .go (← readRange state character)

/-- Reads on in a class, with at most `fuel` moves. -/
def readClassFrom (state : ClassState) : Nat → Except Fault (Node × Cursor)
  | 0 => state.unclosed
  | fuel + 1 => do
      match ← state.move with
      | .done node cursor => return (node, cursor)
      | .go state => readClassFrom state fuel

/-- Reads a class.  The cursor is at its bracket.  Every move takes a character. -/
def readClass (cursor : Cursor) : Except Fault (Node × Cursor) :=
  readClassFrom { cursor, read := .startingAt cursor.place, opened := [] } (cursor.rest.length + 1)

end Shortlink.Pattern
