import Shortlink.Pattern.Cursor
import Shortlink.Pattern.Syntax

/-!
# Single characters and escapes

What is written with one character or with a backslash: characters, classes that have
a letter, edges, and properties.  Patterns come out of directives, where a closing
brace ends them; so what is opened by a brace in a pattern is never closed.
-/

namespace Shortlink.Pattern

/-- What is written with one character or a backslash. -/
inductive Atom
  | literal (written : Literal)
  | dot (span : Span)
  | edge (span : Span) (mark : EdgeMark)
  | property (span : Span)
  /-- A class by its letter. -/
  | letter (span : Span) (negated : Bool) (kind : LetterClass)
  deriving Repr

namespace Atom

/-- Where an atom is written. -/
def span : Atom → Span
  | .literal written => written.span
  | .dot span | .edge span _ | .property span | .letter span .. => span

/-- An atom as a pattern. -/
def toNode : Atom → Node
  | .literal written => .literal written
  | .dot span => .dot span
  | .edge span mark => .edge span mark
  | .property span => .property span
  | .letter span negated kind => .letter span negated kind

/-- An atom as a part of a class. -/
def toSet : Atom → Except Fault ClassSet
  | .literal written => .ok (.literal written)
  | .property span => .ok (.property span)
  | .letter span negated kind => .ok (.letter span negated kind)
  | .dot span | .edge span _ => Cursor.fail .classEscape span

/-- An atom as the start or the end of a range. -/
def toLiteral : Atom → Except Fault Literal
  | .literal written => .ok written
  | atom => Cursor.fail .classRangeLiteral atom.span

end Atom

/-- The value of a hexadecimal digit of either case. -/
def hexValue? (character : Char) : Option Nat :=
  if '0' ≤ character && character ≤ '9' then some (character.toNat - '0'.toNat)
  else if 'a' ≤ character && character ≤ 'f' then some (character.toNat - 'a'.toNat + 10)
  else if 'A' ≤ character && character ≤ 'F' then some (character.toNat - 'A'.toNat + 10)
  else none

/-- The character of a number. -/
def charOfNumber? (number : Nat) : Option Char :=
  if number.isValidChar then some (Char.ofNat number) else none

/-- Whether a character means something unless it is escaped. -/
def isMeta (character : Char) : Bool :=
  ['\\', '.', '+', '*', '?', '(', ')', '|', '[', ']', '\x7b', '\x7d', '^', '$', '#', '&', '-',
    '~'].contains character

/-- Whether an escaped character stands for itself. -/
def isEscapable (character : Char) : Bool :=
  isMeta character ||
    (character.toNat < 0x80 && !character.isAlphanum && character ≠ '<' && character ≠ '>')

/-- The control that a letter stands for. -/
def controlOf? : Char → Option Char
  | 'a' => some '\x07'
  | 'f' => some '\x0c'
  | 't' => some '\t'
  | 'n' => some '\n'
  | 'r' => some '\r'
  | 'v' => some '\x0b'
  | _ => none

/-- The edge that a letter or a sign stands for. -/
def edgeOf? : Char → Option EdgeMark
  | 'A' => some .textStart
  | 'z' => some .textEnd
  | 'b' => some .wordEdge
  | 'B' => some .noWordEdge
  | '<' => some .wordStart
  | '>' => some .wordEnd
  | _ => none

/-- The class that a letter stands for, and whether it is negated. -/
def letterOf? : Char → Option (Bool × LetterClass)
  | 'd' => some (false, .digit)
  | 's' => some (false, .blank)
  | 'w' => some (false, .word)
  | 'D' => some (true, .digit)
  | 'S' => some (true, .blank)
  | 'W' => some (true, .word)
  | _ => none

/-- How many digits the number of a character has after a letter. -/
def hexDigits? : Char → Option Nat
  | 'x' => some 2
  | 'u' => some 4
  | 'U' => some 8
  | _ => none

/-- Reads hexadecimal digits; the cursor is at the first one. -/
def readHexDigits (value : Nat) (cursor : Cursor) : Nat → Except Fault (Nat × Cursor)
  | 0 => .ok (value, cursor)
  | count + 1 =>
      match cursor.next? with
      | none => Cursor.fail .escapeEnd cursor.here
      | some character =>
          match hexValue? character with
          | none => Cursor.fail .hexDigit cursor.nextSpan
          | some digit => readHexDigits (value * 16 + digit) cursor.stepOn count

/-- Reads the number of a character after its letter, which is followed by `count`
digits or by an opening brace. -/
def readNumber (start : Place) (isByte : Bool) (count : Nat) (cursor : Cursor) :
    Except Fault (Atom × Cursor) :=
  match cursor.next? with
  | none => Cursor.fail .escapeEnd cursor.here
  | some '\x7b' =>
      let digits := cursor.stepOn.stepOnAll fun character => (hexValue? character).isSome
      if digits.atEnd then Cursor.fail .escapeEnd (digits.since cursor.place)
      else Cursor.fail .hexDigit digits.nextSpan
  | some _ => do
      let (value, after) ← readHexDigits 0 cursor count
      match charOfNumber? value with
      | none => Cursor.fail .hexInvalid (after.since cursor.place)
      | some character => return (.literal { span := after.since start, character, isByte }, after)

/-- Reads a property after its letter. -/
def readProperty (start : Place) (cursor : Cursor) : Except Fault (Atom × Cursor) :=
  match cursor.next? with
  | none => Cursor.fail .escapeEnd cursor.here
  | some '\x7b' => Cursor.fail .escapeEnd cursor.toEnd.here
  | some '\\' => Cursor.fail .propertyInvalid cursor.nextSpan
  | some _ => .ok (.property (cursor.stepOn.since start), cursor.stepOn)

/-- Reads what may follow the edge of a word: its name in braces. -/
def readEdgeName (start : Place) (cursor : Cursor) : Except Fault (Atom × Cursor) :=
  let isNameCharacter (character : Char) : Bool := character.isAlpha || character = '-'
  let edge : Atom := .edge (cursor.since start) .wordEdge
  if cursor.next? = some '\x7b' then
    match cursor.stepOn.next? with
    | none => Cursor.fail .edgeEnd (cursor.stepOn.since start)
    | some character =>
        if isNameCharacter character then
          Cursor.fail .edgeUnclosed ((cursor.stepOn.stepOnAll isNameCharacter).since cursor.place)
        else .ok (edge, cursor)
  else .ok (edge, cursor)

/-- Reads an escape.  The cursor is at its backslash. -/
def readEscape (cursor : Cursor) : Except Fault (Atom × Cursor) :=
  let start := cursor.place
  let letter := cursor.step
  match letter.next? with
  | none => Cursor.fail .escapeEnd (letter.since start)
  | some character =>
      let after := letter.step
      let span := after.since start
      if character.isDigit then Cursor.fail .backreference span
      else if character = 'p' || character = 'P' then readProperty start letter.stepOn
      else if isEscapable character then .ok (.literal { span, character }, after)
      else match hexDigits? character, letterOf? character, controlOf? character,
          edgeOf? character with
        | some count, _, _, _ => readNumber start (character = 'x') count letter.stepOn
        | _, some (negated, letter), _, _ => .ok (.letter span negated letter, after)
        | _, _, some control, _ => .ok (.literal { span, character := control }, after)
        | _, _, _, some .wordEdge => readEdgeName start after
        | _, _, _, some mark => .ok (.edge span mark, after)
        | none, none, none, none => Cursor.fail .escapeUnknown span

/-- Reads an escape, or a single character that stands for itself. -/
def readCharacter (cursor : Cursor) (character : Char) : Except Fault (Atom × Cursor) :=
  if character = '\\' then readEscape cursor
  else .ok (.literal { span := cursor.nextSpan, character }, cursor.step)

/-- Reads an atom outside a class. -/
def readAtom (cursor : Cursor) (character : Char) : Except Fault (Atom × Cursor) :=
  match character with
  | '.' => .ok (.dot cursor.nextSpan, cursor.step)
  | '^' => .ok (.edge cursor.nextSpan .lineStart, cursor.step)
  | '$' => .ok (.edge cursor.nextSpan .lineEnd, cursor.step)
  | _ => readCharacter cursor character

end Shortlink.Pattern
