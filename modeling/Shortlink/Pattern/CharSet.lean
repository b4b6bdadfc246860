import Shortlink.Pattern.Syntax

/-!
# Sets of characters

What one character of a text is compared with.
-/

namespace Shortlink.Pattern

inductive CharSet
  | none
  /-- All characters from one to another. -/
  | range (first last : Char)
  | union (left right : CharSet)
  | intersection (left right : CharSet)
  | complement (set : CharSet)
  /-- The characters of a set, and the letters of ASCII that differ from one of them
  only in case. -/
  | eitherCase (set : CharSet)
  deriving DecidableEq, Repr

namespace CharSet

/-- A letter of ASCII in the other case; any other character stays what it is. -/
def otherCase (character : Char) : Char :=
  if character.isUpper then character.toLower else character.toUpper

/-- Whether a character is in a set. -/
def contains (character : Char) : CharSet → Bool
  | .none => false
  | .range first last => first ≤ character && character ≤ last
  | .union left right => left.contains character || right.contains character
  | .intersection left right => left.contains character && right.contains character
  | .complement set => !set.contains character
  | .eitherCase set => set.contains character || set.contains (otherCase character)

def all : CharSet := .complement .none

def single (character : Char) : CharSet := .range character character

/-- The characters of ranges. -/
def ofRanges (ranges : List (Char × Char)) : CharSet :=
  ranges.foldr (fun (first, last) set => .union (.range first last) set) .none

/-- The characters of a list. -/
def ofList (characters : List Char) : CharSet :=
  ofRanges (characters.map fun character => (character, character))

/-- The characters of two sets combined. -/
def combine (operation : SetOperation) (left right : CharSet) : CharSet :=
  match operation with
  | .intersection => .intersection left right
  | .difference => .intersection left (.complement right)
  | .symmetricDifference =>
      .union (.intersection left (.complement right)) (.intersection right (.complement left))

end CharSet

/-- The characters of a named class, as ranges. -/
def NamedClass.ranges : NamedClass → List (Char × Char)
  | .alnum => [('0', '9'), ('A', 'Z'), ('a', 'z')]
  | .alpha => [('A', 'Z'), ('a', 'z')]
  | .ascii => [('\x00', '\x7f')]
  | .blank => [('\t', '\t'), (' ', ' ')]
  | .cntrl => [('\x00', '\x1f'), ('\x7f', '\x7f')]
  | .digit => [('0', '9')]
  | .graph => [('!', '~')]
  | .lower => [('a', 'z')]
  | .print => [(' ', '~')]
  | .punct => [('!', '/'), (':', '@'), ('[', '\x60'), ('\x7b', '~')]
  | .space => [('\t', '\r'), (' ', ' ')]
  | .upper => [('A', 'Z')]
  | .word => [('0', '9'), ('A', 'Z'), ('_', '_'), ('a', 'z')]
  | .xdigit => [('0', '9'), ('A', 'F'), ('a', 'f')]

/-- The characters of ASCII that a class with a letter has. -/
def LetterClass.named : LetterClass → NamedClass
  | .digit => .digit
  | .blank => .space
  | .word => .word

end Shortlink.Pattern
