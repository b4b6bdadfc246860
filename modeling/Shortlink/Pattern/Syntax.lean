import Shortlink.Pattern.Span

/-!
# The syntax of patterns

A pattern as a tree.  Every node knows its span, so that whatever is wrong with its
meaning can be pointed at.
-/

namespace Shortlink.Pattern

/-- A flag, which changes the meaning of what follows it. -/
inductive Flag
  /-- Letters match in either case. -/
  | eitherCase
  /-- Lines have edges of their own. -/
  | multiLine
  /-- A dot matches a line feed too. -/
  | dotMatchesAll
  /-- Repetitions are lazy unless they are marked. -/
  | lazy
  /-- Classes are about characters, not about bytes. -/
  | unicode
  /-- Lines may end with a carriage return and a line feed. -/
  | carriageReturns
  /-- Blanks and remarks do not count. -/
  | looseLayout
  deriving DecidableEq, Repr

/-- Flags, each with whether it is turned on. -/
abbrev FlagSettings := List (Flag × Bool)

/-- A character, and how it is written. -/
structure Literal where
  span : Span
  character : Char
  /-- Whether it is written as a byte, by two hexadecimal digits. -/
  isByte : Bool := false
  deriving DecidableEq, Repr

/-- A class of characters that has a letter. -/
inductive LetterClass
  | digit
  | blank
  /-- What words are made of. -/
  | word
  deriving DecidableEq, Repr

/-- A class of characters of ASCII that has a name. -/
inductive NamedClass
  /-- Letters and digits. -/
  | alnum
  /-- Letters. -/
  | alpha
  | ascii
  /-- The space and the tab. -/
  | blank
  /-- Controls. -/
  | cntrl
  | digit
  /-- What leaves ink. -/
  | graph
  /-- Small letters. -/
  | lower
  /-- What leaves ink, and the space. -/
  | print
  | punct
  /-- Everything blank. -/
  | space
  /-- Capital letters. -/
  | upper
  /-- What words are made of. -/
  | word
  /-- Hexadecimal digits. -/
  | xdigit
  deriving DecidableEq, Repr

/-- What two sets of characters are combined to. -/
inductive SetOperation
  | intersection
  /-- What is in the first alone. -/
  | difference
  /-- What is in one of them alone. -/
  | symmetricDifference
  deriving DecidableEq, Repr

/-- What is written between the brackets of a class. -/
inductive ClassSet
  | empty (span : Span)
  | literal (written : Literal)
  /-- All characters from one to another. -/
  | range (span : Span) (first last : Literal)
  /-- A class by its name. -/
  | named (span : Span) (negated : Bool) (name : NamedClass)
  /-- A class by its letter. -/
  | letter (span : Span) (negated : Bool) (kind : LetterClass)
  | property (span : Span)
  | bracketed (span : Span) (negated : Bool) (content : ClassSet)
  | union (span : Span) (parts : List ClassSet)
  | operation (span : Span) (kind : SetOperation) (left right : ClassSet)
  deriving Repr

/-- Where a set is written. -/
def ClassSet.span : ClassSet → Span
  | .literal written => written.span
  | .empty span | .range span .. | .named span .. | .letter span .. | .property span
  | .bracketed span .. | .union span _ | .operation span .. => span

/-- An edge, as it is written. -/
inductive EdgeMark
  | lineStart
  | lineEnd
  | textStart
  | textEnd
  /-- Either edge of a word. -/
  | wordEdge
  /-- Anything but the edge of a word. -/
  | noWordEdge
  | wordStart
  | wordEnd
  deriving DecidableEq, Repr

/-- How often something is repeated. -/
inductive Count
  /-- At most once. -/
  | optional
  /-- Any number of times. -/
  | many
  /-- At least once. -/
  | some
  deriving DecidableEq, Repr

inductive Node
  | empty (span : Span)
  /-- Flags for what follows. -/
  | flags (span : Span) (settings : FlagSettings)
  | literal (written : Literal)
  | dot (span : Span)
  | edge (span : Span) (mark : EdgeMark)
  | property (span : Span)
  /-- A class by its letter. -/
  | letter (span : Span) (negated : Bool) (kind : LetterClass)
  | bracketed (span : Span) (negated : Bool) (content : ClassSet)
  | repetition (span : Span) (count : Count) (greedy : Bool) (body : Node)
  /-- A group, perhaps with flags of its own. -/
  | group (span : Span) (settings : FlagSettings) (body : Node)
  | sequence (span : Span) (parts : List Node)
  | choice (span : Span) (branches : List Node)
  deriving Repr

/-- Where a pattern is written. -/
def Node.span : Node → Span
  | .literal written => written.span
  | .empty span | .flags span _ | .dot span | .edge span _ | .property span
  | .letter span .. | .bracketed span .. | .repetition span .. | .group span ..
  | .sequence span _ | .choice span _ => span

/-- Whether a pattern is one that cannot be repeated. -/
def Node.isRepeatable : Node → Bool
  | .empty _ | .flags .. => false
  | _ => true

end Shortlink.Pattern
