/-!
# Places in a pattern

A place is told by its line and its column, both counted from one, and a span by the
places where it starts and ends.
-/

namespace Shortlink.Pattern

/-- A place between two characters. -/
structure Place where
  line : Nat := 1
  /-- The number of the character on the line that comes next. -/
  column : Nat := 1
  deriving DecidableEq, Repr

/-- The place after one more character. -/
def Place.after (place : Place) (character : Char) : Place :=
  if character = '\n' then ⟨place.line + 1, 1⟩ else ⟨place.line, place.column + 1⟩

/-- Whether a place comes before another one. -/
def Place.isBefore (first second : Place) : Bool :=
  first.line < second.line || (first.line = second.line && first.column < second.column)

/-- A part of a pattern. -/
structure Span where
  first : Place
  last : Place
  deriving DecidableEq, Repr

namespace Span

/-- The empty span at a place. -/
def point (place : Place) : Span := ⟨place, place⟩

/-- Whether a span lies on one line. -/
def isOnOneLine (span : Span) : Bool :=
  span.first.line = span.last.line

/-- Whether a span comes before another one: it starts before it, or it starts with it
and ends before it. -/
def isBefore (one other : Span) : Bool :=
  one.first.isBefore other.first || (one.first = other.first && one.last.isBefore other.last)

end Span

end Shortlink.Pattern
