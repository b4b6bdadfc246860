import Shortlink.Pattern.CharSet

/-!
# The meaning of patterns

What a pattern means once its flags have been applied: how characters and edges of a
text are to follow one another, and which of several ways is preferred.
-/

namespace Shortlink.Pattern

/-- What counts as an edge of a word. -/
inductive WordEdge
  /-- The start or the end of a word. -/
  | either
  /-- Neither of them. -/
  | neither
  | start
  | finish
  deriving DecidableEq, Repr

/-- An edge in a text. -/
inductive Edge
  | textStart
  | textEnd
  | lineStart
  | lineEnd
  /-- The start of a line, where lines may end with a carriage return. -/
  | returnedLineStart
  /-- The end of a line, where lines may end with a carriage return. -/
  | returnedLineEnd
  /-- An edge of a word of any script, or of ASCII alone. -/
  | word (kind : WordEdge) (unicode : Bool)
  deriving DecidableEq, Repr

/-- Whether an edge is one of a word of any script. -/
def Edge.isUnicodeWord : Edge → Bool
  | .word _ unicode => unicode
  | _ => false

/-- What a pattern means. -/
inductive Expression
  | empty
  /-- One character of a set. -/
  | one (set : CharSet)
  | edge (kind : Edge)
  | sequence (first second : Expression)
  /-- One thing or, if possible, the other. -/
  | choice (preferred other : Expression)
  /-- A repetition, as often as possible or as rarely as possible. -/
  | repetition (count : Count) (greedy : Bool) (body : Expression)
  deriving DecidableEq, Repr

namespace Expression

/-- Whether something may match without taking a character. -/
def mayBeEmpty : Expression → Bool
  | .empty | .edge _ => true
  | .one _ => false
  | .sequence first second => first.mayBeEmpty && second.mayBeEmpty
  | .choice preferred other => preferred.mayBeEmpty || other.mayBeEmpty
  | .repetition .some _ body => body.mayBeEmpty
  | .repetition .optional .. | .repetition .many .. => true

/-- Whether an edge of a word of any script is asked for. -/
def asksForUnicodeWords : Expression → Bool
  | .empty | .one _ => false
  | .edge kind => kind.isUnicodeWord
  | .sequence first second | .choice first second =>
      first.asksForUnicodeWords || second.asksForUnicodeWords
  | .repetition _ _ body => body.asksForUnicodeWords

end Expression

end Shortlink.Pattern
