import Shortlink.Pattern.Meaning
import Shortlink.Pattern.Nesting
import Shortlink.Pattern.Parse
import Shortlink.Pattern.Search

/-!
# Patterns

A pattern is a regular expression that texts are compared with.  It is read once, and
what it means is kept beside the way it was written.
-/

namespace Shortlink

structure Pattern where
  /-- How it is written. -/
  source : String
  /-- What it means. -/
  meaning : Pattern.Expression
  deriving DecidableEq, Repr

namespace Pattern

/-- Why a text is no pattern. -/
inductive Error
  /-- Something is wrong with the text. -/
  | invalid (source : String) (fault : Fault)
  /-- It asks for the edges of words of any script. -/
  | unicodeWords
  deriving DecidableEq, Repr

namespace Error

/-- The wording of a failure. -/
def message : Error → String
  | .invalid .. => "error building NFA"
  | .unicodeWords =>
      "unsupported regex feature for DFAs: cannot build DFAs for regexes with Unicode word " ++
        "boundaries; switch to ASCII word boundaries, or heuristically enable Unicode word " ++
        "boundaries or use a different regex engine"

/-- The wordings of a failure and of what it comes from. -/
def causes (error : Error) : List String :=
  error.message :: match error with
    | .invalid source fault => ["error parsing regex", fault.report source]
    | .unicodeWords => []

end Error

/-- What a text means as a pattern. -/
def meaningOf (text : String) : Except Fault Expression := do
  let node ← parseNode text
  node.checkDepth 0
  return (← node.meaning {}).fst

def ofText (text : String) : Except Error Pattern := do
  let meaning ← (meaningOf text).mapError (.invalid text)
  if meaning.asksForUnicodeWords then throw .unicodeWords
  return { source := text, meaning }

/-- Whether the match of a pattern in a text, if there is one, ends where the text
does.  Of all matches the one that starts first counts, and of those that start there
the preferred one. -/
def endsWith (pattern : Pattern) (text : String) : Bool :=
  (Program.ofExpression pattern.meaning).reachesEnd none true [] (Utf8.ofString text)

end Pattern

end Shortlink
