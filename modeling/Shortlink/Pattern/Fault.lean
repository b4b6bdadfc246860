import Shortlink.Pattern.Span
import Shortlink.Text.Split

/-!
# What can be wrong with a pattern

A fault says what is wrong and where.  Its report shows the pattern with the faulty
parts underlined; a pattern of several lines is shown with their numbers.
-/

namespace Shortlink.Pattern

/-- What is wrong. -/
inductive Complaint
  /-- An escape that does not stand for characters, inside a class. -/
  | classEscape
  /-- A range whose end comes before its start. -/
  | classRange
  /-- A range from or to something that is not a character. -/
  | classRangeLiteral
  | classUnclosed
  | decimalInvalid
  /-- A number that no character has. -/
  | hexInvalid
  | hexDigit
  | escapeEnd
  /-- An escape with no meaning. -/
  | escapeUnknown
  /-- A negation sign with no flag after it. -/
  | flagDangling
  /-- A flag that is there twice. -/
  | flagDuplicate
  /-- A second negation sign. -/
  | flagNegatedTwice
  | flagEnd
  | flagUnknown
  | nameDuplicate
  | nameEmpty
  | nameInvalid
  | nameEnd
  /-- A group without an end. -/
  | groupUnclosed
  /-- The end of a group without its start. -/
  | groupUnopened
  /-- Too many things inside one another. -/
  | tooDeep
  /-- A count without a number. -/
  | countEmpty
  | countUnclosed
  /-- A repetition of nothing. -/
  | repetitionMissing
  /-- An edge of a word, by its name, without an end. -/
  | edgeUnclosed
  /-- A brace after an edge of a word at the end of the pattern. -/
  | edgeEnd
  /-- A property whose name is a backslash. -/
  | propertyInvalid
  | backreference
  | lookAround
  /-- A character beyond ASCII in a class of bytes. -/
  | beyondAscii
  /-- Bytes that are part of no character. -/
  | loneBytes
  /-- A property of characters, none of which are known. -/
  | propertyUnknown
  /-- A class of characters by its letter, none of which are known beyond ASCII. -/
  | classUnknown
  /-- Letters of either case, which are not known beyond ASCII. -/
  | caseUnknown
  deriving DecidableEq, Repr

/-- How many things may be inside one another. -/
def deepest : Nat := 250

/-- The wording of a complaint. -/
def Complaint.message : Complaint → String
  | .classEscape => "invalid escape sequence found in character class"
  | .classRange => "invalid character class range, the start must be <= the end"
  | .classRangeLiteral => "invalid range boundary, must be a literal"
  | .classUnclosed => "unclosed character class"
  | .decimalInvalid => "decimal literal invalid"
  | .hexInvalid => "hexadecimal literal is not a Unicode scalar value"
  | .hexDigit => "invalid hexadecimal digit"
  | .escapeEnd => "incomplete escape sequence, reached end of pattern prematurely"
  | .escapeUnknown => "unrecognized escape sequence"
  | .flagDangling => "dangling flag negation operator"
  | .flagDuplicate => "duplicate flag"
  | .flagNegatedTwice => "flag negation operator repeated"
  | .flagEnd => "expected flag but got end of regex"
  | .flagUnknown => "unrecognized flag"
  | .nameDuplicate => "duplicate capture group name"
  | .nameEmpty => "empty capture group name"
  | .nameInvalid => "invalid capture group character"
  | .nameEnd => "unclosed capture group name"
  | .groupUnclosed => "unclosed group"
  | .groupUnopened => "unopened group"
  | .tooDeep =>
      "exceed the maximum number of nested parentheses/brackets (" ++ toString deepest ++ ")"
  | .countEmpty => "repetition quantifier expects a valid decimal"
  | .countUnclosed => "unclosed counted repetition"
  | .repetitionMissing => "repetition operator missing expression"
  | .edgeUnclosed =>
      "special word boundary assertion is either unclosed or contains an invalid character"
  | .edgeEnd =>
      "found either the beginning of a special word boundary or a bounded repetition on a \\b " ++
        "with an opening brace, but no closing brace"
  | .propertyInvalid => "invalid Unicode character class"
  | .backreference => "backreferences are not supported"
  | .lookAround => "look-around, including look-ahead and look-behind, is not supported"
  | .beyondAscii => "Unicode not allowed here"
  | .loneBytes => "pattern can match invalid UTF-8"
  | .propertyUnknown => "Unicode property not found"
  | .classUnknown =>
      "Unicode-aware Perl class not found (make sure the unicode-perl feature is enabled)"
  | .caseUnknown =>
      "Unicode-aware case insensitivity matching is not available " ++
        "(make sure the unicode-case feature is enabled)"

/-- A complaint about a part of a pattern. -/
structure Fault where
  complaint : Complaint
  /-- The faulty part. -/
  span : Span
  /-- Another part that the faulty one is at odds with. -/
  other? : Option Span := none
  deriving DecidableEq, Repr

namespace Fault

/-- The parts to underline, in order. -/
def spans (fault : Fault) : List Span :=
  match fault.other? with
  | none => [fault.span]
  | some other => if other.isBefore fault.span then [other, fault.span] else [fault.span, other]

/-- A line without the carriage return at its end. -/
def trimmed (line : List Char) : List Char :=
  if line.getLast? = some '\r' then line.dropLast else line

/-- The lines of a pattern.  A line feed at the very end begins no line. -/
def linesOf (pattern : List Char) : List (List Char) :=
  match (Text.split '\n' pattern).reverse with
  | [] => []
  | [] :: ended => (ended.map trimmed).reverse
  | line :: ended => (line :: ended.map trimmed).reverse

/-- A line of carets under spans of a line, on from the column `column`. -/
def carets (column : Nat) : List Span → List Char
  | [] => []
  | span :: spans =>
      let width := max 1 (span.last.column - span.first.column)
      List.replicate (span.first.column - 1 - column) ' ' ++ List.replicate width '^' ++
        carets (max column (span.first.column - 1) + width) spans

/-- What stands in front of a line: its number, or just room. -/
def margin (numberWidth number : Nat) : List Char :=
  if numberWidth = 0 then List.replicate 4 ' '
  else
    let digits := Nat.toDigits 10 number
    List.replicate (numberWidth - digits.length) ' ' ++ digits ++ [':', ' ']

/-- A line with what is underlined on it. -/
def notated (numberWidth : Nat) (spans : List Span) (line : List Char × Nat) : List Char :=
  let (text, index) := line
  let marked := spans.filter fun span => span.isOnOneLine && span.first.line = index + 1
  let room := if numberWidth = 0 then 4 else numberWidth + 2
  margin numberWidth (index + 1) ++ text ++ ['\n'] ++
    if marked.isEmpty then [] else List.replicate room ' ' ++ carets 0 marked ++ ['\n']

/-- How a span of several lines is told. -/
def told (span : Span) : String :=
  "on line " ++ toString span.first.line ++ " (column " ++ toString span.first.column ++
    ") through line " ++ toString span.last.line ++ " (column " ++
    toString (span.last.column - 1) ++ ")"

/-- The report of a fault of a pattern. -/
def report (pattern : String) (fault : Fault) : String :=
  let characters := pattern.toList
  let lines := linesOf characters
  let severalLines := characters.contains '\n'
  let count := lines.length + if characters.getLast? = some '\n' then 1 else 0
  let numberWidth := if count ≤ 1 then 0 else (Nat.toDigits 10 count).length
  let divider := if severalLines then String.ofList (List.replicate 79 '~') ++ "\n" else ""
  let notes := (fault.spans.filter fun span => !span.isOnOneLine).map told
  "regex parse error:\n" ++ divider ++
    String.ofList (lines.zipIdx.flatMap (notated numberWidth fault.spans)) ++ divider ++
    (if severalLines && !notes.isEmpty then "\n".intercalate notes ++ "\n" else "") ++
    "error: " ++ fault.complaint.message

end Fault

end Shortlink.Pattern
