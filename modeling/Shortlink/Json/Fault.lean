/-!
# What can be wrong with a document

A document is read as bytes.  A fault says what is wrong and how much of the
document was still unread when that was found, from which the line and column
of the fault follow.
-/

namespace Shortlink.Json

/-- A way in which bytes fail to be a document. -/
inductive Flaw
  /-- The document ends where a list goes on. -/
  | endInList
  /-- The document ends where an object goes on. -/
  | endInObject
  | endInString
  /-- The document ends where a value is due. -/
  | endInValue
  | expectedColon
  /-- A comma or the end of the list is due. -/
  | expectedListEnd
  /-- A comma or the end of the object is due. -/
  | expectedObjectEnd
  /-- A word other than `null`, `true` and `false`. -/
  | expectedWord
  | expectedValue
  /-- A backslash with no meaning. -/
  | invalidEscape
  | invalidNumber
  | numberOutOfRange
  /-- A string that is not UTF-8. -/
  | invalidText
  | controlCharacter
  /-- A member's name is due. -/
  | nameNotString
  /-- One half of a surrogate pair. -/
  | loneSurrogate
  /-- The first half of a surrogate pair without an escape after it. -/
  | pairCutShort
  | trailingComma
  | trailingCharacters
  deriving DecidableEq, Repr

/-- The wording of a flaw. -/
def Flaw.message : Flaw → String
  | .endInList => "EOF while parsing a list"
  | .endInObject => "EOF while parsing an object"
  | .endInString => "EOF while parsing a string"
  | .endInValue => "EOF while parsing a value"
  | .expectedColon => "expected `:`"
  | .expectedListEnd => "expected `,` or `]`"
  | .expectedObjectEnd => "expected `,` or `\x7d`"
  | .expectedWord => "expected ident"
  | .expectedValue => "expected value"
  | .invalidEscape => "invalid escape"
  | .invalidNumber => "invalid number"
  | .numberOutOfRange => "number out of range"
  | .invalidText => "invalid unicode code point"
  | .controlCharacter => "control character (\\u0000-\\u001F) found while parsing a string"
  | .nameNotString => "key must be a string"
  | .loneSurrogate => "lone leading surrogate in hex escape"
  | .pairCutShort => "unexpected end of hex escape"
  | .trailingComma => "trailing comma"
  | .trailingCharacters => "trailing characters"

/-- A flaw and the bytes that were unread when it was found. -/
structure Fault where
  flaw : Flaw
  rest : List UInt8
  deriving DecidableEq, Repr

/-- A place between two bytes of a document. -/
structure Position where
  /-- The number of the line, from one. -/
  line : Nat
  /-- The number of bytes on the line before the place. -/
  column : Nat
  deriving DecidableEq, Repr

/-- The place after one more byte. -/
def Position.step (position : Position) (byte : UInt8) : Position :=
  if byte == 0x0A then ⟨position.line + 1, 0⟩ else ⟨position.line, position.column + 1⟩

/-- The place in a document where its last bytes, `rest`, begin. -/
def Position.before (document rest : List UInt8) : Position :=
  (document.take (document.length - rest.length)).foldl Position.step ⟨1, 0⟩

/-- The wording of a place, to follow that of what is wrong there. -/
def Position.suffix (position : Position) : String :=
  " at line " ++ toString position.line ++ " column " ++ toString position.column

end Shortlink.Json
