import Shortlink.ShortCode
import Shortlink.Json.Rejection
import Shortlink.Json.Writer

/-!
# Short codes as documents

A code is written as a string.  A document is read as a code when it is a single
string whose text parses as one.
-/

namespace Shortlink.ShortCode

/-- Why a document is no code. -/
inductive JsonError
  /-- It is not a document that consists of a string. -/
  | rejected (rejection : Json.Rejection)
  /-- The string is no code. -/
  | unparsable (error : ParseError)

/-- The wording of a failure to read a document as a code. -/
def JsonError.message (document : List UInt8) : JsonError → String
  | .rejected rejection => rejection.message document
  | .unparsable error => error.toKeyError.message

/-- The document of a code. -/
def toJson (code : ShortCode) : String :=
  Json.string code.text

/-- The code that a document holds. -/
def ofJson (document : List UInt8) : Except JsonError ShortCode := do
  let (text, rest) ← (Json.expectText document).mapError .rejected
  let code ← (parse text).mapError .unparsable
  (Json.expectEnd rest).mapError .rejected
  return code

end Shortlink.ShortCode
