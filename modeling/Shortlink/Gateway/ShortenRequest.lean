import Shortlink.Json.Rejection

/-!
# The body of a request to shorten a URL

The body is an object with exactly one member `url`, a string, and any other
members, whose values are skipped; or it is a list of exactly one string.
-/

namespace Shortlink.Gateway.ShortenRequest

open Json (Flaw Part Rejection)

/-- The shape that a body has to have, as it is called in messages. -/
def expected : String := "struct ShortenRequest"

/-- The member that holds the URL. -/
def urlName : String := "url"

/-- A rejection of bytes that are no document. -/
def malformed (flaw : Flaw) (rest : List UInt8) : Rejection :=
  { problem := .malformed flaw, rest := rest }

/-- What follows the opening brace, or a member. -/
inductive NameOrEnd
  /-- The name of a member. -/
  | name (text : String) (rest : List UInt8)
  /-- The closing brace. -/
  | close (rest : List UInt8)

/-- Reads a name after its opening quote. -/
def nameAfterQuote (rest : List UInt8) : Except Rejection NameOrEnd :=
  match Json.readText rest with
  | .ok (text, rest) => .ok (.name text rest)
  | .error fault => .error fault.toRejection

/-- Reads the first name of an object, or its end. -/
def firstName (bytes : List UInt8) : Except Rejection NameOrEnd :=
  match Json.skipBlanks bytes with
  | [] => .error (malformed .endInObject [])
  | first :: rest =>
      if first == 0x7D then .ok (.close rest)
      else if first == 0x22 then nameAfterQuote rest
      else .error (malformed .nameNotString rest)

/-- Reads the name after a comma. -/
def nameAfterComma (bytes : List UInt8) : Except Rejection NameOrEnd :=
  match Json.skipBlanks bytes with
  | [] => .error (malformed .endInValue [])
  | first :: rest =>
      if first == 0x22 then nameAfterQuote rest
      else if first == 0x7D then .error (malformed .trailingComma rest)
      else .error (malformed .nameNotString rest)

/-- Reads the name of a further member, or the end of the object. -/
def nextName (bytes : List UInt8) : Except Rejection NameOrEnd :=
  match Json.skipBlanks bytes with
  | [] => .error (malformed .endInObject [])
  | first :: rest =>
      if first == 0x7D then .ok (.close rest)
      else if first == 0x2C then nameAfterComma rest
      else .error (malformed .expectedObjectEnd rest)

/-- Takes the colon after a name. -/
def takeColon (bytes : List UInt8) : Except Rejection (List UInt8) :=
  match Json.skipBlanks bytes with
  | [] => .error (malformed .endInObject [])
  | first :: rest =>
      if first == 0x3A then .ok rest else .error (malformed .expectedColon rest)

/-- Where the end of the object is looked for once it has been found unfit: after
the blanks, and after the closing brace if it is next. -/
def closeIfNext (bytes : List UInt8) : List UInt8 :=
  match Json.skipBlanks bytes with
  | 0x7D :: rest => rest
  | left => left

/-- Reads the colon and the value of a member.  The URL is the one found so far
or, in the member of that name, the value itself.  Only what is wrong with the value
is reported as part of the member. -/
def memberValue (url? : Option String) (name : String) (bytes : List UInt8) :
    Except Rejection (Option String × List UInt8) :=
  if name = urlName then
    match url? with
    | some _ =>
        .error { problem := .mismatch (.duplicate urlName), rest := closeIfNext bytes }
    | none =>
        match takeColon bytes with
        | .error rejection => .error rejection
        | .ok rest =>
            match Json.expectText rest with
            | .error rejection => .error (rejection.inside (.member name))
            | .ok (url, rest) => .ok (some url, rest)
  else
    match takeColon bytes with
    | .error rejection => .error rejection
    | .ok rest =>
        match Json.skipValue rest with
        | .error fault => .error (fault.toRejection.inside (.member name))
        | .ok rest => .ok (url?, rest)

/-- The bytes after a name or an end. -/
def NameOrEnd.rest : NameOrEnd → List UInt8
  | .name _ left | .close left => left

/-- A name takes at least its closing quote. -/
theorem length_lt_of_nameAfterQuote {bytes : List UInt8} {next : NameOrEnd}
    (read : nameAfterQuote bytes = .ok next) : next.rest.length < bytes.length := by
  unfold nameAfterQuote at read
  split at read
  · rename_i text rest result
    simp only [Except.ok.injEq] at read
    subst read
    exact Json.length_lt_of_readTextOnto result
  · simp at read

/-- What follows a member takes at least one byte. -/
theorem length_lt_of_nextName {bytes : List UInt8} {next : NameOrEnd}
    (read : nextName bytes = .ok next) : next.rest.length < bytes.length := by
  have fewer := Json.length_skipBlanks_le bytes
  unfold nextName at read
  split at read
  · simp at read
  · rename_i first rest blanks
    rw [blanks, List.length_cons] at fewer
    repeat' split at read
    · simp only [Except.ok.injEq] at read
      subst read
      simp only [NameOrEnd.rest]
      omega
    · unfold nameAfterComma at read
      have again := Json.length_skipBlanks_le rest
      split at read
      · simp at read
      · rename_i second left spaces
        rw [spaces, List.length_cons] at again
        repeat' split at read
        · have := length_lt_of_nameAfterQuote read
          omega
        · simp at read
        · simp at read
    · simp at read

/-- A colon takes one byte. -/
theorem length_lt_of_takeColon {bytes rest : List UInt8} (taken : takeColon bytes = .ok rest) :
    rest.length < bytes.length := by
  have fewer := Json.length_skipBlanks_le bytes
  unfold takeColon at taken
  split at taken
  · simp at taken
  · rename_i first left blanks
    rw [blanks, List.length_cons] at fewer
    split at taken
    · simp only [Except.ok.injEq] at taken
      subst taken
      omega
    · simp at taken

/-- The value of a member takes at least one byte. -/
theorem length_lt_of_memberValue {url? found : Option String} {name : String}
    {bytes rest : List UInt8} (read : memberValue url? name bytes = .ok (found, rest)) :
    rest.length < bytes.length := by
  unfold memberValue at read
  split at read
  · split at read
    · simp at read
    · split at read
      · simp at read
      · rename_i left colon
        have := length_lt_of_takeColon colon
        split at read
        · simp at read
        · rename_i url after text
          simp only [Except.ok.injEq, Prod.mk.injEq] at read
          obtain ⟨-, rfl⟩ := read
          have := Json.length_lt_of_expectText text
          omega
  · split at read
    · simp at read
    · rename_i left colon
      have := length_lt_of_takeColon colon
      split at read
      · simp at read
      · rename_i after skipped
        simp only [Except.ok.injEq, Prod.mk.injEq] at read
        obtain ⟨-, rfl⟩ := read
        have := Json.length_le_of_skipFrom skipped
        omega

/-- The URL of an object that has ended. -/
def finish (url? : Option String) (rest : List UInt8) :
    Except Rejection (String × List UInt8) :=
  match url? with
  | some url => .ok (url, rest)
  | none => .error { problem := .mismatch (.missing urlName), rest := rest }

/-- Reads the value of a member whose name has been read, and all members after it. -/
def members (url? : Option String) (name : String) (bytes : List UInt8) :
    Except Rejection (String × List UInt8) :=
  match value : memberValue url? name bytes with
  | .error rejection => .error rejection
  | .ok (url?, left) =>
      match next : nextName left with
      | .error rejection => .error rejection
      | .ok (.close rest) => finish url? rest
      | .ok (.name name rest) =>
          have : rest.length < bytes.length :=
            Nat.lt_trans (length_lt_of_nextName next) (length_lt_of_memberValue value)
          members url? name rest
termination_by bytes.length

/-- Reads an object after its opening brace. -/
def object (bytes : List UInt8) : Except Rejection (String × List UInt8) :=
  match firstName bytes with
  | .error rejection => .error rejection
  | .ok (.close rest) => finish none rest
  | .ok (.name name rest) => members none name rest

/-- Takes the end of a list after its element. -/
def listEnd (bytes : List UInt8) : Except Rejection (List UInt8) :=
  match Json.skipBlanks bytes with
  | [] => .error (malformed .endInList [])
  | first :: rest =>
      if first == 0x5D then .ok rest
      else if first == 0x2C then
        match Json.skipBlanks rest with
        | 0x5D :: left => .error (malformed .trailingComma left)
        | left => .error (malformed .trailingCharacters left.tail)
      else .error (malformed .trailingCharacters rest)

/-- Reads a list after its opening bracket. -/
def list (bytes : List UInt8) : Except Rejection (String × List UInt8) :=
  match Json.skipBlanks bytes with
  | [] => .error (malformed .endInList [])
  | first :: rest =>
      if first == 0x5D then
        .error { problem := .mismatch (.length 0 (expected ++ " with 1 element")), rest := rest }
      else match Json.expectText (first :: rest) with
        | .error rejection => .error (rejection.inside (.element 0))
        | .ok (url, rest) => (listEnd rest).map fun rest => (url, rest)

/-- Reads a body without looking at what comes after it. -/
def value (bytes : List UInt8) : Except Rejection (String × List UInt8) :=
  match Json.skipBlanks bytes with
  | [] => .error (malformed .endInValue [])
  | first :: rest =>
      if first == 0x5B then list rest
      else if first == 0x7B then object rest
      else .error (Json.unexpected expected first rest)

/-- The URL that a body asks to shorten. -/
def read (body : List UInt8) : Except Rejection String := do
  let (url, rest) ← value body
  Json.expectEnd rest
  return url

/-- The wording of a rejection of a body. -/
def rejectionMessage (body : List UInt8) (rejection : Rejection) : String :=
  (if rejection.problem.isMismatch then
    "Failed to deserialize the JSON body into the target type: "
  else "Failed to parse the request body as JSON: ") ++ rejection.message body

end Shortlink.Gateway.ShortenRequest
