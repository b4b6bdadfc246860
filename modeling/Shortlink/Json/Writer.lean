import Shortlink.Text.Quoted

/-!
# Writing documents

Documents are written without blanks.  A string escapes quotes, backslashes and
the controls below U+0020, and leaves every other character as it is.
-/

namespace Shortlink.Json

/-- How one character is written between the quotes of a string. -/
def writtenCharacter (character : Char) : List Char :=
  if character = '"' then ['\\', '"']
  else if character = '\\' then ['\\', '\\']
  else if character = '\x08' then ['\\', 'b']
  else if character = '\t' then ['\\', 't']
  else if character = '\n' then ['\\', 'n']
  else if character = '\x0c' then ['\\', 'f']
  else if character = '\r' then ['\\', 'r']
  else if character.toNat < 0x20 then
    let number := character.toNat
    ['\\', 'u', '0', '0', Nat.digitChar (number / 16), Nat.digitChar (number % 16)]
  else [character]

def string (text : String) : String :=
  String.ofList (['"'] ++ text.toList.flatMap writtenCharacter ++ ['"'])

def natural (number : Nat) : String :=
  toString number

def list (items : List String) : String :=
  "[" ++ ",".intercalate items ++ "]"

/-- An object, given the name and the document of each member. -/
def object (members : List (String × String)) : String :=
  "\x7b" ++ ",".intercalate (members.map fun (name, value) => string name ++ ":" ++ value) ++ "\x7d"

end Shortlink.Json
