import Shortlink.Text.Formless

/-!
# Quoted text

The spelling of a text inside double quotes that is used wherever a value is
shown for inspection.  Quotes and backslashes are escaped, the common controls
have letters, and every other character without a form of its own is spelled
by its number.
-/

namespace Shortlink.Text

/-- The hexadecimal digits of a number, in lower case and without leading
zeros, written in front of `written`. -/
def hexOnto (written : List Char) (number : Nat) : List Char :=
  let digit := Nat.digitChar (number % 16)
  if number < 16 then digit :: written
  else hexOnto (digit :: written) (number / 16)
termination_by number

/-- A number in lower-case hexadecimal. -/
def hex (number : Nat) : List Char :=
  hexOnto [] number

/-- How one character is spelled between the quotes. -/
def quotedCharacter (character : Char) : List Char :=
  if character = '\x00' then ['\\', '0']
  else if character = '\t' then ['\\', 't']
  else if character = '\n' then ['\\', 'n']
  else if character = '\r' then ['\\', 'r']
  else if character = '"' then ['\\', '"']
  else if character = '\\' then ['\\', '\\']
  else if isFormless character then
    ['\\', 'u', '\x7b'] ++ hex character.toNat ++ ['\x7d']
  else [character]

/-- A text in double quotes. -/
def quote (text : String) : String :=
  String.ofList (['"'] ++ text.toList.flatMap quotedCharacter ++ ['"'])

end Shortlink.Text
