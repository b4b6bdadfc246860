import Shortlink.Text.Utf8

/-!
# Base-62 numerals

Numbers below 2^64 are written in base 62 with the digits `0`–`9`, `a`–`z`,
`A`–`Z`, most significant digit first and without leading zeros.  Reading is
more lenient than writing: leading zeros are skipped, so a number has one
shortest numeral and infinitely many longer ones.
-/

namespace Shortlink.Base62

/-- The 62 digits in the order of their values. -/
def alphabet : List Char :=
  ['0', '1', '2', '3', '4', '5', '6', '7', '8', '9',
   'a', 'b', 'c', 'd', 'e', 'f', 'g', 'h', 'i', 'j', 'k', 'l', 'm',
   'n', 'o', 'p', 'q', 'r', 's', 't', 'u', 'v', 'w', 'x', 'y', 'z',
   'A', 'B', 'C', 'D', 'E', 'F', 'G', 'H', 'I', 'J', 'K', 'L', 'M',
   'N', 'O', 'P', 'Q', 'R', 'S', 'T', 'U', 'V', 'W', 'X', 'Y', 'Z']

/-- The digit of a value below 62. -/
def digit (value : Nat) : Char :=
  alphabet.getD value '0'

/-- The value of a byte as a digit, if it is one. -/
def digitValue? (byte : UInt8) : Option Nat :=
  if 0x30 ≤ byte && byte ≤ 0x39 then some (byte.toNat - 0x30)
  else if 0x61 ≤ byte && byte ≤ 0x7A then some (byte.toNat - 0x61 + 10)
  else if 0x41 ≤ byte && byte ≤ 0x5A then some (byte.toNat - 0x41 + 36)
  else none

/-- Whether a byte is a digit. -/
def isDigit (byte : UInt8) : Bool :=
  (digitValue? byte).isSome

/-- Whether a text is a numeral: not empty, and digits throughout. -/
def isNumeral (text : String) : Bool :=
  !text.isEmpty && (Utf8.ofString text).all isDigit

/-- Writes the digits of `number` in front of `written`. -/
def digitsOnto (written : List Char) (number : Nat) : List Char :=
  if number < 62 then digit number :: written
  else digitsOnto (digit (number % 62) :: written) (number / 62)
termination_by number

/-- The digits of a number, most significant first. -/
def digits (number : Nat) : List Char :=
  digitsOnto [] number

/-- The shortest numeral of a number. -/
def encode (number : UInt64) : String :=
  String.ofList (digits number.toNat)

/-- Why a text does not denote a number. -/
inductive DecodeError
  | empty
  /-- The text holds a byte that is no digit, the first of which is named. -/
  | foreign (byte : UInt8) (text : String)
  /-- The digits read so far denote a number of 2^64 or more. -/
  | overflow (text : String)
  deriving DecidableEq, Repr

/-- Reads digits to the right of digits whose value is `value`. -/
def decodeFrom (text : String) (value : UInt64) : List UInt8 → Except DecodeError UInt64
  | [] => .ok value
  | byte :: rest =>
      match digitValue? byte with
      | none => .error (.foreign byte text)
      | some digit =>
          if h : value.toNat * 62 + digit < UInt64.size then
            decodeFrom text (UInt64.ofNatLT (value.toNat * 62 + digit) h) rest
          else .error (.overflow text)

/-- The number that a numeral denotes.  Of two things wrong with a text, the one
met first from the left is reported. -/
def decode (text : String) : Except DecodeError UInt64 :=
  if text.isEmpty then .error .empty
  else decodeFrom text 0 (Utf8.ofString text)

/-- A lower-case hexadecimal digit. -/
def hexDigit (value : Nat) : Char :=
  ['0', '1', '2', '3', '4', '5', '6', '7', '8', '9', 'a', 'b', 'c', 'd', 'e', 'f'].getD value '0'

/-- A byte as it is shown in a message: printable ASCII as it is, a few escapes
by letter, and every other byte by its two hexadecimal digits. -/
def showByte (byte : UInt8) : String :=
  if byte == 0x09 then "\\t"
  else if byte == 0x0A then "\\n"
  else if byte == 0x0D then "\\r"
  else if byte == 0x22 then "\\\""
  else if byte == 0x27 then "\\'"
  else if byte == 0x5C then "\\\\"
  else if 0x20 ≤ byte && byte < 0x7F then String.singleton (Char.ofNat byte.toNat)
  else "\\x" ++ String.ofList [hexDigit (byte.toNat / 16), hexDigit (byte.toNat % 16)]

/-- The wording of a reading failure. -/
def DecodeError.message : DecodeError → String
  | .empty => "short code cannot be empty"
  | .foreign byte text => "'" ++ showByte byte ++ "' is not a base62 character in '" ++ text ++ "'"
  | .overflow text => "'" ++ text ++ "' overflows u64"

end Shortlink.Base62
