/-!
# Decimal numerals

Reading numbers that must stay within a limit.  A plus sign may stand in front of
any numeral, a minus sign only where negative numbers are possible at all.  A
numeral is read from the left, and the first thing wrong with it is reported.
-/

namespace Shortlink.Decimal

/-- Why a text is no number. -/
inductive NumeralError
  | empty
  /-- It has something else than a digit where a digit is due. -/
  | digit
  | tooLarge
  | tooSmall
  deriving DecidableEq, Repr

/-- The wording of a failure. -/
def NumeralError.message : NumeralError → String
  | .empty => "cannot parse integer from empty string"
  | .digit => "invalid digit found in string"
  | .tooLarge => "number too large to fit in target type"
  | .tooSmall => "number too small to fit in target type"

/-- The value of a digit. -/
def digitValue? (character : Char) : Option Nat :=
  if '0' ≤ character ∧ character ≤ '9' then some (character.toNat - '0'.toNat) else none

/-- Reads digits to the right of digits whose value is `value`, as long as the
value stays within `limit`. -/
def readDigits (limit : Nat) (overflow : NumeralError) (value : Nat) :
    List Char → Except NumeralError Nat
  | [] => .ok value
  | character :: rest =>
      match digitValue? character with
      | none => .error .digit
      | some digit =>
          if value * 10 + digit ≤ limit then
            readDigits limit overflow (value * 10 + digit) rest
          else .error overflow

/-- Reads one digit or more. -/
def readMagnitude (limit : Nat) (overflow : NumeralError) (digits : List Char) :
    Except NumeralError Nat :=
  if digits.isEmpty then .error .digit else readDigits limit overflow 0 digits

/-- A numeral without the plus sign in front of it. -/
def withoutPlus : List Char → List Char
  | '+' :: digits => digits
  | digits => digits

/-- Reads a number of 64 bits without a sign bit. -/
def readUnsigned (text : String) : Except NumeralError UInt64 :=
  match text.toList with
  | [] => .error .empty
  | characters =>
      (readMagnitude (UInt64.size - 1) .tooLarge (withoutPlus characters)).map UInt64.ofNat

/-- Reads a number of 64 bits with a sign bit. -/
def readSigned (text : String) : Except NumeralError Int :=
  match text.toList with
  | [] => .error .empty
  | '-' :: digits =>
      (readMagnitude (UInt64.size / 2) .tooSmall digits).map fun magnitude => -magnitude
  | characters =>
      (readMagnitude (UInt64.size / 2 - 1) .tooLarge (withoutPlus characters)).map Int.ofNat

end Shortlink.Decimal
