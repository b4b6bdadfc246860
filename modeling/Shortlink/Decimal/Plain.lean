import Shortlink.Decimal.Numeral
import Shortlink.Decimal.Shortest

/-!
# Floating-point numbers in plain notation

Floating-point numbers are read with or without a point and an exponent, and
written with neither an exponent nor a point that nothing follows.
-/

namespace Shortlink.Decimal

/-- A decimal as it is read: all digits as one number, and the power of ten of the
last one. -/
structure Significand where
  /-- The digits as a natural number. -/
  digits : Nat
  /-- How many digits there are. -/
  count : Nat
  /-- How many of them stand behind the point. -/
  behindPoint : Nat
  deriving DecidableEq, Repr

/-- The number that digits spell, all of which are known to be digits. -/
def digitsValue (digits : List Char) : Nat :=
  digits.foldl (fun value digit => value * 10 + (digitValue? digit).getD 0) 0

/-- Whether a character is a digit. -/
def isDigit (character : Char) : Bool :=
  (digitValue? character).isSome

/-- Takes the digits in front, with a point among them. -/
def takeSignificand (characters : List Char) : Significand × List Char :=
  let before := characters.takeWhile isDigit
  let (behind, rest) := match characters.dropWhile isDigit with
    | '.' :: rest => (rest.takeWhile isDigit, rest.dropWhile isDigit)
    | rest => ([], rest)
  ({ digits := digitsValue (before ++ behind)
     count := before.length + behind.length
     behindPoint := behind.length }, rest)

/-- Reads an exponent, or nothing at all. -/
def readExponent? : List Char → Option Int
  | [] => some 0
  | mark :: rest =>
      let (negative, digits) := match rest with
        | '-' :: digits => (true, digits)
        | '+' :: digits => (false, digits)
        | digits => (false, digits)
      if (mark = 'e' || mark = 'E') && !digits.isEmpty && digits.all isDigit then
        some (if negative then -(digitsValue digits : Int) else digitsValue digits)
      else none

/-- The floating-point number next to a decimal. -/
def nearestFloat (significand : Significand) (exponent : Int) : Float :=
  let power := exponent - significand.behindPoint
  if significand.digits = 0 || power < -400 - significand.count then 0.0
  else if 400 < power then 1.0 / 0.0
  else OfScientific.ofScientific significand.digits (power < 0) power.natAbs

/-- Reads a number without a sign. -/
def readMagnitude? (characters : List Char) : Option Float :=
  let word := String.ofList (characters.map Char.toLower)
  if word = "inf" || word = "infinity" then some (1.0 / 0.0)
  else if word = "nan" then some (0.0 / 0.0)
  else
    let (significand, rest) := takeSignificand characters
    if significand.count = 0 then none
    else (readExponent? rest).map (nearestFloat significand)

def readFloat? (text : String) : Option Float :=
  match text.toList with
  | '-' :: rest => (readMagnitude? rest).map fun magnitude => -magnitude
  | '+' :: rest => readMagnitude? rest
  | characters => readMagnitude? characters

/-- The digits of a decimal in plain notation. -/
def Scaled.plain (decimal : Scaled) : List Char :=
  let digits := decimal.significant
  let power := decimal.leadingPower
  let count : Int := digits.length
  if power < 0 then ['0', '.'] ++ List.replicate (-power - 1).toNat '0' ++ digits
  else if count - 1 ≤ power then digits ++ List.replicate (power - count + 1).toNat '0'
  else digits.take (power + 1).toNat ++ ['.'] ++ digits.drop (power + 1).toNat

/-- A number in plain notation. -/
def showPlain (value : Float) : String :=
  if value.isNaN then "NaN"
  else
    let sign := if hasMinus value.toBits then "-" else ""
    sign ++ (if value.isInf then "inf" else
      match Binary.ofBits? value.toBits with
      | none => "0"
      | some binary => String.ofList (binary.shortest .up).plain)

end Shortlink.Decimal
