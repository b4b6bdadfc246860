/-!
# The shortest decimal of a floating-point number

Every finite positive binary number is `significand * 2 ^ exponent`.  The reals
that round to it form an interval around it, and the decimal chosen here is the
one of that interval with the fewest digits, and of those the nearest.  Of two that
are equally near, a tie rule takes one.  All comparisons are made exactly, in natural
numbers.
-/

namespace Shortlink.Decimal

/-- A positive binary number, exactly. -/
structure Binary where
  /-- The integral significand, below 2^53. -/
  significand : Nat
  /-- The power of two that it is multiplied by. -/
  exponent : Int
  /-- Whether the next smaller number is only half as far away as the next larger one. -/
  narrowBelow : Bool
  deriving DecidableEq, Repr

/-- A positive decimal number: its digits read as a natural number, and the
power of ten of the last one. -/
structure Scaled where
  /-- The digits as a natural number. -/
  digits : Nat
  /-- The power of ten that they are multiplied by. -/
  power : Int
  deriving DecidableEq, Repr

/-- The significand of a double has one more bit than is written, which is its first
one: the 53rd. -/
def unwrittenBit : Nat := 0x10000000000000

/-- How many exponents can be written in a double. -/
def exponentCount : Nat := 0x800

/-- Whether a double, given by its bits, has a minus sign. -/
def hasMinus (bits : UInt64) : Bool :=
  0x8000000000000000 ≤ bits

/-- The binary number that is written in the low 63 bits of a double, unless
those bits stand for zero, infinity or no number. -/
def Binary.ofBits? (bits : UInt64) : Option Binary :=
  let fraction : Nat := bits.toNat % unwrittenBit
  let biased : Nat := bits.toNat / unwrittenBit % exponentCount
  if biased == 2047 then none
  else if biased == 0 then
    if fraction == 0 then none else some ⟨fraction, -1074, false⟩
  else some ⟨unwrittenBit + fraction, (biased : Int) - 1075, fraction == 0 && biased != 1⟩

/-- The ratio of `quarters * 2 ^ exponent / 4` to `10 ^ power`, as numerator and denominator. -/
def ratio (quarters : Nat) (exponent power : Int) : Nat × Nat :=
  (quarters * Nat.pow 2 exponent.toNat * Nat.pow 10 (-power).toNat,
    4 * Nat.pow 2 (-exponent).toNat * Nat.pow 10 power.toNat)

/-- The power of ten of the leading digit. -/
def Binary.leadingPower (binary : Binary) : Int :=
  let (numerator, denominator) := ratio (4 * binary.significand) binary.exponent (-400)
  ((Nat.toDigits 10 (numerator / denominator)).length : Int) - 401

/-- Whether a decimal rounds to the binary number. -/
def Binary.holds (binary : Binary) (decimal : Scaled) : Bool :=
  let even := binary.significand % 2 == 0
  let middle := 4 * binary.significand
  let low := ratio (if binary.narrowBelow then middle - 1 else middle - 2)
    binary.exponent decimal.power
  let high := ratio (middle + 2) binary.exponent decimal.power
  let scaledLow := decimal.digits * low.2
  let scaledHigh := decimal.digits * high.2
  if even then low.1 ≤ scaledLow && scaledHigh ≤ high.1
  else low.1 < scaledLow && scaledHigh < high.1

/-- Which of two decimals is taken that are equally near. -/
inductive Tie
  /-- The one whose last digit is even. -/
  | toEven
  /-- The larger one. -/
  | up
  deriving DecidableEq, Repr

/-- The nearest decimal that rounds to the binary number among those whose last
digit has the given power of ten. -/
def Binary.nearest? (binary : Binary) (tie : Tie) (power : Int) : Option Scaled :=
  let (numerator, denominator) := ratio (4 * binary.significand) binary.exponent power
  let below : Scaled := ⟨numerator / denominator, power⟩
  let above : Scaled := ⟨numerator / denominator + 1, power⟩
  let remainder := numerator % denominator
  let belowFirst := 2 * remainder < denominator ||
    (2 * remainder == denominator && tie == .toEven && below.digits % 2 == 0)
  let ordered := if belowFirst then [below, above] else [above, below]
  ordered.find? fun decimal => decimal.digits != 0 && binary.holds decimal

/-- Tries one digit, then two, and so on, `fuel` times. -/
def Binary.search (binary : Binary) (tie : Tie) (power : Int) : Nat → Scaled
  | 0 => ⟨0, power⟩
  | fuel + 1 =>
      match binary.nearest? tie power with
      | some decimal => decimal
      | none => binary.search tie (power - 1) fuel

/-- The shortest decimal that rounds to the binary number.  Seventeen digits
always suffice. -/
def Binary.shortest (binary : Binary) (tie : Tie) : Scaled :=
  binary.search tie binary.leadingPower 17

/-- The significant digits of a decimal, without trailing zeros. -/
def Scaled.significant (decimal : Scaled) : List Char :=
  ((Nat.toDigits 10 decimal.digits).reverse.dropWhile (· == '0')).reverse

/-- The power of ten of the first digit of a decimal. -/
def Scaled.leadingPower (decimal : Scaled) : Int :=
  decimal.power + (Nat.toDigits 10 decimal.digits).length - 1

end Shortlink.Decimal
