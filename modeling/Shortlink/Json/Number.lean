import Shortlink.Json.Fault
import Shortlink.Decimal.Shortest

/-!
# Numbers inside a document

A number is read when its value is to be named in a message.  It stays an
integer as long as its digits fit into 64 bits; from the first digit that does
not, further digits only raise the exponent.  A fraction or an exponent makes it
a floating-point number, computed from the significand by one multiplication or
division by a power of ten at a time.

A number whose value does not matter is skipped, which only checks its form.
-/

namespace Shortlink.Json

/-- A fault found by looking at the next byte without taking it. -/
def Fault.ahead (flaw : Flaw) (bytes : List UInt8) : Fault :=
  ⟨flaw, bytes.tail⟩

/-- Whether a byte is a decimal digit. -/
def isDigit (byte : UInt8) : Bool :=
  0x30 ≤ byte && byte ≤ 0x39

/-- The value of a decimal digit. -/
def digitValue (byte : UInt8) : Nat :=
  byte.toNat - 0x30

/-- Whether a byte begins an exponent. -/
def isExponentMark (byte : UInt8) : Bool :=
  byte == 0x65 || byte == 0x45

/-- The bytes after the digits in front. -/
def skipDigits (bytes : List UInt8) : List UInt8 :=
  bytes.dropWhile isDigit

/-- The value of a number. -/
inductive Number
  /-- A number without fraction and exponent. -/
  | integer (value : Int)
  /-- Any other number. -/
  | float (value : Float)

/-- Takes digits as long as the value stays below 2^64: the value, how many
digits were taken, and the bytes after them. -/
def absorb (value taken : Nat) : List UInt8 → Nat × Nat × List UInt8
  | [] => (value, taken, [])
  | byte :: rest =>
      if isDigit byte && value * 10 + digitValue byte < UInt64.size then
        absorb (value * 10 + digitValue byte) (taken + 1) rest
      else (value, taken, byte :: rest)

/-- The double next to a power of ten. -/
def powerOfTen (exponent : Nat) : Float :=
  OfScientific.ofScientific 1 false exponent

/-- A significand times a power of ten, unless that is too large. -/
def scaled? (value : Float) (exponent : Int) : Option Float :=
  if exponent.natAbs ≤ 308 then
    if 0 ≤ exponent then
      let product := value * powerOfTen exponent.natAbs
      if product.isInf then none else some product
    else some (value / powerOfTen exponent.natAbs)
  else if value == 0.0 then some value
  else if 0 ≤ exponent then none
  else scaled? (value / powerOfTen 308) (exponent + 308)
termination_by exponent.natAbs
decreasing_by omega

/-- The floating-point number with the given sign, significand and exponent. -/
def floatOf (negative : Bool) (significand : Nat) (exponent : Int) (rest : List UInt8) :
    Except Fault (Number × List UInt8) :=
  match scaled? (UInt64.ofNat significand).toFloat exponent with
  | none => .error ⟨.numberOutOfRange, rest⟩
  | some value => .ok (.float (if negative then -value else value), rest)

/-- Reads the digits of an exponent to the right of digits whose value is
`value`; the exponent is `none` if it leaves 31 bits, and then the byte where it
did so was the last one taken. -/
def exponentDigits (value : Nat) : List UInt8 → Option Nat × List UInt8
  | [] => (some value, [])
  | byte :: rest =>
      if isDigit byte then
        if value * 10 + digitValue byte < UInt32.size / 2 then
          exponentDigits (value * 10 + digitValue byte) rest
        else (none, rest)
      else (some value, byte :: rest)

/-- Reads a number on behind the mark of its exponent. -/
def readExponent (negative : Bool) (significand : Nat) (exponent : Int) (bytes : List UInt8) :
    Except Fault (Number × List UInt8) :=
  let lowers := bytes.head? == some 0x2D
  let unsigned := if lowers || bytes.head? == some 0x2B then bytes.tail else bytes
  match unsigned with
  | [] => .error ⟨.endInValue, []⟩
  | byte :: rest =>
      if isDigit byte then
        match exponentDigits (digitValue byte) rest with
        | (some shift, rest) =>
            floatOf negative significand
              (if lowers then exponent - shift else exponent + shift) rest
        | (none, rest) =>
            if significand != 0 && !lowers then .error ⟨.numberOutOfRange, rest⟩
            else .ok (.float (if negative then -0.0 else 0.0), skipDigits rest)
      else .error ⟨.invalidNumber, rest⟩

/-- Reads a number on behind its integral digits and fraction. -/
def readAfterFraction (negative : Bool) (significand : Nat) (exponent : Int)
    (bytes : List UInt8) : Except Fault (Number × List UInt8) :=
  match bytes with
  | mark :: rest =>
      if isExponentMark mark then readExponent negative significand exponent rest
      else floatOf negative significand exponent bytes
  | [] => floatOf negative significand exponent bytes

/-- Reads a number on behind its point. -/
def readFraction (negative : Bool) (significand : Nat) (exponent : Int) (bytes : List UInt8) :
    Except Fault (Number × List UInt8) :=
  let (significand, taken, rest) := absorb significand 0 bytes
  if taken == 0 && !(rest.head?.any isDigit) then
    match rest with
    | [] => .error (.ahead .endInValue rest)
    | _ :: _ => .error (.ahead .invalidNumber rest)
  else readAfterFraction negative significand (exponent - taken) (skipDigits rest)

/-- Reads a number on behind its integral digits.  `dropped` digits did not fit
into the significand. -/
def readAfterInteger (negative : Bool) (significand dropped : Nat) (bytes : List UInt8) :
    Except Fault (Number × List UInt8) :=
  match bytes with
  | 0x2E :: rest => readFraction negative significand dropped rest
  | _ =>
      if bytes.head?.any isExponentMark then
        readExponent negative significand dropped bytes.tail
      else if dropped != 0 then floatOf negative significand dropped bytes
      else if !negative then .ok (.integer significand, bytes)
      else if significand == 0 || UInt64.size / 2 < significand then
        .ok (.float (-(UInt64.ofNat significand).toFloat), bytes)
      else .ok (.integer (-significand), bytes)

/-- Reads a number behind its sign. -/
def readNumber (negative : Bool) : List UInt8 → Except Fault (Number × List UInt8)
  | [] => .error ⟨.endInValue, []⟩
  | byte :: rest =>
      if byte == 0x30 then
        if rest.head?.any isDigit then .error (.ahead .invalidNumber rest)
        else readAfterInteger negative 0 0 rest
      else if isDigit byte then
        let (significand, _, rest) := absorb (digitValue byte) 0 rest
        let after := skipDigits rest
        readAfterInteger negative significand (rest.length - after.length) after
      else .error ⟨.invalidNumber, rest⟩

/-- The text of a floating-point number: its shortest digits, positional between
10^-5 and 10^16 and with an exponent elsewhere. -/
def showFloat (value : Float) : String :=
  let sign := if Decimal.hasMinus value.toBits then "-" else ""
  match Decimal.Binary.ofBits? value.toBits with
  | none => sign ++ "0.0"
  | some binary =>
      let decimal := binary.shortest .toEven
      let digits := decimal.significant
      let power := decimal.leadingPower
      let count : Int := digits.length
      sign ++ String.ofList (
        if -5 ≤ power && power < 0 then
          ['0', '.'] ++ List.replicate (-power - 1).toNat '0' ++ digits
        else if 0 ≤ power && power ≤ 15 then
          if count - 1 ≤ power then
            digits ++ List.replicate (power - count + 1).toNat '0' ++ ['.', '0']
          else digits.take (power + 1).toNat ++ ['.'] ++ digits.drop (power + 1).toNat
        else
          digits.take 1 ++ (if count == 1 then [] else '.' :: digits.drop 1) ++
            ['e', if power < 0 then '-' else '+'] ++ Nat.toDigits 10 power.natAbs)

/-- Skips an exponent behind its mark. -/
def skipExponent (bytes : List UInt8) : Except Fault (List UInt8) :=
  let unsigned :=
    if bytes.head? == some 0x2B || bytes.head? == some 0x2D then bytes.tail else bytes
  match unsigned with
  | [] => .error ⟨.invalidNumber, []⟩
  | byte :: rest =>
      if isDigit byte then .ok (skipDigits rest) else .error ⟨.invalidNumber, rest⟩

/-- Skips an exponent if there is one. -/
def skipExponentIfAny (bytes : List UInt8) : Except Fault (List UInt8) :=
  match bytes with
  | [] => .ok []
  | mark :: rest => if isExponentMark mark then skipExponent rest else .ok (mark :: rest)

/-- Skips what may follow the integral digits of a number. -/
def skipAfterInteger (bytes : List UInt8) : Except Fault (List UInt8) :=
  match bytes with
  | 0x2E :: rest =>
      match rest with
      | [] => .error ⟨.invalidNumber, []⟩
      | byte :: more =>
          if isDigit byte then skipExponentIfAny (skipDigits more)
          else .error ⟨.invalidNumber, more⟩
  | _ => skipExponentIfAny bytes

/-- Skips a number behind its sign. -/
def skipNumber : List UInt8 → Except Fault (List UInt8)
  | [] => .error ⟨.invalidNumber, []⟩
  | byte :: rest =>
      if byte == 0x30 then
        if rest.head?.any isDigit then .error (.ahead .invalidNumber rest)
        else skipAfterInteger rest
      else if isDigit byte then skipAfterInteger (skipDigits rest)
      else .error ⟨.invalidNumber, rest⟩

end Shortlink.Json
