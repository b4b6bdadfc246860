import Shortlink.Decimal.Numeral
import Shortlink.Text.Quoted
import Shortlink.Text.Split

/-!
# Addresses

Addresses of the Internet Protocol in their two versions, as texts and as numbers,
and the addresses of ports.
-/

namespace Shortlink.Net

/-- An address of version 4: four octets. -/
structure IPv4 where
  first : UInt8
  second : UInt8
  third : UInt8
  fourth : UInt8
  deriving DecidableEq, Repr

/-- An address of version 6: eight groups of 16 bits. -/
structure IPv6 where
  groups : List UInt16
  length_eq : groups.length = 8
  deriving DecidableEq, Repr

/-- An address of either version. -/
inductive Address
  | v4 (address : IPv4)
  | v6 (address : IPv6)
  deriving DecidableEq, Repr

/-- The wording of a text that is no address. -/
def addressSyntaxMessage : String := "invalid IP address syntax"

/-- The value of a digit in hexadecimal. -/
def hexadecimalValue? (character : Char) : Option Nat :=
  if '0' ≤ character ∧ character ≤ '9' then some (character.toNat - '0'.toNat)
  else if 'a' ≤ character ∧ character ≤ 'f' then some (character.toNat - 'a'.toNat + 10)
  else if 'A' ≤ character ∧ character ≤ 'F' then some (character.toNat - 'A'.toNat + 10)
  else none

/-- The number that digits spell. -/
def numberOf? (base : Nat) (value? : Char → Option Nat) (digits : List Char) : Option Nat :=
  digits.foldlM (fun number digit => (value? digit).map (number * base + ·)) 0

/-- Reads an octet: one to three digits without leading zeros. -/
def readOctet? (digits : List Char) : Option UInt8 :=
  if digits.isEmpty || 3 < digits.length || (digits.head? = some '0' && 1 < digits.length) then none
  else match numberOf? 10 Decimal.digitValue? digits with
  | some number => if number < 256 then some number.toUInt8 else none
  | none => none

/-- Reads an address of version 4. -/
def readIPv4? (characters : List Char) : Option IPv4 :=
  match (Text.split '.' characters).mapM readOctet? with
  | some [first, second, third, fourth] => some { first, second, third, fourth }
  | _ => none

/-- Reads a group: one to four digits. -/
def readGroup? (digits : List Char) : Option UInt16 :=
  if digits.isEmpty || 4 < digits.length then none
  else (numberOf? 16 hexadecimalValue? digits).map Nat.toUInt16

/-- The two groups that an address of version 4 takes up. -/
def IPv4.groups (address : IPv4) : List UInt16 :=
  [address.first.toUInt16 * 256 + address.second.toUInt16,
    address.third.toUInt16 * 256 + address.fourth.toUInt16]

/-- Reads groups from their pieces.  The last piece may be an address of version
4. -/
def readPieces? : List (List Char) → Option (List UInt16)
  | [] => some []
  | [piece] =>
      match readIPv4? piece with
      | some address => some address.groups
      | none => (readGroup? piece).map ([·])
  | piece :: pieces => do
      let group ← readGroup? piece
      let groups ← readPieces? pieces
      return group :: groups

/-- Reads groups with colons between them, or nothing at all. -/
def readGroups? (characters : List Char) : Option (List UInt16) :=
  if characters.isEmpty then some [] else readPieces? (Text.split ':' characters)

/-- Reads groups, all of which are written as such. -/
def readPlainGroups? (characters : List Char) : Option (List UInt16) :=
  if characters.isEmpty then some [] else (Text.split ':' characters).mapM readGroup?

/-- What stands before and after the first pair of colons. -/
def cutAtGap? : List Char → Option (List Char × List Char)
  | ':' :: ':' :: rest => some ([], rest)
  | character :: rest =>
      (cutAtGap? rest).map fun (before, after) => (character :: before, after)
  | [] => none

/-- An address of eight groups. -/
def IPv6.ofGroups? (groups : List UInt16) : Option IPv6 :=
  if h : groups.length = 8 then some ⟨groups, h⟩ else none

/-- Reads an address of version 6.  A pair of colons stands for one or more groups
of zero, as many as are missing. -/
def readIPv6? (characters : List Char) : Option IPv6 := do
  match cutAtGap? characters with
  | none => IPv6.ofGroups? (← readGroups? characters)
  | some (before, after) =>
      let before ← readPlainGroups? before
      let after ← readGroups? after
      if before.length + after.length < 8 then
        IPv6.ofGroups?
          (before ++ List.replicate (8 - before.length - after.length) 0 ++ after)
      else none

def Address.parse? (text : String) : Option Address :=
  match readIPv4? text.toList with
  | some address => some (.v4 address)
  | none => (readIPv6? text.toList).map .v6

/-- The text of an address of version 4. -/
def IPv4.text (address : IPv4) : String :=
  ".".intercalate ([address.first, address.second, address.third, address.fourth].map
    fun octet => toString octet.toNat)

/-- How many groups of zero there are from a place on. -/
def zerosFrom (groups : List UInt16) (start : Nat) : Nat :=
  ((groups.drop start).takeWhile (· == 0)).length

/-- The start and the length of the longest run of zeros, the first one if there
are several. -/
def longestZeros (groups : List UInt16) : Nat × Nat :=
  (List.range groups.length).foldl (fun best start =>
    if best.snd < zerosFrom groups start then (start, zerosFrom groups start) else best) (0, 0)

def groupsText (groups : List UInt16) : String :=
  ":".intercalate (groups.map fun group => String.ofList (Text.hex group.toNat))

/-- The address of version 4 that an address of version 6 stands for, if it is of
the form for this. -/
def IPv6.mapped? (address : IPv6) : Option IPv4 :=
  match address.groups with
  | [0, 0, 0, 0, 0, 0xFFFF, high, low] =>
      some
        { first := (high / 256).toUInt8
          second := high.toUInt8
          third := (low / 256).toUInt8
          fourth := low.toUInt8 }
  | _ => none

/-- The text of an address of version 6.  The longest run of two or more zeros is
left out. -/
def IPv6.text (address : IPv6) : String :=
  match address.mapped? with
  | some mapped => "::ffff:" ++ mapped.text
  | none =>
      let (start, length) := longestZeros address.groups
      if length ≤ 1 then groupsText address.groups
      else groupsText (address.groups.take start) ++ "::" ++
        groupsText (address.groups.drop (start + length))

/-- The text of an address. -/
def Address.text : Address → String
  | .v4 address => address.text
  | .v6 address => address.text

/-- The address that stands for all addresses of this machine. -/
def Address.unspecified : Address := .v4 ⟨0, 0, 0, 0⟩

/-- The address of a port. -/
structure SocketAddress where
  /-- The address of the machine. -/
  host : Address
  port : UInt16
  deriving DecidableEq, Repr

/-- The text of the address of a port. -/
def SocketAddress.text (address : SocketAddress) : String :=
  match address.host with
  | .v4 host => host.text ++ ":" ++ toString address.port.toNat
  | .v6 host => "[" ++ host.text ++ "]:" ++ toString address.port.toNat

end Shortlink.Net
