import Shortlink.Text.Utf8

/-!
# Percent-encoding

A byte may be written as a percent sign and two hexadecimal digits.  A percent
sign that is not followed by two such digits stands for itself.
-/

namespace Shortlink.Http

/-- The value of a hexadecimal digit of either case. -/
def hexValue? (byte : UInt8) : Option UInt8 :=
  if 0x30 ≤ byte && byte ≤ 0x39 then some (byte - 0x30)
  else if 0x41 ≤ byte && byte ≤ 0x46 then some (byte - 0x37)
  else if 0x61 ≤ byte && byte ≤ 0x66 then some (byte - 0x57)
  else none

/-- The byte that three bytes spell, if they are an escape. -/
def escaped? (sign high low : UInt8) : Option UInt8 :=
  if sign == 0x25 then
    match hexValue? high, hexValue? low with
    | some high, some low => some (16 * high + low)
    | _, _ => none
  else none

/-- Replaces each escape by the byte that it spells, in front of which stand the
bytes `done`, kept in reverse. -/
def percentDecodeOnto (done : List UInt8) : List UInt8 → List UInt8
  | first :: second :: third :: rest =>
      match escaped? first second third with
      | some byte => percentDecodeOnto (byte :: done) rest
      | none => percentDecodeOnto (first :: done) (second :: third :: rest)
  | bytes => done.reverse ++ bytes

/-- Replaces each escape by the byte that it spells. -/
def percentDecode (bytes : List UInt8) : List UInt8 :=
  percentDecodeOnto [] bytes

/-- The text that a piece of a path spells, if the bytes are those of one. -/
def percentDecodeText? (piece : String) : Option String :=
  Utf8.toString? (percentDecode (Utf8.ofString piece))

end Shortlink.Http
