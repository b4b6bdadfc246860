/-!
# UTF-8

The encoding of characters as one to four bytes, and the decoder that accepts
exactly the well-formed encodings: shortest form, no surrogates, nothing above
U+10FFFF.  The decoder works character by character, so that a reader of some
larger format can call it in the middle of its own input.
-/

namespace Shortlink.Utf8

/-- The bytes of a list of characters. -/
def encode (characters : List Char) : List UInt8 :=
  characters.flatMap String.utf8EncodeChar

/-- The bytes of a text. -/
def ofString (text : String) : List UInt8 :=
  encode text.toList

/-- Whether a byte continues a character of several bytes. -/
def isTail (byte : UInt8) : Bool :=
  0x80 ≤ byte && byte ≤ 0xBF

/-- The six bits that a continuing byte carries. -/
def tailBits (byte : UInt8) : Nat :=
  byte.toNat - 0x80

/-- Whether `second` may follow the lead byte `lead` of a three-byte character:
this is where overlong forms and surrogates are refused. -/
def isSecondOfThree (lead second : UInt8) : Bool :=
  isTail second && !(lead == 0xE0 && second < 0xA0) && !(lead == 0xED && 0xA0 ≤ second)

/-- Whether `second` may follow the lead byte `lead` of a four-byte character:
this is where overlong forms and numbers above U+10FFFF are refused. -/
def isSecondOfFour (lead second : UInt8) : Bool :=
  isTail second && !(lead == 0xF0 && second < 0x90) && !(lead == 0xF4 && 0x90 ≤ second)

/-- The first character of a sequence of bytes and the bytes after it, or `none`
when the bytes do not start with a well-formed character. -/
def next? : List UInt8 → Option (Char × List UInt8)
  | [] => none
  | lead :: rest =>
      if lead < 0x80 then
        some (Char.ofNat lead.toNat, rest)
      else if 0xC2 ≤ lead && lead ≤ 0xDF then
        match rest with
        | second :: rest =>
            if isTail second then
              some (Char.ofNat ((lead.toNat - 0xC0) * 64 + tailBits second), rest)
            else none
        | _ => none
      else if 0xE0 ≤ lead && lead ≤ 0xEF then
        match rest with
        | second :: third :: rest =>
            if isSecondOfThree lead second && isTail third then
              some (Char.ofNat ((lead.toNat - 0xE0) * 4096 + tailBits second * 64 +
                tailBits third), rest)
            else none
        | _ => none
      else if 0xF0 ≤ lead && lead ≤ 0xF4 then
        match rest with
        | second :: third :: fourth :: rest =>
            if isSecondOfFour lead second && isTail third && isTail fourth then
              some (Char.ofNat ((lead.toNat - 0xF0) * 262144 + tailBits second * 4096 +
                tailBits third * 64 + tailBits fourth), rest)
            else none
        | _ => none
      else none

/-- A character takes at least one byte. -/
theorem length_lt_of_next? {bytes rest : List UInt8} {character : Char}
    (found : next? bytes = some (character, rest)) : rest.length < bytes.length := by
  unfold next? at found
  repeat' split at found
  all_goals simp only [Option.some.injEq, Prod.mk.injEq, reduceCtorEq] at found
  all_goals
    obtain ⟨-, rfl⟩ := found
    simp only [List.length_cons]
    omega

/-- Decodes in front of the characters `done`, which are kept in reverse. -/
def decodeOnto (done : List Char) (bytes : List UInt8) : Option (List Char) :=
  match bytes with
  | [] => some done.reverse
  | lead :: tail =>
      match found : next? (lead :: tail) with
      | some (character, rest) =>
          have : rest.length < (lead :: tail).length := length_lt_of_next? found
          decodeOnto (character :: done) rest
      | none => none
termination_by bytes.length
decreasing_by assumption

/-- The characters of well-formed bytes, and `none` for any other bytes. -/
def decode (bytes : List UInt8) : Option (List Char) :=
  decodeOnto [] bytes

/-- The text of well-formed bytes, and `none` for any other bytes. -/
def toString? (bytes : List UInt8) : Option String :=
  (decode bytes).map String.ofList

end Shortlink.Utf8
