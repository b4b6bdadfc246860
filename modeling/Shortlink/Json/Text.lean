import Shortlink.Json.Fault
import Shortlink.Text.Utf8

/-!
# Strings inside a document

A string is read piece by piece after its opening quote: a character of UTF-8, an
escape, or the closing quote.  A string whose content does not matter is
skipped, which is more lenient: neither its surrogates nor its UTF-8 are checked.
-/

namespace Shortlink.Json

/-- The value of a hexadecimal digit in either case. -/
def hexDigit? (byte : UInt8) : Option Nat :=
  if 0x30 ≤ byte && byte ≤ 0x39 then some (byte.toNat - 0x30)
  else if 0x61 ≤ byte && byte ≤ 0x66 then some (byte.toNat - 0x61 + 10)
  else if 0x41 ≤ byte && byte ≤ 0x46 then some (byte.toNat - 0x41 + 10)
  else none

/-- The value of four hexadecimal digits. -/
def hexUnit? (first second third fourth : UInt8) : Option Nat := do
  let a ← hexDigit? first
  let b ← hexDigit? second
  let c ← hexDigit? third
  let d ← hexDigit? fourth
  return a * 4096 + b * 256 + c * 16 + d

/-- The character that a letter stands for after a backslash. -/
def escapedLetter? (letter : UInt8) : Option Char :=
  if letter == 0x22 then some '"'
  else if letter == 0x5C then some '\\'
  else if letter == 0x2F then some '/'
  else if letter == 0x62 then some '\x08'
  else if letter == 0x66 then some '\x0c'
  else if letter == 0x6E then some '\n'
  else if letter == 0x72 then some '\r'
  else if letter == 0x74 then some '\t'
  else none

/-- One piece of a string, and the bytes after it. -/
inductive Piece
  /-- The closing quote. -/
  | close (rest : List UInt8)
  /-- A character, plain or escaped. -/
  | character (value : Char) (rest : List UInt8)
  /-- A byte that starts no character. -/
  | stray (rest : List UInt8)
  /-- Something that cannot stand in a string. -/
  | fault (flawed : Fault)

/-- The bytes after a piece. -/
def Piece.rest : Piece → List UInt8
  | .close rest | .character _ rest | .stray rest => rest
  | .fault flawed => flawed.rest

/-- Whether a unit is the first half of a surrogate pair. -/
def isHighSurrogate (unit : Nat) : Bool :=
  0xD800 ≤ unit && unit ≤ 0xDBFF

/-- Whether a unit is the second half of a surrogate pair. -/
def isLowSurrogate (unit : Nat) : Bool :=
  0xDC00 ≤ unit && unit ≤ 0xDFFF

/-- The second half of a surrogate pair, which has to be escaped like the first. -/
def pairWith (high : Nat) : List UInt8 → Piece
  | [] => .fault ⟨.endInString, []⟩
  | backslash :: rest =>
      if backslash != 0x5C then .fault ⟨.pairCutShort, rest⟩
      else match rest with
        | [] => .fault ⟨.endInString, []⟩
        | letter :: rest =>
            if letter != 0x75 then .fault ⟨.pairCutShort, rest⟩
            else match rest with
              | a :: b :: c :: d :: rest =>
                  match hexUnit? a b c d with
                  | none => .fault ⟨.invalidEscape, rest⟩
                  | some low =>
                      if isLowSurrogate low then
                        .character (Char.ofNat
                          ((high - 0xD800) * 1024 + (low - 0xDC00) + 0x10000)) rest
                      else .fault ⟨.loneSurrogate, rest⟩
              | _ => .fault ⟨.endInString, []⟩

/-- What follows a backslash and the letter `u`. -/
def unicodeEscape : List UInt8 → Piece
  | a :: b :: c :: d :: rest =>
      match hexUnit? a b c d with
      | none => .fault ⟨.invalidEscape, rest⟩
      | some unit =>
          if isLowSurrogate unit then .fault ⟨.loneSurrogate, rest⟩
          else if isHighSurrogate unit then pairWith unit rest
          else .character (Char.ofNat unit) rest
  | _ => .fault ⟨.endInString, []⟩

/-- What follows a backslash. -/
def escape : List UInt8 → Piece
  | [] => .fault ⟨.endInString, []⟩
  | letter :: rest =>
      if letter == 0x75 then unicodeEscape rest
      else match escapedLetter? letter with
        | some character => .character character rest
        | none => .fault ⟨.invalidEscape, rest⟩

/-- The first piece of what is left of a string. -/
def piece : List UInt8 → Piece
  | [] => .fault ⟨.endInString, []⟩
  | byte :: rest =>
      if byte == 0x22 then .close rest
      else if byte == 0x5C then escape rest
      else if byte < 0x20 then .fault ⟨.controlCharacter, rest⟩
      else match Utf8.next? (byte :: rest) with
        | some (character, rest) => .character character rest
        | none => .stray rest

/-- A pair leaves fewer bytes than there were, or none. -/
theorem length_pairWith_le (high : Nat) (bytes : List UInt8) :
    (pairWith high bytes).rest.length ≤ bytes.length := by
  unfold pairWith
  repeat' split
  all_goals simp only [Piece.rest, List.length_cons, List.length_nil]; omega

/-- An escape by number leaves no more bytes than there were. -/
theorem length_unicodeEscape_le (bytes : List UInt8) :
    (unicodeEscape bytes).rest.length ≤ bytes.length := by
  unfold unicodeEscape
  split
  · rename_i a b c d rest
    cases hexUnit? a b c d with
    | none => simp only [Piece.rest, List.length_cons]; omega
    | some unit =>
        simp only []
        split
        · simp only [Piece.rest, List.length_cons]; omega
        · split
          · have := length_pairWith_le unit rest
            simp only [List.length_cons]; omega
          · simp only [Piece.rest, List.length_cons]; omega
  · simp [Piece.rest]

/-- An escape leaves no more bytes than there were. -/
theorem length_escape_le (bytes : List UInt8) :
    (escape bytes).rest.length ≤ bytes.length := by
  unfold escape
  split
  · simp [Piece.rest]
  · rename_i letter rest
    split
    · have := length_unicodeEscape_le rest
      simp only [List.length_cons]; omega
    · split <;> simp [Piece.rest]

/-- A piece takes at least one byte of what is left. -/
theorem length_piece_lt {byte : UInt8} {tail : List UInt8} :
    (piece (byte :: tail)).rest.length < (byte :: tail).length := by
  unfold piece
  simp only []
  split
  · simp [Piece.rest]
  · split
    · have := length_escape_le tail
      simp only [List.length_cons]
      omega
    · split
      · simp [Piece.rest]
      · split
        · rename_i found
          exact Utf8.length_lt_of_next? found
        · simp [Piece.rest]

/-- Where the content of a string stops being UTF-8, given what is left behind its
closing quote: as far in front of that as the unescaped content goes on from there. -/
def strayPlace (content : List UInt8) (unread : Nat) (rest : List UInt8) : List UInt8 :=
  content.drop (content.length - rest.length - unread)

/-- Reads the string with the given content on behind the characters `done`, which
are kept in reverse.  `stray` counts the unescaped bytes from the first one that is
not UTF-8, if there has been one. -/
def readTextOnto (content : List UInt8) (done : List Char) (stray : Option Nat)
    (bytes : List UInt8) : Except Fault (String × List UInt8) :=
  match bytes with
  | [] => .error ⟨.endInString, []⟩
  | byte :: tail =>
      have shorter : (piece (byte :: tail)).rest.length < (byte :: tail).length :=
        length_piece_lt
      match found : piece (byte :: tail) with
      | .close rest =>
          match stray with
          | none => .ok (String.ofList done.reverse, rest)
          | some unread => .error ⟨.invalidText, strayPlace content unread rest⟩
      | .character value rest =>
          have : rest.length < (byte :: tail).length := by
            rw [found] at shorter; exact shorter
          readTextOnto content (value :: done) (stray.map (· + value.utf8Size)) rest
      | .stray rest =>
          have : rest.length < (byte :: tail).length := by
            rw [found] at shorter; exact shorter
          readTextOnto content done (some (stray.getD 0 + 1)) rest
      | .fault flawed => .error flawed
termination_by bytes.length
decreasing_by all_goals assumption

/-- Reads a string after its opening quote: its text, and the bytes after its closing quote. -/
def readText (bytes : List UInt8) : Except Fault (String × List UInt8) :=
  readTextOnto bytes [] none bytes

/-- Skips a string after its opening quote. -/
def skipText : List UInt8 → Except Fault (List UInt8)
  | [] => .error ⟨.endInString, []⟩
  | byte :: rest =>
      if byte == 0x22 then .ok rest
      else if byte == 0x5C then
        match rest with
        | [] => .error ⟨.endInString, []⟩
        | letter :: rest =>
            if letter == 0x75 then
              match rest with
              | a :: b :: c :: d :: rest =>
                  if (hexUnit? a b c d).isSome then skipText rest
                  else .error ⟨.invalidEscape, rest⟩
              | _ => .error ⟨.endInString, []⟩
            else if (escapedLetter? letter).isSome then skipText rest
            else .error ⟨.invalidEscape, rest⟩
      else if byte < 0x20 then .error ⟨.controlCharacter, byte :: rest⟩
      else skipText rest

/-- Skipping a string takes at least its closing quote. -/
theorem length_lt_of_skipText {bytes rest : List UInt8} (skipped : skipText bytes = .ok rest) :
    rest.length < bytes.length := by
  fun_induction skipText bytes <;> simp_all <;> omega

end Shortlink.Json
