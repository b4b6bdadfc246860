import Shortlink.Base62
import Shortlink.Proofs.Text.Utf8

/-!
# Digits as characters and as bytes

Each of the 62 values has one digit, and that digit is a single byte.  Reading a
byte as a digit inverts writing one, so a character whose first byte is read as
a digit is that digit.
-/

namespace Shortlink.Base62

theorem digit_mem_alphabet {value : Nat} (small : value < 62) : digit value ∈ alphabet := by
  have each : ∀ value < 62, digit value ∈ alphabet := by decide
  exact each value small

theorem toNat_digit_lt {value : Nat} (small : value < 62) : (digit value).toNat < 0x80 := by
  have each : ∀ value < 62, (digit value).toNat < 0x80 := by decide
  exact each value small

/-- The byte of a digit. -/
def digitByte (value : Nat) : UInt8 :=
  UInt8.ofNat (digit value).toNat

theorem utf8EncodeChar_digit {value : Nat} (small : value < 62) :
    String.utf8EncodeChar (digit value) = [digitByte value] :=
  Utf8.utf8EncodeChar_of_ascii (toNat_digit_lt small)

theorem digitValue?_digitByte {value : Nat} (small : value < 62) :
    digitValue? (digitByte value) = some value := by
  have each : ∀ value < 62, digitValue? (digitByte value) = some value := by decide
  exact each value small

/-- Where the byte of a digit lies among the bytes of ASCII. -/
theorem toNat_of_digitValue? {byte : UInt8} {value : Nat}
    (found : digitValue? byte = some value) :
    byte.toNat = value + 0x30 ∧ value < 10 ∨
      byte.toNat + 10 = value + 0x61 ∧ 10 ≤ value ∧ value < 36 ∨
      byte.toNat + 36 = value + 0x41 ∧ 36 ≤ value ∧ value < 62 := by
  simp only [digitValue?, Utf8.between_iff, UInt8.reduceToNat] at found
  split at found
  · rw [Option.some.injEq] at found
    omega
  · split at found
    · rw [Option.some.injEq] at found
      omega
    · split at found
      · rw [Option.some.injEq] at found
        omega
      · contradiction

/-- A byte is read as a digit exactly when it is the byte of that digit. -/
theorem digitValue?_eq_some_iff {byte : UInt8} {value : Nat} :
    digitValue? byte = some value ↔ value < 62 ∧ byte = digitByte value := by
  constructor
  · intro found
    have place := toNat_of_digitValue? found
    have small : value < 62 := by omega
    have same := toNat_of_digitValue? (digitValue?_digitByte small)
    refine ⟨small, UInt8.toNat_inj.mp ?_⟩
    omega
  · rintro ⟨small, rfl⟩
    exact digitValue?_digitByte small

/-- A character whose first byte is read as a digit is that digit. -/
theorem eq_digit_of_utf8EncodeChar {character : Char} {byte : UInt8} {rest : List UInt8}
    {value : Nat} (encoded : String.utf8EncodeChar character = byte :: rest)
    (found : digitValue? byte = some value) : character = digit value := by
  have place := toNat_of_digitValue? found
  have ascii := Utf8.toNat_lt_of_utf8EncodeChar encoded (by omega)
  obtain ⟨small, rfl⟩ := digitValue?_eq_some_iff.mp found
  rw [Utf8.utf8EncodeChar_of_ascii ascii] at encoded
  have digitAscii := toNat_digit_lt small
  have sameByte : (UInt8.ofNat character.toNat).toNat = (digitByte value).toNat :=
    congrArg UInt8.toNat (List.cons.inj encoded).1
  rw [digitByte, UInt8.toNat_ofNat_of_lt' (show character.toNat < 256 by omega),
    UInt8.toNat_ofNat_of_lt' (show (digit value).toNat < 256 by omega)] at sameByte
  exact Char.toNat_inj.mp sameByte

/-- Digits are written as their bytes. -/
theorem encode_map_digit {values : List Nat} (small : ∀ value ∈ values, value < 62) :
    Utf8.encode (values.map digit) = values.map digitByte := by
  induction values with
  | nil => rfl
  | cons value values ih =>
      rw [List.map_cons, Utf8.encode_cons, utf8EncodeChar_digit (small value List.mem_cons_self),
        ih fun other member => small other (List.mem_cons_of_mem value member)]
      rfl

/-- Only the digit zero is written as `0`. -/
theorem digit_eq_zero_iff {value : Nat} (small : value < 62) : digit value = '0' ↔ value = 0 := by
  constructor
  · intro same
    have zero := digitValue?_digitByte small
    rw [digitByte, same] at zero
    exact (Option.some.inj zero).symm
  · rintro rfl
    rfl

end Shortlink.Base62
