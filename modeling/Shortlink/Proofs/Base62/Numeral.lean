import Shortlink.Proofs.Base62.Codec

/-!
# Numerals

A text is a numeral by its bytes or by its characters: it is not empty, and its characters are
those of the alphabet.  A numeral denotes a number unless that is too large; nothing else can be
wrong with it.
-/

namespace Shortlink.Base62

theorem alphabet_eq : alphabet = (List.range 62).map digit := by
  decide +kernel

theorem mem_alphabet_iff {character : Char} :
    character ∈ alphabet ↔ ∃ value < 62, digit value = character := by
  rw [alphabet_eq, List.mem_map]
  exact exists_congr fun value => by rw [List.mem_range]

/-- A character is in the alphabet when its bytes are digits. -/
theorem mem_alphabet_iff_isDigit {character : Char} :
    character ∈ alphabet ↔ ∀ byte ∈ String.utf8EncodeChar character, isDigit byte = true := by
  rw [mem_alphabet_iff]
  constructor
  · rintro ⟨value, small, rfl⟩ byte member
    rw [utf8EncodeChar_digit small] at member
    rw [List.mem_singleton.mp member, isDigit, digitValue?_digitByte small]
    rfl
  · intro digits
    cases encoded : String.utf8EncodeChar character with
    | nil => exact absurd encoded String.utf8EncodeChar_ne_nil
    | cons byte rest =>
        have first := digits byte (encoded ▸ List.mem_cons_self)
        obtain ⟨value, found⟩ := Option.isSome_iff_exists.mp first
        exact ⟨value, (digitValue?_eq_some_iff.mp found).1,
          (eq_digit_of_utf8EncodeChar encoded found).symm⟩

theorem isNumeral_iff {text : String} :
    isNumeral text = true ↔ text ≠ "" ∧ ∀ character ∈ text.toList, character ∈ alphabet := by
  have notEmpty : (!text.isEmpty) = true ↔ text ≠ "" := by
    rw [Bool.not_eq_true', Bool.eq_false_iff, ne_eq, String.isEmpty_iff]
  have digits : (Utf8.ofString text).all isDigit = true ↔
      ∀ character ∈ text.toList, character ∈ alphabet := by
    simp only [List.all_eq_true, Utf8.ofString, Utf8.encode, List.mem_flatMap,
      mem_alphabet_iff_isDigit]
    constructor
    · intro all character known byte member
      exact all byte ⟨character, known, member⟩
    · rintro all byte ⟨character, known, member⟩
      exact all character known byte member
  rw [isNumeral, Bool.and_eq_true, notEmpty, digits]

/-- Characters of the alphabet are the digits of some values. -/
theorem exists_eq_map_digit {characters : List Char}
    (known : ∀ character ∈ characters, character ∈ alphabet) :
    ∃ values : List Nat, (∀ value ∈ values, value < 62) ∧ characters = values.map digit := by
  induction characters with
  | nil => exact ⟨[], nofun, rfl⟩
  | cons character rest ih =>
      obtain ⟨first, others⟩ := List.forall_mem_cons.mp known
      obtain ⟨value, small, rfl⟩ := mem_alphabet_iff.mp first
      obtain ⟨values, smaller, rfl⟩ := ih others
      exact ⟨value :: values, List.forall_mem_cons.mpr ⟨small, smaller⟩, rfl⟩

/-- A text that denotes a number has no other characters than digits. -/
theorem mem_alphabet_of_decode {text : String} {number : UInt64}
    (read : decode text = .ok number) {character : Char} (member : character ∈ text.toList) :
    character ∈ alphabet := by
  obtain ⟨values, -, small, spelled⟩ := exists_digits_of_decode read
  rw [spelled] at member
  obtain ⟨value, known, rfl⟩ := List.mem_map.mp member
  exact digit_mem_alphabet (small value known)

theorem isNumeral_of_decode {text : String} {number : UInt64} (read : decode text = .ok number) :
    isNumeral text = true := by
  refine isNumeral_iff.mpr ⟨?_, fun character => mem_alphabet_of_decode read⟩
  rintro rfl
  contradiction

/-- The number of a numeral can only be too large. -/
theorem eq_overflow_of_decode {text : String} {error : DecodeError}
    (numeral : isNumeral text = true) (failed : decode text = .error error) :
    error = .overflow text := by
  obtain ⟨notEmpty, known⟩ := isNumeral_iff.mp numeral
  obtain ⟨values, small, spelled⟩ := exists_eq_map_digit known
  have some : values ≠ [] := by
    rintro rfl
    exact notEmpty (String.toList_eq_nil_iff.mp spelled)
  rw [decode_of_digits some small spelled] at failed
  split at failed
  · contradiction
  · exact (Except.error.inj failed).symm

end Shortlink.Base62
