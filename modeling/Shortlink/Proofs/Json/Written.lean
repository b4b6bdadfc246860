import Shortlink.Json.Rejection
import Shortlink.Json.Writer
import Shortlink.Proofs.Text.Utf8

/-!
# Reading back what is written in documents

A string is read back as the text that was written, whatever follows its closing
quote.  So a document that starts with a string cannot be taken for one that starts
with another string.
-/

namespace Shortlink.Json

/-! ## One character -/

/-- The last two digits of a character that is written by its number. -/
theorem hexUnit?_digitChar {number : Nat} (small : number < 0x20) :
    hexUnit? 0x30 0x30 (UInt8.ofNat (Nat.digitChar (number / 16)).toNat)
      (UInt8.ofNat (Nat.digitChar (number % 16)).toNat) = some number := by
  have each : ∀ number < 0x20,
      hexUnit? 0x30 0x30 (UInt8.ofNat (Nat.digitChar (number / 16)).toNat)
        (UInt8.ofNat (Nat.digitChar (number % 16)).toNat) = some number := by decide
  exact each number small

/-- A digit is a character of ASCII. -/
theorem utf8EncodeChar_digitChar {number : Nat} (small : number < 16) :
    String.utf8EncodeChar (Nat.digitChar number) =
      [UInt8.ofNat (Nat.digitChar number).toNat] := by
  have each : ∀ number < 16, (Nat.digitChar number).toNat < 0x80 := by decide
  exact Utf8.utf8EncodeChar_of_ascii (each number small)

/-- A character is written as a letter after a backslash, by its number, or as it is. -/
theorem encode_writtenCharacter (character : Char) :
    (∃ letter, letter ≠ 0x75 ∧ escapedLetter? letter = some character ∧
        Utf8.encode (writtenCharacter character) = [0x5C, letter]) ∨
      (character.toNat < 0x20 ∧
        Utf8.encode (writtenCharacter character) =
          [0x5C, 0x75, 0x30, 0x30, UInt8.ofNat (Nat.digitChar (character.toNat / 16)).toNat,
            UInt8.ofNat (Nat.digitChar (character.toNat % 16)).toNat]) ∨
      (character ≠ '"' ∧ character ≠ '\\' ∧ ¬character.toNat < 0x20 ∧
        Utf8.encode (writtenCharacter character) = String.utf8EncodeChar character) := by
  unfold writtenCharacter
  -- The characters that have a letter of their own.
  iterate 7
    split
    · subst character
      exact .inl ⟨_, by decide, rfl, rfl⟩
  right
  rename_i noQuote noBackslash _ _ _ _ _
  split
  · rename_i small
    refine .inl ⟨small, ?_⟩
    have high : character.toNat / 16 < 16 := by omega
    have low : character.toNat % 16 < 16 := by omega
    rw [Utf8.encode_cons, Utf8.encode_cons, Utf8.encode_cons, Utf8.encode_cons, Utf8.encode_cons,
      Utf8.encode_cons, utf8EncodeChar_digitChar high, utf8EncodeChar_digitChar low]
    rfl
  · rename_i noControl
    exact .inr ⟨noQuote, noBackslash, noControl, List.flatMap_singleton ..⟩

theorem piece_escape {letter : UInt8} {character : Char} (rest : List UInt8)
    (other : letter ≠ 0x75) (known : escapedLetter? letter = some character) :
    piece (0x5C :: letter :: rest) = .character character rest := by
  change escape (letter :: rest) = _
  have noNumber : ¬(letter == 0x75) = true := by rwa [beq_iff_eq]
  unfold escape
  dsimp only
  rw [if_neg noNumber, known]

theorem piece_unicodeEscape {number : Nat} (small : number < 0x20) (rest : List UInt8) :
    piece (0x5C :: 0x75 :: 0x30 :: 0x30 :: UInt8.ofNat (Nat.digitChar (number / 16)).toNat ::
        UInt8.ofNat (Nat.digitChar (number % 16)).toNat :: rest) =
      .character (Char.ofNat number) rest := by
  change unicodeEscape (0x30 :: 0x30 :: _ :: _ :: rest) = _
  have noLow : isLowSurrogate number = false := by
    rw [isLowSurrogate, Bool.and_eq_false_iff, decide_eq_false_iff_not]
    omega
  have noHigh : isHighSurrogate number = false := by
    rw [isHighSurrogate, Bool.and_eq_false_iff, decide_eq_false_iff_not]
    omega
  unfold unicodeEscape
  dsimp only
  rw [hexUnit?_digitChar small]
  simp only [noLow, noHigh]
  rfl

theorem piece_plain {character : Char} (rest : List UInt8) (noQuote : character ≠ '"')
    (noBackslash : character ≠ '\\') (noControl : ¬character.toNat < 0x20) :
    piece (String.utf8EncodeChar character ++ rest) = .character character rest := by
  have whole := Utf8.next?_utf8EncodeChar_append character rest
  cases encoded : String.utf8EncodeChar character with
  | nil =>
      rw [encoded] at whole
      exact absurd (Utf8.length_lt_of_next? whole) (Nat.lt_irrefl _)
  | cons lead tail =>
      have same (ascii : lead.toNat < 0x80) : lead.toNat = character.toNat := by
        have small := Utf8.toNat_lt_of_utf8EncodeChar encoded ascii
        rw [Utf8.utf8EncodeChar_of_ascii small] at encoded
        rw [← (List.cons.inj encoded).1]
        exact UInt8.toNat_ofNat_of_lt' (Nat.lt_trans small (by decide))
      have leadNoQuote : ¬(lead == 0x22) = true := by
        rw [beq_iff_eq]
        rintro rfl
        exact noQuote (Char.toNat_inj.mp (same (by decide)).symm)
      have leadNoBackslash : ¬(lead == 0x5C) = true := by
        rw [beq_iff_eq]
        rintro rfl
        exact noBackslash (Char.toNat_inj.mp (same (by decide)).symm)
      have leadNoControl : ¬lead < 0x20 := by
        rw [UInt8.lt_iff_toNat_lt]
        intro small
        exact noControl ((same (Nat.lt_trans small (by decide))) ▸ small)
      rw [encoded] at whole
      change piece (lead :: (tail ++ rest)) = _
      unfold piece
      dsimp only
      rw [if_neg leadNoQuote, if_neg leadNoBackslash, if_neg leadNoControl]
      rw [List.cons_append] at whole
      rw [whole]

/-- What is written for a character is read back as that character, whatever follows. -/
theorem piece_writtenCharacter (character : Char) (rest : List UInt8) :
    piece (Utf8.encode (writtenCharacter character) ++ rest) = .character character rest := by
  rcases encode_writtenCharacter character with
    ⟨letter, other, known, encoded⟩ | ⟨small, encoded⟩ |
      ⟨noQuote, noBackslash, noControl, encoded⟩
  · rw [encoded]
    exact piece_escape rest other known
  · rw [encoded]
    exact (piece_unicodeEscape small rest).trans (by rw [Char.ofNat_toNat])
  · rw [encoded]
    exact piece_plain rest noQuote noBackslash noControl

/-! ## Whole strings -/

theorem readTextOnto_of_character {content bytes rest : List UInt8} {done : List Char}
    {character : Char} (found : piece bytes = .character character rest) :
    readTextOnto content done none bytes =
      readTextOnto content (character :: done) none rest := by
  cases bytes with
  | nil => contradiction
  | cons byte tail =>
      rw [readTextOnto]
      split
      case h_2 value left read =>
        rw [found, Piece.character.injEq] at read
        rw [read.1, read.2]
        rfl
      all_goals
        rename_i read
        rw [found] at read
        contradiction

theorem readTextOnto_of_close {content bytes rest : List UInt8} {done : List Char}
    (found : piece bytes = .close rest) :
    readTextOnto content done none bytes = .ok (String.ofList done.reverse, rest) := by
  cases bytes with
  | nil => contradiction
  | cons byte tail =>
      rw [readTextOnto]
      split
      case h_1 left read =>
        rw [found, Piece.close.injEq] at read
        rw [read]
      all_goals
        rename_i read
        rw [found] at read
        contradiction

theorem readTextOnto_written (content : List UInt8) (done characters : List Char)
    (rest : List UInt8) :
    readTextOnto content done none
        (Utf8.encode (characters.flatMap writtenCharacter) ++ 0x22 :: rest) =
      .ok (String.ofList (done.reverse ++ characters), rest) := by
  induction characters generalizing done with
  | nil =>
      rw [List.append_nil]
      exact readTextOnto_of_close rfl
  | cons character others ih =>
      rw [List.flatMap_cons, Utf8.encode_append, List.append_assoc,
        readTextOnto_of_character (piece_writtenCharacter character _), ih, List.reverse_cons,
        List.append_assoc, List.singleton_append]

/-- A string is an opening quote, what is written for its characters, and a closing quote. -/
theorem ofString_string (text : String) :
    Utf8.ofString (string text) =
      0x22 :: (Utf8.encode (text.toList.flatMap writtenCharacter) ++ [0x22]) := by
  rw [Utf8.ofString, string, String.toList_ofList, Utf8.encode_append, Utf8.encode_append]
  rfl

/-- After its opening quote a string is read back as the text that was written. -/
theorem readText_written (text : String) (rest : List UInt8) :
    readText (Utf8.encode (text.toList.flatMap writtenCharacter) ++ 0x22 :: rest) =
      .ok (text, rest) := by
  rw [readText, readTextOnto_written, List.reverse_nil, List.nil_append, String.ofList_toList]

/-- Where a string is required, a string that was written is read. -/
theorem expectText_string (text : String) (rest : List UInt8) :
    expectText (Utf8.ofString (string text) ++ rest) = .ok (text, rest) := by
  rw [ofString_string, List.cons_append, List.append_assoc, List.singleton_append]
  change (readText _).mapError _ = _
  rw [readText_written]
  rfl

/-- Bytes that start with a string start with no other string. -/
theorem string_append_inj {first second : String} {rest others : List UInt8}
    (same : Utf8.ofString (string first) ++ rest = Utf8.ofString (string second) ++ others) :
    first = second ∧ rest = others := by
  rw [ofString_string, ofString_string, List.cons_append, List.cons_append, List.append_assoc,
    List.append_assoc] at same
  have read := readText_written first rest
  have otherRead := readText_written second others
  rw [← List.singleton_append, (List.cons.inj same).2, List.singleton_append, otherRead,
    Except.ok.injEq, Prod.mk.injEq] at read
  exact ⟨read.1.symm, read.2.symm⟩

/-- An object of two members. -/
theorem object_pair (name value other otherValue : String) :
    object [(name, value), (other, otherValue)] =
      "\x7b" ++ string name ++ ":" ++ value ++ "," ++ string other ++ ":" ++ otherValue ++
        "\x7d" := by
  simp [object, String.intercalate_cons_cons, String.append_assoc]

/-- Objects of two strings under the same names are equal only if the strings are. -/
theorem object_string_pair_inj {name other first second third fourth : String}
    (same : object [(name, string first), (other, string second)] =
      object [(name, string third), (other, string fourth)]) :
    first = third ∧ second = fourth := by
  have bytes := congrArg Utf8.ofString same
  simp only [object_pair, Utf8.ofString_append, List.append_assoc, List.append_cancel_left_eq]
    at bytes
  obtain ⟨firstSame, rest⟩ := string_append_inj bytes
  simp only [List.append_cancel_left_eq] at rest
  exact ⟨firstSame, (string_append_inj rest).1⟩

end Shortlink.Json
