import Shortlink.Proofs.Json.Grammar
import Shortlink.Proofs.Json.Written

/-!
# Reading what is spelled

A string is read as a text exactly when it spells the text, and it is skipped exactly
when it may stand there unread.  Both leave what follows the closing quote, whatever
that is.
-/

namespace Shortlink.Json

/-! ## Escapes -/

theorem escapedLetter?_eq_some_iff {letter : UInt8} {character : Char} :
    escapedLetter? letter = some character ↔ (letter, character) ∈ letterEscapes := by
  constructor
  · intro known
    unfold escapedLetter? at known
    repeat' split at known
    all_goals first
      | contradiction
      | (rename_i same
         obtain rfl := eq_of_beq same
         obtain rfl := Option.some.inj known
         decide)
  · intro member
    simp only [letterEscapes, List.mem_cons, Prod.mk.injEq, List.not_mem_nil, or_false] at member
    rcases member with ⟨rfl, rfl⟩ | ⟨rfl, rfl⟩ | ⟨rfl, rfl⟩ | ⟨rfl, rfl⟩ | ⟨rfl, rfl⟩ |
      ⟨rfl, rfl⟩ | ⟨rfl, rfl⟩ | ⟨rfl, rfl⟩ <;> rfl

theorem isSome_escapedLetter?_iff {letter : UInt8} :
    (escapedLetter? letter).isSome = true ↔ ∃ character, (letter, character) ∈ letterEscapes := by
  rw [Option.isSome_iff_exists]
  exact exists_congr fun _ => escapedLetter?_eq_some_iff

theorem IsHexDigit.lt {byte : UInt8} {value : Nat} (digit : IsHexDigit byte value) :
    value < 16 := by
  rcases digit with lower | upper
  · exact (List.getElem?_eq_some_iff.mp lower).1
  · exact (List.getElem?_eq_some_iff.mp upper).1

theorem hexDigit?_eq_some_iff {byte : UInt8} {value : Nat} :
    hexDigit? byte = some value ↔ IsHexDigit byte value := by
  constructor
  · intro read
    let IsRead (byte : UInt8) : Prop := ∀ value ∈ hexDigit? byte, IsHexDigit byte value
    have each : ∀ number < 256, IsRead (UInt8.ofNat number) := by decide +kernel
    exact @Utf8.forall_byte IsRead each byte value read
  · intro digit
    have lower : ∀ value < 16, ∀ byte ∈ (Utf8.ofString "0123456789abcdef")[value]?,
        hexDigit? byte = some value := by
      decide +kernel
    have upper : ∀ value < 16, ∀ byte ∈ (Utf8.ofString "0123456789ABCDEF")[value]?,
        hexDigit? byte = some value := by
      decide +kernel
    rcases digit with found | found
    · exact lower value (List.getElem?_eq_some_iff.mp found).1 byte found
    · exact upper value (List.getElem?_eq_some_iff.mp found).1 byte found

theorem hexUnit?_eq_some_iff {first second third fourth : UInt8} {number : Nat} :
    hexUnit? first second third fourth = some number ↔
      DenotesUnit [first, second, third, fourth] number := by
  simp only [hexUnit?, Option.bind_eq_bind, Option.bind_eq_some_iff, Option.pure_def,
    hexDigit?_eq_some_iff, Option.some.injEq]
  constructor
  · rintro ⟨a, isA, b, isB, c, isC, d, isD, rfl⟩
    exact .digits isA isB isC isD
  · intro denotes
    cases denotes with
    | digits isA isB isC isD => exact ⟨_, isA, _, isB, _, isC, _, isD, rfl⟩

/-- A unit takes four digits. -/
theorem DenotesUnit.exists_digits {digits : List UInt8} {number : Nat}
    (denotes : DenotesUnit digits number) :
    ∃ first second third fourth, digits = [first, second, third, fourth] ∧
      hexUnit? first second third fourth = some number := by
  cases denotes with
  | digits isA isB isC isD =>
      exact ⟨_, _, _, _, rfl, hexUnit?_eq_some_iff.mpr (.digits isA isB isC isD)⟩

theorem DenotesUnit.lt {digits : List UInt8} {number : Nat} (denotes : DenotesUnit digits number) :
    number < 0x10000 := by
  cases denotes with
  | digits isA isB isC isD =>
      have := isA.lt
      have := isB.lt
      have := isC.lt
      have := isD.lt
      omega

theorem isHighSurrogate_iff {unit : Nat} :
    isHighSurrogate unit = true ↔ 0xD800 ≤ unit ∧ unit ≤ 0xDBFF := by
  rw [isHighSurrogate, Bool.and_eq_true, decide_eq_true_eq, decide_eq_true_eq]

theorem isLowSurrogate_iff {unit : Nat} :
    isLowSurrogate unit = true ↔ 0xDC00 ≤ unit ∧ unit ≤ 0xDFFF := by
  rw [isLowSurrogate, Bool.and_eq_true, decide_eq_true_eq, decide_eq_true_eq]

/-! ## One piece of a string -/

theorem piece_unit {digits : List UInt8} {character : Char} (rest : List UInt8)
    (denotes : DenotesUnit digits character.toNat) :
    piece (0x5C :: 0x75 :: (digits ++ rest)) = .character character rest := by
  obtain ⟨first, second, third, fourth, rfl, read⟩ := denotes.exists_digits
  have scalar : character.toNat < 0xD800 ∨
      0xDFFF < character.toNat ∧ character.toNat < 0x110000 := character.valid
  have noLow : ¬isLowSurrogate character.toNat = true := by
    rw [isLowSurrogate_iff]
    omega
  have noHigh : ¬isHighSurrogate character.toNat = true := by
    rw [isHighSurrogate_iff]
    omega
  change unicodeEscape (first :: second :: third :: fourth :: rest) = _
  unfold unicodeEscape
  simp only [read]
  rw [if_neg noLow, if_neg noHigh, Char.ofNat_toNat]

theorem piece_pair {first second : List UInt8} {high low : Nat} {character : Char}
    (rest : List UInt8) (denotesHigh : DenotesUnit first high)
    (isHigh : 0xD800 ≤ high ∧ high ≤ 0xDBFF) (denotesLow : DenotesUnit second low)
    (isLow : 0xDC00 ≤ low ∧ low ≤ 0xDFFF)
    (number : character.toNat = 0x10000 + (high - 0xD800) * 0x400 + (low - 0xDC00)) :
    piece (0x5C :: 0x75 :: (first ++ 0x5C :: 0x75 :: (second ++ rest))) =
      .character character rest := by
  obtain ⟨a, b, c, d, rfl, readHigh⟩ := denotesHigh.exists_digits
  obtain ⟨e, f, g, h, rfl, readLow⟩ := denotesLow.exists_digits
  have noLow : ¬isLowSurrogate high = true := by
    rw [isLowSurrogate_iff]
    omega
  have same : (high - 0xD800) * 1024 + (low - 0xDC00) + 0x10000 = character.toNat := by omega
  change unicodeEscape (a :: b :: c :: d :: 0x5C :: 0x75 :: e :: f :: g :: h :: rest) = _
  unfold unicodeEscape
  simp only [readHigh]
  rw [if_neg noLow, if_pos (isHighSurrogate_iff.mpr isHigh)]
  simp only [pairWith, readLow]
  simp only [bne_self_eq_false, Bool.false_eq_true, if_false]
  rw [if_pos (isLowSurrogate_iff.mpr isLow), same, Char.ofNat_toNat]

theorem piece_of_spellsCharacter {spelled : List UInt8} {character : Char}
    (spells : SpellsCharacter spelled character) (rest : List UInt8) :
    piece (spelled ++ rest) = .character character rest := by
  cases spells with
  | plain noQuote noBackslash noControl =>
      exact piece_plain rest noQuote noBackslash (Nat.not_lt_of_le noControl)
  | letter member =>
      have known := escapedLetter?_eq_some_iff.mpr member
      refine piece_escape rest ?_ known
      rintro rfl
      contradiction
  | unit denotes => exact piece_unit rest denotes
  | pair denotesHigh lower upper denotesLow lowerLow upperLow number =>
      rw [List.cons_append, List.cons_append, List.append_assoc]
      exact piece_pair rest denotesHigh ⟨lower, upper⟩ denotesLow ⟨lowerLow, upperLow⟩ number

theorem exists_low_of_pairWith {high : Nat} {bytes rest : List UInt8} {character : Char}
    (isHigh : 0xD800 ≤ high ∧ high ≤ 0xDBFF)
    (found : pairWith high bytes = .character character rest) :
    ∃ second low, DenotesUnit second low ∧ (0xDC00 ≤ low ∧ low ≤ 0xDFFF) ∧
      character.toNat = 0x10000 + (high - 0xD800) * 0x400 + (low - 0xDC00) ∧
      bytes = 0x5C :: 0x75 :: (second ++ rest) := by
  unfold pairWith at found
  split at found
  · contradiction
  rename_i backslash afterBackslash
  split at found
  · contradiction
  rename_i isBackslash
  split at found
  · contradiction
  rename_i letter afterLetter
  split at found
  · contradiction
  rename_i isLetter
  split at found
  · rename_i a b c d left
    split at found
    · contradiction
    rename_i low read
    split at found
    · rename_i isLow
      rw [isLowSurrogate_iff] at isLow
      obtain ⟨rfl, rfl⟩ := Piece.character.inj found
      simp only [bne_iff_ne, ne_eq, Decidable.not_not] at isBackslash isLetter
      subst isBackslash isLetter
      refine ⟨[a, b, c, d], low, hexUnit?_eq_some_iff.mp read, isLow, ?_, rfl⟩
      rw [Utf8.toNat_ofNat_of_scalar _ (by omega)]
      omega
    · contradiction
  · contradiction

theorem spells_of_unicodeEscape {bytes rest : List UInt8} {character : Char}
    (found : unicodeEscape bytes = .character character rest) :
    ∃ spelled, SpellsCharacter (0x5C :: 0x75 :: spelled) character ∧ bytes = spelled ++ rest := by
  unfold unicodeEscape at found
  split at found
  · rename_i a b c d left
    split at found
    · contradiction
    rename_i unit read
    have denotes := hexUnit?_eq_some_iff.mp read
    have small := denotes.lt
    split at found
    · contradiction
    rename_i noLow
    rw [isLowSurrogate_iff] at noLow
    split at found
    · rename_i isHigh
      rw [isHighSurrogate_iff] at isHigh
      obtain ⟨second, low, denotesLow, isLow, number, rfl⟩ := exists_low_of_pairWith isHigh found
      exact ⟨_, .pair denotes isHigh.1 isHigh.2 denotesLow isLow.1 isLow.2 number, by simp⟩
    · rename_i noHigh
      rw [isHighSurrogate_iff] at noHigh
      obtain ⟨rfl, rfl⟩ := Piece.character.inj found
      have same := Utf8.toNat_ofNat_of_scalar unit (by omega)
      exact ⟨[a, b, c, d], .unit (by rwa [same]), rfl⟩
  · contradiction

theorem spells_of_escape {bytes rest : List UInt8} {character : Char}
    (found : escape bytes = .character character rest) :
    ∃ spelled, SpellsCharacter (0x5C :: spelled) character ∧ bytes = spelled ++ rest := by
  unfold escape at found
  split at found
  · contradiction
  rename_i letter tail
  split at found
  · rename_i isLetter
    obtain rfl := eq_of_beq isLetter
    obtain ⟨spelled, spells, rfl⟩ := spells_of_unicodeEscape found
    exact ⟨0x75 :: spelled, spells, rfl⟩
  split at found
  · rename_i value known
    obtain ⟨rfl, rfl⟩ := Piece.character.inj found
    exact ⟨[letter], .letter (escapedLetter?_eq_some_iff.mp known), rfl⟩
  · contradiction

theorem piece_eq_character_iff {bytes rest : List UInt8} {character : Char} :
    piece bytes = .character character rest ↔
      ∃ spelled, SpellsCharacter spelled character ∧ bytes = spelled ++ rest := by
  constructor
  · intro found
    unfold piece at found
    split at found
    · contradiction
    rename_i byte tail
    split at found
    · contradiction
    rename_i noQuote
    split at found
    · rename_i isBackslash
      obtain rfl := eq_of_beq isBackslash
      obtain ⟨spelled, spells, rfl⟩ := spells_of_escape found
      exact ⟨0x5C :: spelled, spells, rfl⟩
    rename_i noBackslash
    split at found
    · contradiction
    rename_i noControl
    split at found
    · rename_i value left read
      obtain ⟨rfl, rfl⟩ := Piece.character.inj found
      have whole := Utf8.eq_utf8EncodeChar_append_of_next? read
      have same (ascii : value.toNat < 0x80) : byte.toNat = value.toNat := by
        rw [Utf8.utf8EncodeChar_of_ascii ascii, List.singleton_append] at whole
        rw [(List.cons.inj whole).1]
        exact UInt8.toNat_ofNat_of_lt' (Nat.lt_trans ascii (by decide))
      refine ⟨_, .plain ?_ ?_ ?_, whole⟩
      · rintro rfl
        exact noQuote (beq_iff_eq.mpr (UInt8.toNat_inj.mp (same (by decide))))
      · rintro rfl
        exact noBackslash (beq_iff_eq.mpr (UInt8.toNat_inj.mp (same (by decide))))
      · rw [UInt8.lt_iff_toNat_lt] at noControl
        refine Nat.le_of_not_lt fun small => noControl ?_
        rwa [same (Nat.lt_trans small (by decide))]
    · contradiction
  · rintro ⟨spelled, spells, rfl⟩
    exact piece_of_spellsCharacter spells rest

theorem pairWith_ne_close (high : Nat) (bytes rest : List UInt8) :
    pairWith high bytes ≠ .close rest := by
  intro found
  unfold pairWith at found
  repeat' split at found
  all_goals contradiction

theorem escape_ne_close (bytes rest : List UInt8) : escape bytes ≠ .close rest := by
  intro found
  unfold escape unicodeEscape at found
  repeat' split at found
  all_goals first
    | contradiction
    | exact pairWith_ne_close _ _ _ found

theorem piece_eq_close_iff {bytes rest : List UInt8} :
    piece bytes = .close rest ↔ bytes = 0x22 :: rest := by
  constructor
  · intro found
    unfold piece at found
    split at found
    · contradiction
    rename_i byte tail
    split at found
    · rename_i isQuote
      rw [eq_of_beq isQuote, Piece.close.inj found]
    split at found
    · exact absurd found (escape_ne_close tail rest)
    split at found
    · contradiction
    split at found <;> contradiction
  · rintro rfl
    rfl

/-! ## Strings that are read -/

/-- A string is not read any more once its content has stopped being UTF-8. -/
theorem readTextOnto_stray {content bytes rest : List UInt8} {done : List Char} {unread : Nat}
    {text : String} : readTextOnto content done (some unread) bytes ≠ .ok (text, rest) := by
  generalize stray : some unread = mark
  intro read
  fun_induction readTextOnto content done mark bytes generalizing unread with
  | case1 => contradiction
  | case2 => contradiction
  | case3 => contradiction
  | case4 done mark byte tail shorter value left found fewer ih =>
      subst stray
      exact ih rfl read
  | case5 done mark byte tail shorter left found fewer ih => exact ih rfl read
  | case6 => contradiction

theorem readTextOnto_eq_ok_iff {content bytes rest : List UInt8} {done : List Char}
    {text : String} :
    readTextOnto content done none bytes = .ok (text, rest) ↔
      ∃ spelled characters, SpellsAll spelled characters ∧ bytes = spelled ++ 0x22 :: rest ∧
        text = String.ofList (done.reverse ++ characters) := by
  constructor
  · generalize start : none = mark
    intro read
    fun_induction readTextOnto content done mark bytes with
    | case1 => contradiction
    | case2 done byte tail shorter left found =>
        obtain ⟨rfl, rfl⟩ := Prod.mk.inj (Except.ok.inj read)
        exact ⟨[], [], .nil, piece_eq_close_iff.mp found, by rw [List.append_nil]⟩
    | case3 => contradiction
    | case4 done mark byte tail shorter value left found fewer ih =>
        subst start
        obtain ⟨spelled, characters, spells, rfl, rfl⟩ := ih rfl read
        obtain ⟨first, spellsFirst, whole⟩ := piece_eq_character_iff.mp found
        refine ⟨first ++ spelled, value :: characters, .cons spellsFirst spells, ?_, ?_⟩
        · rw [whole, List.append_assoc]
        · rw [List.reverse_cons, List.append_assoc, List.singleton_append]
    | case5 => exact absurd read readTextOnto_stray
    | case6 => contradiction
  · rintro ⟨spelled, characters, spells, rfl, rfl⟩
    induction spells generalizing done with
    | nil =>
        rw [List.append_nil]
        exact readTextOnto_of_close rfl
    | cons spellsFirst spells ih =>
        rw [List.append_assoc,
          readTextOnto_of_character (piece_of_spellsCharacter spellsFirst _), ih,
          List.reverse_cons, List.append_assoc, List.singleton_append]

/-- A string is read as the text that it spells, and nothing else is read as a string. -/
theorem readText_eq_ok_iff {bytes rest : List UInt8} {text : String} :
    readText bytes = .ok (text, rest) ↔
      ∃ content, Spells content text ∧ bytes = content ++ 0x22 :: rest := by
  rw [readText, readTextOnto_eq_ok_iff]
  constructor
  · rintro ⟨content, characters, spells, whole, rfl⟩
    exact ⟨content, by rwa [Spells, String.toList_ofList], whole⟩
  · rintro ⟨content, spells, whole⟩
    exact ⟨content, text.toList, spells, whole, String.ofList_toList.symm⟩

/-- Bytes spell one text at most. -/
theorem Spells.unique {content : List UInt8} {text other : String} (spells : Spells content text)
    (spellsOther : Spells content other) : text = other := by
  have read : readText (content ++ [0x22]) = .ok (text, []) :=
    readText_eq_ok_iff.mpr ⟨content, spells, rfl⟩
  have readOther : readText (content ++ [0x22]) = .ok (other, []) :=
    readText_eq_ok_iff.mpr ⟨content, spellsOther, rfl⟩
  rw [read] at readOther
  exact congrArg Prod.fst (Except.ok.inj readOther)

/-! ## Blanks -/

theorem isBlank_iff {byte : UInt8} : isBlank byte = true ↔ byte ∈ [0x20, 0x0A, 0x09, 0x0D] := by
  simp only [isBlank, Bool.or_eq_true, beq_iff_eq, List.mem_cons, List.not_mem_nil, or_false,
    or_assoc]

/-- What is skipped in front is blank. -/
theorem exists_blanks (bytes : List UInt8) :
    ∃ blanks : Blanks, bytes = blanks.val ++ skipBlanks bytes := by
  refine ⟨⟨bytes.takeWhile isBlank, ?_⟩, List.takeWhile_append_dropWhile.symm⟩
  exact fun byte member => isBlank_iff.mp (List.all_eq_true.mp List.all_takeWhile byte member)

/-- A byte that comes after the blanks in front has nothing but blanks in front. -/
theorem exists_blanks_of_skipBlanks {bytes rest : List UInt8} {first : UInt8}
    (skipped : skipBlanks bytes = first :: rest) :
    ∃ blanks : Blanks, bytes = blanks.val ++ first :: rest := by
  obtain ⟨blanks, whole⟩ := exists_blanks bytes
  exact ⟨blanks, by rwa [skipped] at whole⟩

theorem skipBlanks_append (blanks : Blanks) (rest : List UInt8) :
    skipBlanks (blanks.val ++ rest) = skipBlanks rest :=
  List.dropWhile_append_of_pos fun byte member => isBlank_iff.mpr (blanks.property byte member)

theorem skipBlanks_cons {byte : UInt8} (visible : isBlank byte = false) (rest : List UInt8) :
    skipBlanks (byte :: rest) = byte :: rest :=
  List.dropWhile_cons_of_neg (by rw [visible]; exact Bool.false_ne_true)

/-- After blanks and a byte that is none, the blanks are skipped. -/
theorem skipBlanks_blanks_cons (blanks : Blanks) {byte : UInt8} (visible : isBlank byte = false)
    (rest : List UInt8) : skipBlanks (blanks.val ++ byte :: rest) = byte :: rest := by
  rw [skipBlanks_append, skipBlanks_cons visible]

/-! ## A string that is required -/

theorem expectText_eq_ok_iff {bytes rest : List UInt8} {text : String} :
    expectText bytes = .ok (text, rest) ↔
      ∃ (blanks : Blanks) (quoted : List UInt8), Quotes quoted text ∧
        bytes = blanks.val ++ (quoted ++ rest) := by
  constructor
  · intro read
    unfold expectText at read
    split at read
    · contradiction
    rename_i first tail skipped
    obtain ⟨blanks, rfl⟩ := exists_blanks_of_skipBlanks skipped
    split at read
    · rename_i isQuote
      obtain rfl := eq_of_beq isQuote
      cases result : readText tail with
      | error fault =>
          rw [result] at read
          contradiction
      | ok found =>
          rw [result] at read
          obtain rfl := Except.ok.inj read
          obtain ⟨content, spells, rfl⟩ := readText_eq_ok_iff.mp result
          refine ⟨blanks, _, ⟨content, spells, rfl⟩, ?_⟩
          rw [List.cons_append, List.append_assoc, List.singleton_append]
    · contradiction
  · rintro ⟨blanks, quoted, ⟨content, spells, rfl⟩, rfl⟩
    have result : readText (content ++ 0x22 :: rest) = .ok (text, rest) :=
      readText_eq_ok_iff.mpr ⟨content, spells, rfl⟩
    unfold expectText
    rw [List.cons_append, skipBlanks_blanks_cons blanks rfl, List.append_assoc,
      List.singleton_append]
    change (readText (content ++ 0x22 :: rest)).mapError _ = _
    rw [result]
    rfl

/-! ## The end -/

theorem expectEnd_eq_ok_iff {bytes : List UInt8} :
    expectEnd bytes = .ok () ↔ ∃ blanks : Blanks, bytes = blanks.val := by
  constructor
  · intro ended
    obtain ⟨blanks, whole⟩ := exists_blanks bytes
    unfold expectEnd at ended
    split at ended
    · rename_i skipped
      exact ⟨blanks, by rw [whole, skipped, List.append_nil]⟩
    · contradiction
  · rintro ⟨blanks, rfl⟩
    have skipped := skipBlanks_append blanks []
    rw [List.append_nil] at skipped
    rw [expectEnd, skipped]
    rfl

/-! ## Strings that are skipped -/

theorem exists_content_of_skipText {bytes rest : List UInt8} (skipped : skipText bytes = .ok rest) :
    ∃ content, IsContent content ∧ bytes = content ++ 0x22 :: rest := by
  fun_induction skipText bytes with
  | case2 byte tail isQuote =>
      obtain rfl := eq_of_beq isQuote
      obtain rfl := Except.ok.inj skipped
      exact ⟨[], .nil, rfl⟩
  | case4 backslash _ isBackslash letter isLetter a b c d tail known ih =>
      obtain rfl := eq_of_beq isBackslash
      obtain rfl := eq_of_beq isLetter
      obtain ⟨content, isContent, rfl⟩ := ih skipped
      obtain ⟨number, read⟩ := Option.isSome_iff_exists.mp known
      exact ⟨_, .unit (hexUnit?_eq_some_iff.mp read) isContent, rfl⟩
  | case7 backslash _ isBackslash letter tail _ known ih =>
      obtain rfl := eq_of_beq isBackslash
      obtain ⟨content, isContent, rfl⟩ := ih skipped
      obtain ⟨character, member⟩ := isSome_escapedLetter?_iff.mp known
      exact ⟨_, .letter member isContent, rfl⟩
  | case10 byte tail noQuote noBackslash noControl ih =>
      obtain ⟨content, isContent, rfl⟩ := ih skipped
      rw [beq_iff_eq] at noQuote noBackslash
      exact ⟨_, .byte noQuote noBackslash (UInt8.not_lt.mp noControl) isContent, rfl⟩
  | _ => contradiction

theorem skipText_content {content : List UInt8} (isContent : IsContent content)
    (rest : List UInt8) : skipText (content ++ 0x22 :: rest) = .ok rest := by
  induction isContent with
  | nil =>
      rw [List.nil_append, skipText.eq_def]
      exact if_pos rfl
  | byte noQuote noBackslash noControl _ ih =>
      rw [List.cons_append, skipText.eq_def]
      dsimp only
      rw [if_neg (by rwa [beq_iff_eq]), if_neg (by rwa [beq_iff_eq]),
        if_neg (UInt8.not_lt.mpr noControl), ih]
  | @letter byte character bytes member _ ih =>
      have known := escapedLetter?_eq_some_iff.mpr member
      have other : ¬(byte == 0x75) = true := by
        rw [beq_iff_eq]
        rintro rfl
        contradiction
      rw [List.cons_append, List.cons_append, skipText.eq_def]
      dsimp only
      rw [if_neg other, known]
      exact ih
  | unit denotes _ ih =>
      obtain ⟨a, b, c, d, rfl, read⟩ := denotes.exists_digits
      rw [List.cons_append, List.cons_append, skipText.eq_def]
      simp only [List.cons_append, List.nil_append, read, Option.isSome_some, if_true, ih]
      rfl

/-- A string is skipped when it may stand there, and nothing else is skipped as a string. -/
theorem skipText_eq_ok_iff {bytes rest : List UInt8} :
    skipText bytes = .ok rest ↔ ∃ content, IsContent content ∧ bytes = content ++ 0x22 :: rest := by
  constructor
  · exact exists_content_of_skipText
  · rintro ⟨content, isContent, rfl⟩
    exact skipText_content isContent rest

end Shortlink.Json
