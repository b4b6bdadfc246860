import Shortlink.Text.Utf8

/-!
# Reading back what is written in UTF-8

A character is written as one to four bytes, and these bytes are read back as
that character whatever follows them.  Hence the bytes of a text are read back
as the text.  No other bytes are read as the character, and the bytes of ASCII are
never part of any other one.
-/

namespace Shortlink.Utf8

/-! ## Bytes by their numbers -/

/-- A byte lies between two others when its number does. -/
theorem between_iff {byte low high : UInt8} :
    (decide (low ≤ byte) && decide (byte ≤ high)) = true ↔
      low.toNat ≤ byte.toNat ∧ byte.toNat ≤ high.toNat := by
  rw [Bool.and_eq_true, decide_eq_true_eq, decide_eq_true_eq, UInt8.le_iff_toNat_le,
    UInt8.le_iff_toNat_le]

/-- What holds of the bytes of all numbers below 256 holds of every byte. -/
theorem forall_byte {property : UInt8 → Prop}
    (each : ∀ number < 256, property (UInt8.ofNat number)) (byte : UInt8) : property byte := by
  have here := each byte.toNat byte.toNat_lt
  rwa [UInt8.ofNat_toNat] at here

theorem not_lt_of_toNat_le {byte bound : UInt8} (large : bound.toNat ≤ byte.toNat) :
    ¬byte < bound := by
  rw [UInt8.lt_iff_toNat_lt]
  exact Nat.not_lt_of_le large

theorem isTail_iff {byte : UInt8} :
    isTail byte = true ↔ 0x80 ≤ byte.toNat ∧ byte.toNat ≤ 0xBF :=
  between_iff

/-! ## One character -/

/-- A character of ASCII is written as the byte of its number. -/
theorem utf8EncodeChar_of_ascii {character : Char} (ascii : character.toNat < 0x80) :
    String.utf8EncodeChar character = [UInt8.ofNat character.toNat] := by
  rw [String.utf8EncodeChar]
  exact if_pos (Nat.le_of_lt_succ ascii)

/-- The first byte of several is none of ASCII. -/
theorem le_toNat_lead (base count number : Nat) (large : 0x80 ≤ base) (some : 0 < count)
    (within : base + count ≤ 256) : 0x80 ≤ (UInt8.ofNat (number % count + base)).toNat := by
  have small := Nat.mod_lt number some
  have fits : number % count + base < 256 := by omega
  rw [UInt8.toNat_ofNat_of_lt' fits]
  omega

/-- A character whose first byte is one of ASCII is a character of ASCII itself. -/
theorem toNat_lt_of_utf8EncodeChar {character : Char} {byte : UInt8} {rest : List UInt8}
    (encoded : String.utf8EncodeChar character = byte :: rest) (ascii : byte.toNat < 0x80) :
    character.toNat < 0x80 := by
  unfold String.utf8EncodeChar at encoded
  dsimp only at encoded
  split at encoded
  · rename_i short
    exact Nat.lt_succ_of_le short
  · split at encoded
    · obtain ⟨rfl, -⟩ := List.cons.inj encoded
      have large := le_toNat_lead 0xC0 0x20 (character.val.toNat / 64)
        (by decide) (by decide) (by decide)
      exact absurd ascii (Nat.not_lt_of_le large)
    · split at encoded
      · obtain ⟨rfl, -⟩ := List.cons.inj encoded
        have large := le_toNat_lead 0xE0 0x10 (character.val.toNat / 4096)
          (by decide) (by decide) (by decide)
        exact absurd ascii (Nat.not_lt_of_le large)
      · obtain ⟨rfl, -⟩ := List.cons.inj encoded
        have large := le_toNat_lead 0xF0 0x08 (character.val.toNat / 262144)
          (by decide) (by decide) (by decide)
        exact absurd ascii (Nat.not_lt_of_le large)

/-- A character that is none of ASCII has no byte of ASCII. -/
theorem le_toNat_of_mem_utf8EncodeChar {character : Char} (large : 0x80 ≤ character.toNat)
    {byte : UInt8} (member : byte ∈ String.utf8EncodeChar character) : 0x80 ≤ byte.toNat := by
  unfold String.utf8EncodeChar at member
  dsimp only at member
  split at member
  · rename_i short
    exact absurd (Nat.lt_succ_of_le short) (Nat.not_lt_of_le large)
  · repeat' split at member
    all_goals
      simp only [List.mem_cons, List.not_mem_nil, or_false] at member
      rcases member with rfl | rfl | rfl | rfl
      all_goals exact le_toNat_lead _ _ _ (by decide) (by decide) (by decide)

theorem next?_one {lead : UInt8} {rest : List UInt8} {number : Nat}
    (upper : number < 0x80) (first : lead.toNat = number) :
    next? (lead :: rest) = some (Char.ofNat number, rest) := by
  have single : lead < 0x80 := by
    rw [UInt8.lt_iff_toNat_lt, first]
    exact upper
  unfold next?
  dsimp only
  rw [if_pos single, first]

theorem next?_two {lead second : UInt8} {rest : List UInt8} {number : Nat}
    (lower : 0x80 ≤ number) (upper : number < 0x800)
    (first : lead.toNat = number / 64 + 0xC0)
    (last : second.toNat = number % 64 + 0x80) :
    next? (lead :: second :: rest) = some (Char.ofNat number, rest) := by
  have several : ¬lead < 0x80 := not_lt_of_toNat_le (show 0x80 ≤ lead.toNat by omega)
  have two : (0xC2 ≤ lead && lead ≤ 0xDF) = true :=
    between_iff.mpr (show 0xC2 ≤ lead.toNat ∧ lead.toNat ≤ 0xDF by omega)
  have ends : isTail second = true := isTail_iff.mpr (by omega)
  have total : (lead.toNat - 0xC0) * 64 + tailBits second = number := by
    unfold tailBits
    omega
  unfold next?
  dsimp only
  rw [if_neg several, if_pos two]
  simp only [ends, if_true, total]

theorem next?_three {lead second third : UInt8} {rest : List UInt8} {number : Nat}
    (lower : 0x800 ≤ number) (upper : number < 0x10000)
    (scalar : number < 0xD800 ∨ 0xDFFF < number)
    (first : lead.toNat = number / 4096 + 0xE0)
    (middle : second.toNat = number / 64 % 64 + 0x80)
    (last : third.toNat = number % 64 + 0x80) :
    next? (lead :: second :: third :: rest) = some (Char.ofNat number, rest) := by
  have several : ¬lead < 0x80 := not_lt_of_toNat_le (show 0x80 ≤ lead.toNat by omega)
  have notTwo : ¬(0xC2 ≤ lead && lead ≤ 0xDF) = true :=
    mt between_iff.mp (show ¬(0xC2 ≤ lead.toNat ∧ lead.toNat ≤ 0xDF) by omega)
  have three : (0xE0 ≤ lead && lead ≤ 0xEF) = true :=
    between_iff.mpr (show 0xE0 ≤ lead.toNat ∧ lead.toNat ≤ 0xEF by omega)
  have shortest : (lead == 0xE0 && second < 0xA0) = false := by
    simp only [Bool.and_eq_false_imp, beq_iff_eq, decide_eq_false_iff_not,
      UInt8.lt_iff_toNat_lt, ← UInt8.toNat_inj, UInt8.reduceToNat]
    omega
  have noSurrogate : (lead == 0xED && 0xA0 ≤ second) = false := by
    simp only [Bool.and_eq_false_imp, beq_iff_eq, decide_eq_false_iff_not,
      UInt8.le_iff_toNat_le, ← UInt8.toNat_inj, UInt8.reduceToNat]
    omega
  have continues : isTail second = true := isTail_iff.mpr (by omega)
  have ends : isTail third = true := isTail_iff.mpr (by omega)
  have total :
      (lead.toNat - 0xE0) * 4096 + tailBits second * 64 + tailBits third = number := by
    unfold tailBits
    omega
  unfold next?
  dsimp only
  rw [if_neg several, if_neg notTwo, if_pos three]
  simp only [isSecondOfThree, shortest, noSurrogate, continues, ends, Bool.not_false,
    Bool.and_self, if_true, total]

theorem next?_four {lead second third fourth : UInt8} {rest : List UInt8} {number : Nat}
    (lower : 0x10000 ≤ number) (upper : number < 0x110000)
    (first : lead.toNat = number / 262144 + 0xF0)
    (middle : second.toNat = number / 4096 % 64 + 0x80)
    (next : third.toNat = number / 64 % 64 + 0x80)
    (last : fourth.toNat = number % 64 + 0x80) :
    next? (lead :: second :: third :: fourth :: rest) = some (Char.ofNat number, rest) := by
  have several : ¬lead < 0x80 := not_lt_of_toNat_le (show 0x80 ≤ lead.toNat by omega)
  have notTwo : ¬(0xC2 ≤ lead && lead ≤ 0xDF) = true :=
    mt between_iff.mp (show ¬(0xC2 ≤ lead.toNat ∧ lead.toNat ≤ 0xDF) by omega)
  have notThree : ¬(0xE0 ≤ lead && lead ≤ 0xEF) = true :=
    mt between_iff.mp (show ¬(0xE0 ≤ lead.toNat ∧ lead.toNat ≤ 0xEF) by omega)
  have four : (0xF0 ≤ lead && lead ≤ 0xF4) = true :=
    between_iff.mpr (show 0xF0 ≤ lead.toNat ∧ lead.toNat ≤ 0xF4 by omega)
  have shortest : (lead == 0xF0 && second < 0x90) = false := by
    simp only [Bool.and_eq_false_imp, beq_iff_eq, decide_eq_false_iff_not,
      UInt8.lt_iff_toNat_lt, ← UInt8.toNat_inj, UInt8.reduceToNat]
    omega
  have notTooLarge : (lead == 0xF4 && 0x90 ≤ second) = false := by
    simp only [Bool.and_eq_false_imp, beq_iff_eq, decide_eq_false_iff_not,
      UInt8.le_iff_toNat_le, ← UInt8.toNat_inj, UInt8.reduceToNat]
    omega
  have continues : isTail second = true := isTail_iff.mpr (by omega)
  have goesOn : isTail third = true := isTail_iff.mpr (by omega)
  have ends : isTail fourth = true := isTail_iff.mpr (by omega)
  have total : (lead.toNat - 0xF0) * 262144 + tailBits second * 4096 + tailBits third * 64 +
      tailBits fourth = number := by
    unfold tailBits
    omega
  unfold next?
  dsimp only
  rw [if_neg several, if_neg notTwo, if_neg notThree, if_pos four]
  simp only [isSecondOfFour, shortest, notTooLarge, continues, goesOn, ends, Bool.not_false,
    Bool.and_self, if_true, total]

/-- The bytes of a character are read back as that character, whatever follows. -/
theorem next?_utf8EncodeChar_append (character : Char) (rest : List UInt8) :
    next? (String.utf8EncodeChar character ++ rest) = some (character, rest) := by
  have scalar : character.toNat < 0xD800 ∨
      0xDFFF < character.toNat ∧ character.toNat < 0x110000 := character.valid
  have byte {number : Nat} (small : number < 256) : (UInt8.ofNat number).toNat = number :=
    UInt8.toNat_ofNat_of_lt' small
  have readBack : next? (String.utf8EncodeChar character ++ rest) =
      some (Char.ofNat character.toNat, rest) := by
    unfold String.utf8EncodeChar
    dsimp only
    rw [show character.val.toNat = character.toNat from rfl]
    split
    · exact next?_one (by omega) (byte (by omega))
    · split
      · exact next?_two (by omega) (by omega) ((byte (by omega)).trans (by omega))
          (byte (by omega))
      · split
        · exact next?_three (by omega) (by omega) (by omega)
            ((byte (by omega)).trans (by omega)) (byte (by omega)) (byte (by omega))
        · exact next?_four (by omega) (by omega) ((byte (by omega)).trans (by omega))
            (byte (by omega)) (byte (by omega)) (byte (by omega))
  rw [readBack, Char.ofNat_toNat]

/-! ## Only the bytes of a character -/

/-- A number that is no surrogate and not too large is that of a character. -/
theorem toNat_ofNat_of_scalar (number : Nat)
    (scalar : number < 0xD800 ∨ 0xDFFF < number ∧ number < 0x110000) :
    (Char.ofNat number).toNat = number := by
  have valid : number.isValidChar := scalar
  rw [Char.ofNat, dif_pos valid]
  rfl

theorem utf8EncodeChar_two {lead second : UInt8} (number : Nat)
    (lower : 0x80 ≤ number) (upper : number < 0x800)
    (first : lead.toNat = number / 64 + 0xC0) (last : second.toNat = number % 64 + 0x80) :
    String.utf8EncodeChar (Char.ofNat number) = [lead, second] := by
  have same := toNat_ofNat_of_scalar number (by omega)
  have leadSame : number / 64 % 32 + 0xC0 = lead.toNat := by omega
  unfold String.utf8EncodeChar
  dsimp only
  rw [show (Char.ofNat number).val.toNat = number from same]
  rw [if_neg (by omega), if_pos (by omega), leadSame, ← last, UInt8.ofNat_toNat,
    UInt8.ofNat_toNat]

theorem utf8EncodeChar_three {lead second third : UInt8} (number : Nat)
    (lower : 0x800 ≤ number) (upper : number < 0x10000)
    (scalar : number < 0xD800 ∨ 0xDFFF < number)
    (first : lead.toNat = number / 4096 + 0xE0)
    (middle : second.toNat = number / 64 % 64 + 0x80)
    (last : third.toNat = number % 64 + 0x80) :
    String.utf8EncodeChar (Char.ofNat number) = [lead, second, third] := by
  have same := toNat_ofNat_of_scalar number (by omega)
  have leadSame : number / 4096 % 16 + 0xE0 = lead.toNat := by omega
  unfold String.utf8EncodeChar
  dsimp only
  rw [show (Char.ofNat number).val.toNat = number from same]
  rw [if_neg (by omega), if_neg (by omega), if_pos (by omega), leadSame, ← middle, ← last,
    UInt8.ofNat_toNat, UInt8.ofNat_toNat, UInt8.ofNat_toNat]

theorem utf8EncodeChar_four {lead second third fourth : UInt8} (number : Nat)
    (lower : 0x10000 ≤ number) (upper : number < 0x110000)
    (first : lead.toNat = number / 262144 + 0xF0)
    (middle : second.toNat = number / 4096 % 64 + 0x80)
    (next : third.toNat = number / 64 % 64 + 0x80)
    (last : fourth.toNat = number % 64 + 0x80) :
    String.utf8EncodeChar (Char.ofNat number) = [lead, second, third, fourth] := by
  have same := toNat_ofNat_of_scalar number (by omega)
  have leadSame : number / 262144 % 8 + 0xF0 = lead.toNat := by omega
  unfold String.utf8EncodeChar
  dsimp only
  rw [show (Char.ofNat number).val.toNat = number from same]
  rw [if_neg (by omega), if_neg (by omega), if_neg (by omega), leadSame, ← middle, ← next,
    ← last, UInt8.ofNat_toNat, UInt8.ofNat_toNat, UInt8.ofNat_toNat, UInt8.ofNat_toNat]

theorem isSecondOfThree_iff {lead second : UInt8} :
    isSecondOfThree lead second = true ↔
      (0x80 ≤ second.toNat ∧ second.toNat ≤ 0xBF) ∧
        (lead.toNat = 0xE0 → 0xA0 ≤ second.toNat) ∧
          (lead.toNat = 0xED → second.toNat < 0xA0) := by
  rw [isSecondOfThree, Bool.and_eq_true, Bool.and_eq_true, isTail_iff, and_assoc]
  simp only [Bool.not_eq_true', Bool.and_eq_false_imp, beq_iff_eq, decide_eq_false_iff_not,
    ← UInt8.toNat_inj, UInt8.lt_iff_toNat_lt, UInt8.le_iff_toNat_le, UInt8.reduceToNat,
    Nat.not_lt, Nat.not_le]

theorem isSecondOfFour_iff {lead second : UInt8} :
    isSecondOfFour lead second = true ↔
      (0x80 ≤ second.toNat ∧ second.toNat ≤ 0xBF) ∧
        (lead.toNat = 0xF0 → 0x90 ≤ second.toNat) ∧
          (lead.toNat = 0xF4 → second.toNat < 0x90) := by
  rw [isSecondOfFour, Bool.and_eq_true, Bool.and_eq_true, isTail_iff, and_assoc]
  simp only [Bool.not_eq_true', Bool.and_eq_false_imp, beq_iff_eq, decide_eq_false_iff_not,
    ← UInt8.toNat_inj, UInt8.lt_iff_toNat_lt, UInt8.le_iff_toNat_le, UInt8.reduceToNat,
    Nat.not_lt, Nat.not_le]

/-- Only the bytes of a character are read as that character. -/
theorem eq_utf8EncodeChar_append_of_next? {bytes rest : List UInt8} {character : Char}
    (found : next? bytes = some (character, rest)) :
    bytes = String.utf8EncodeChar character ++ rest := by
  have bound (byte : UInt8) : byte.toNat < 256 := byte.toNat_lt
  unfold next? at found
  split at found
  · cases found
  rename_i lead tail
  split at found
  · rename_i single
    obtain ⟨rfl, rfl⟩ : Char.ofNat lead.toNat = character ∧ tail = rest := by simpa using found
    have small : lead.toNat < 0x80 := UInt8.lt_iff_toNat_lt.mp single
    have same := toNat_ofNat_of_scalar lead.toNat (by omega)
    rw [utf8EncodeChar_of_ascii (by rwa [same]), same, UInt8.ofNat_toNat]
    rfl
  split at found
  · rename_i two
    have range : 0xC2 ≤ lead.toNat ∧ lead.toNat ≤ 0xDF := between_iff.mp two
    split at found
    · rename_i second left
      split at found
      · rename_i ends
        have last := isTail_iff.mp ends
        obtain ⟨rfl, rfl⟩ := Prod.mk.inj (Option.some.inj found)
        have spelled : String.utf8EncodeChar _ = [lead, second] :=
          utf8EncodeChar_two ((lead.toNat - 0xC0) * 64 + (second.toNat - 0x80))
            (by omega) (by omega) (by omega) (by omega)
        exact congrArg (· ++ left) spelled.symm
      · cases found
    · cases found
  split at found
  · rename_i three
    have range : 0xE0 ≤ lead.toNat ∧ lead.toNat ≤ 0xEF := between_iff.mp three
    split at found
    · rename_i second third left
      split at found
      · rename_i ends
        rw [Bool.and_eq_true, isSecondOfThree_iff, isTail_iff] at ends
        obtain ⟨rfl, rfl⟩ := Prod.mk.inj (Option.some.inj found)
        have spelled : String.utf8EncodeChar _ = [lead, second, third] :=
          utf8EncodeChar_three
            ((lead.toNat - 0xE0) * 4096 + (second.toNat - 0x80) * 64 +
              (third.toNat - 0x80))
            (by omega) (by omega) (by omega) (by omega) (by omega) (by omega)
        exact congrArg (· ++ left) spelled.symm
      · cases found
    · cases found
  split at found
  · rename_i four
    have range : 0xF0 ≤ lead.toNat ∧ lead.toNat ≤ 0xF4 := between_iff.mp four
    split at found
    · rename_i second third fourth left
      split at found
      · rename_i ends
        rw [Bool.and_eq_true, Bool.and_eq_true, isSecondOfFour_iff, isTail_iff, isTail_iff] at ends
        obtain ⟨rfl, rfl⟩ := Prod.mk.inj (Option.some.inj found)
        have spelled : String.utf8EncodeChar _ = [lead, second, third, fourth] :=
          utf8EncodeChar_four
            ((lead.toNat - 0xF0) * 262144 + (second.toNat - 0x80) * 4096 +
              (third.toNat - 0x80) * 64 + (fourth.toNat - 0x80))
            (by omega) (by omega) (by omega) (by omega) (by omega) (by omega)
        exact congrArg (· ++ left) spelled.symm
      · cases found
    · cases found
  · cases found

/-! ## Whole texts -/

theorem encode_cons (character : Char) (characters : List Char) :
    encode (character :: characters) = String.utf8EncodeChar character ++ encode characters :=
  List.flatMap_cons

theorem encode_append (first second : List Char) :
    encode (first ++ second) = encode first ++ encode second :=
  List.flatMap_append

theorem ofString_append (first second : String) :
    ofString (first ++ second) = ofString first ++ ofString second := by
  rw [ofString, String.toList_append, encode_append]
  rfl

theorem mem_ofString {text : String} {character : Char} {byte : UInt8}
    (single : String.utf8EncodeChar character = [byte]) (member : character ∈ text.toList) :
    byte ∈ ofString text :=
  List.mem_flatMap.mpr ⟨character, member, single ▸ List.mem_singleton_self byte⟩

theorem decodeOnto_of_next? {done : List Char} {bytes rest : List UInt8} {character : Char}
    (found : next? bytes = some (character, rest)) :
    decodeOnto done bytes = decodeOnto (character :: done) rest := by
  cases bytes with
  | nil => contradiction
  | cons lead tail =>
      rw [decodeOnto]
      split
      · rename_i actual left read
        rw [found, Option.some.injEq, Prod.mk.injEq] at read
        rw [read.1, read.2]
      · rename_i read
        rw [found] at read
        contradiction

theorem decodeOnto_encode_append (done characters : List Char) (rest : List UInt8) :
    decodeOnto done (encode characters ++ rest) = decodeOnto (characters.reverse ++ done) rest := by
  induction characters generalizing done with
  | nil => rfl
  | cons character characters ih =>
      rw [encode_cons, List.append_assoc, decodeOnto_of_next? (next?_utf8EncodeChar_append ..), ih,
        List.reverse_cons, List.append_assoc, List.singleton_append]

theorem decodeOnto_encode (done characters : List Char) :
    decodeOnto done (encode characters) = some (done.reverse ++ characters) := by
  rw [← List.append_nil (encode characters), decodeOnto_encode_append, decodeOnto,
    List.reverse_append, List.reverse_reverse]

theorem exists_eq_encode_of_decodeOnto {done characters : List Char} {bytes : List UInt8}
    (decoded : decodeOnto done bytes = some characters) :
    ∃ read, characters = done.reverse ++ read ∧ bytes = encode read := by
  induction done, bytes using decodeOnto.induct generalizing characters with
  | case1 done =>
      rw [decodeOnto, Option.some.injEq] at decoded
      exact ⟨[], by rw [List.append_nil, decoded], rfl⟩
  | case2 done lead tail character rest found shorter ih =>
      rw [decodeOnto_of_next? found] at decoded
      obtain ⟨read, rfl, rfl⟩ := ih decoded
      refine ⟨character :: read, ?_, ?_⟩
      · rw [List.reverse_cons, List.append_assoc, List.singleton_append]
      · rw [eq_utf8EncodeChar_append_of_next? found, encode_cons]
  | case3 done lead tail stray =>
      rw [decodeOnto] at decoded
      split at decoded
      · rename_i found
        rw [stray] at found
        contradiction
      · contradiction

/-- The bytes of a text are read back as the text. -/
@[simp]
theorem toString?_ofString (text : String) : toString? (ofString text) = some text := by
  rw [toString?, decode, ofString, decodeOnto_encode, List.reverse_nil, List.nil_append,
    Option.map_some, String.ofList_toList]

theorem ofString_injective : Function.Injective ofString := by
  intro first second same
  have read := toString?_ofString first
  rw [same, toString?_ofString second] at read
  exact (Option.some.inj read).symm

/-- Bytes are read as a text exactly if they are the bytes of the text. -/
theorem toString?_eq_some_iff {bytes : List UInt8} {text : String} :
    toString? bytes = some text ↔ bytes = ofString text := by
  constructor
  · intro decoded
    obtain ⟨characters, found, rfl⟩ := Option.map_eq_some_iff.mp decoded
    obtain ⟨read, rfl, rfl⟩ := exists_eq_encode_of_decodeOnto found
    rw [ofString, String.toList_ofList]
  · rintro rfl
    exact toString?_ofString text

/-- What is left of the bytes of a text after those of another are the bytes of a text. -/
theorem exists_append_of_ofString_eq {text front : String} {rest : List UInt8}
    (whole : ofString text = ofString front ++ rest) :
    ∃ back, text = front ++ back ∧ rest = ofString back := by
  have decoded : decodeOnto [] (ofString text) = some text.toList := decodeOnto_encode [] _
  rw [whole, ofString, decodeOnto_encode_append, List.append_nil] at decoded
  obtain ⟨read, same, rfl⟩ := exists_eq_encode_of_decodeOnto decoded
  rw [List.reverse_reverse] at same
  refine ⟨String.ofList read, ?_, by rw [ofString, String.toList_ofList]⟩
  rw [← String.toList_inj, same, String.toList_append, String.toList_ofList]

end Shortlink.Utf8
