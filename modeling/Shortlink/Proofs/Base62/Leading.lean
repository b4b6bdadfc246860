import Shortlink.Proofs.Base62.Codec
import Shortlink.ShortCode

/-!
# The digits in front of a text

Reading goes from left to right and stops at the first thing that is wrong.  What comes of it
can be told from the text as a whole all the same: the digits in front of the first byte that is
none denote a number, however large.  If that is too large, nothing behind them matters.
-/

namespace Shortlink.Base62

/-- The bytes of the digits in the order of their values. -/
def alphabetBytes : List UInt8 :=
  Utf8.encode alphabet

/-- The value of a digit is its place in the alphabet. -/
def place (byte : UInt8) : Nat :=
  alphabetBytes.idxOf byte

/-- The digits in front of the first byte of a text that is none. -/
def leadingDigits (text : String) : List UInt8 :=
  (Utf8.ofString text).takeWhile (· ∈ alphabetBytes)

/-- What follows the digits in front of a text. -/
def afterDigits (text : String) : List UInt8 :=
  (Utf8.ofString text).dropWhile (· ∈ alphabetBytes)

/-- The number that digits denote, the first being the most significant one, however large the
number is. -/
def denoted (digits : List UInt8) : Nat :=
  Nat.ofDigits 62 (digits.map place).reverse

/-! ## Digits and their places -/

theorem alphabetBytes_eq : alphabetBytes = (List.range 62).map digitByte := by
  decide +kernel

theorem mem_alphabetBytes_iff {byte : UInt8} :
    byte ∈ alphabetBytes ↔ ∃ value, digitValue? byte = some value := by
  rw [alphabetBytes_eq, List.mem_map]
  refine exists_congr fun value => ?_
  rw [List.mem_range, digitValue?_eq_some_iff, eq_comm (a := byte)]

theorem place_digitByte {value : Nat} (small : value < 62) : place (digitByte value) = value := by
  have each : ∀ value < 62, place (digitByte value) = value := by decide +kernel
  exact each value small

/-- A byte of the alphabet is the digit of its place. -/
theorem digitByte_place {byte : UInt8} (member : byte ∈ alphabetBytes) :
    place byte < 62 ∧ digitByte (place byte) = byte := by
  obtain ⟨value, found⟩ := mem_alphabetBytes_iff.mp member
  obtain ⟨small, rfl⟩ := digitValue?_eq_some_iff.mp found
  rw [place_digitByte small]
  exact ⟨small, rfl⟩

theorem numberFrom_map_place (digits : List UInt8) :
    numberFrom 0 (digits.map place) = denoted digits := by
  rw [denoted, ← numberFrom_reverse, List.reverse_reverse]

/-! ## Reading -/

/-- A text is read as its leading digits, before which nothing but an overflow can go wrong. -/
theorem decodeFrom_leadingDigits (text : String) :
    decodeFrom text 0 (Utf8.ofString text) =
      if fits : denoted (leadingDigits text) < UInt64.size then
        decodeFrom text (UInt64.ofNatLT (denoted (leadingDigits text)) fits) (afterDigits text)
      else .error (.overflow text) := by
  have known : ∀ byte ∈ leadingDigits text, byte ∈ alphabetBytes :=
    fun byte member => of_decide_eq_true (List.all_eq_true.mp List.all_takeWhile byte member)
  have whole : Utf8.ofString text =
      ((leadingDigits text).map place).map digitByte ++ afterDigits text := by
    have same : ((leadingDigits text).map place).map digitByte = leadingDigits text := by
      rw [List.map_map]
      refine (List.map_congr_left fun byte member => ?_).trans (List.map_id _)
      exact (digitByte_place (known byte member)).2
    rw [same]
    exact List.takeWhile_append_dropWhile.symm
  have small : ∀ value ∈ (leadingDigits text).map place, value < 62 :=
    List.forall_mem_map.mpr fun byte member => (digitByte_place (known byte member)).1
  conv_lhs => rw [whole]
  rw [decodeFrom_digits_append small]
  simp only [UInt64.toNat_zero, numberFrom_map_place]

/-- The first byte behind the leading digits is reported, if there is one. -/
theorem decodeFrom_afterDigits (text : String) (number : UInt64) :
    decodeFrom text number (afterDigits text) =
      match afterDigits text with
      | byte :: _ => .error (.foreign byte text)
      | [] => .ok number := by
  cases after : afterDigits text with
  | nil => rfl
  | cons byte rest =>
      have foreign : byte ∉ alphabetBytes := by
        have stops := List.head?_dropWhile_not (· ∈ alphabetBytes) (Utf8.ofString text)
        rw [← afterDigits, after] at stops
        exact of_decide_eq_false stops
      have unread : digitValue? byte = none := by
        rw [Option.eq_none_iff_forall_ne_some]
        exact fun value found => foreign (mem_alphabetBytes_iff.mpr ⟨value, found⟩)
      simp only [decodeFrom, unread]

/-! ## Bytes in messages -/

/-- The bytes that are written as a backslash and a mark. -/
def markedBytes : List (UInt8 × Char) :=
  [(0x09, 't'), (0x0A, 'n'), (0x0D, 'r'), (0x22, '\x22'), (0x27, '\x27'), (0x5C, '\\')]

/-- How a byte is written in a message: by its mark if it has one, else as the character that it
is if that is printable, and else by its two hexadecimal digits. -/
inductive IsShown (byte : UInt8) : List Char → Prop
  | marked {mark : Char} : (byte, mark) ∈ markedBytes → IsShown byte ['\\', mark]
  | printable {character : Char} : byte ∉ markedBytes.map Prod.fst → ' ' ≤ character →
      character ≤ '~' → character.toNat = byte.toNat → IsShown byte [character]
  | numbered {high low : Nat} : byte ∉ markedBytes.map Prod.fst →
      byte.toNat < 0x20 ∨ 0x7F ≤ byte.toNat → high < 16 → low < 16 →
      16 * high + low = byte.toNat →
      IsShown byte ['\\', 'x', Nat.digitChar high, Nat.digitChar low]

/-- A byte can be read back from how it is shown. -/
theorem IsShown.unique {byte other : UInt8} {text : List Char} (shown : IsShown byte text)
    (again : IsShown other text) : byte = other := by
  cases shown with
  | @marked mark listed =>
      cases again with
      | marked listedToo =>
          have single : ∀ first ∈ markedBytes, ∀ second ∈ markedBytes,
              first.2 = second.2 → first.1 = second.1 := by
            decide
          exact single _ listed _ listedToo rfl
  | printable _ _ _ number =>
      cases again with
      | printable _ _ _ numberToo => exact UInt8.toNat_inj.mp (number.symm.trans numberToo)
  | @numbered high low _ _ highSmall lowSmall number =>
      generalize same : ['\\', 'x', Nat.digitChar high, Nat.digitChar low] = text at again
      cases again with
      | marked => simp at same
      | printable => simp at same
      | @numbered highToo lowToo _ _ highTooSmall lowTooSmall numberToo =>
          have digit : ∀ first < 16, ∀ second < 16,
              Nat.digitChar first = Nat.digitChar second → first = second := by
            decide
          simp only [List.cons.injEq, and_true, true_and] at same
          have highSame := digit _ highSmall _ highTooSmall same.1
          have lowSame := digit _ lowSmall _ lowTooSmall same.2
          subst highSame lowSame
          exact UInt8.toNat_inj.mp (number.symm.trans numberToo)

/-- What is shown of a byte is printable ASCII. -/
theorem IsShown.between {byte : UInt8} {text : List Char} (shown : IsShown byte text) :
    ∀ character ∈ text, ' ' ≤ character ∧ character ≤ '~' := by
  have backslash : ' ' ≤ '\\' ∧ '\\' ≤ '~' := by decide
  have letter : ' ' ≤ 'x' ∧ 'x' ≤ '~' := by decide
  have marks : ∀ entry ∈ markedBytes, ' ' ≤ entry.2 ∧ entry.2 ≤ '~' := by decide
  have digit : ∀ value < 16, ' ' ≤ Nat.digitChar value ∧ Nat.digitChar value ≤ '~' := by decide
  cases shown with
  | marked listed =>
      exact List.forall_mem_cons.mpr
        ⟨backslash, List.forall_mem_singleton.mpr (marks _ listed)⟩
  | printable _ first last => exact List.forall_mem_singleton.mpr ⟨first, last⟩
  | numbered _ _ highSmall lowSmall =>
      exact List.forall_mem_cons.mpr ⟨backslash, List.forall_mem_cons.mpr ⟨letter,
        List.forall_mem_cons.mpr ⟨digit _ highSmall,
          List.forall_mem_singleton.mpr (digit _ lowSmall)⟩⟩⟩

theorem hexDigit_eq_digitChar {value : Nat} (small : value < 16) :
    hexDigit value = Nat.digitChar value := by
  have each : ∀ value < 16, hexDigit value = Nat.digitChar value := by decide
  exact each value small

/-- A byte is shown in messages as it is to be. -/
theorem isShown_showByte (byte : UInt8) : IsShown byte (showByte byte).toList := by
  unfold showByte
  -- First the bytes that have a mark, one after the other.
  iterate 6
    split
    · rename_i same
      obtain rfl := eq_of_beq same
      exact .marked (by decide)
  rename_i noTab noLine noReturn noQuote noApostrophe noBackslash
  have unmarked : byte ∉ markedBytes.map Prod.fst := by
    simp_all [markedBytes]
  split
  · rename_i within
    have characters : ∀ number < 0x7F, 0x20 ≤ number → ' ' ≤ Char.ofNat number ∧
        Char.ofNat number ≤ '~' ∧ (Char.ofNat number).toNat = number := by
      decide
    rw [Bool.and_eq_true, decide_eq_true_eq, decide_eq_true_eq] at within
    obtain ⟨first, last, number⟩ := characters byte.toNat within.2 within.1
    rw [String.toList_singleton]
    exact .printable unmarked first last number
  · rename_i beyond
    have outside : byte.toNat < 0x20 ∨ 0x7F ≤ byte.toNat := by
      rw [Bool.and_eq_true, decide_eq_true_eq, decide_eq_true_eq, UInt8.le_iff_toNat_le,
        UInt8.lt_iff_toNat_lt] at beyond
      change ¬(0x20 ≤ byte.toNat ∧ byte.toNat < 0x7F) at beyond
      omega
    have highSmall : byte.toNat / 16 < 16 := Nat.div_lt_of_lt_mul byte.toNat_lt
    have lowSmall : byte.toNat % 16 < 16 := Nat.mod_lt _ (by decide)
    have digits := @String.toList_ofList [hexDigit (byte.toNat / 16), hexDigit (byte.toNat % 16)]
    rw [String.toList_append, digits, hexDigit_eq_digitChar highSmall,
      hexDigit_eq_digitChar lowSmall]
    exact .numbered unmarked outside highSmall lowSmall (Nat.div_add_mod _ _)

/-- What a text is read as depends on its leading digits and on the byte behind them.  An empty
text is refused first, then digits that denote too large a number, whatever follows them, and
then a byte that is no digit; else the text denotes what its digits do. -/
theorem decode_eq_of_leadingDigits (text : String) :
    (decode text).map UInt64.toNat =
      (if text = "" then .error .empty
      else if 2 ^ 64 ≤ denoted (leadingDigits text) then .error (.overflow text)
      else match afterDigits text with
        | byte :: _ => .error (.foreign byte text)
        | [] => .ok (denoted (leadingDigits text))) ∧
    DecodeError.empty.toKeyError = .invalid "short code cannot be empty" ∧
    (DecodeError.overflow text).toKeyError = .invalid ("'" ++ text ++ "' overflows u64") ∧
    ∀ byte, (DecodeError.foreign byte text).toKeyError =
        .invalid ("'" ++ showByte byte ++ "' is not a base62 character in '" ++ text ++ "'") ∧
      IsShown byte (showByte byte).toList ∧
      (∀ other, IsShown other (showByte byte).toList → other = byte) ∧
      ∀ character ∈ (showByte byte).toList, ' ' ≤ character ∧ character ≤ '~' := by
  refine ⟨?_, rfl, rfl, fun byte => ?_⟩
  rotate_left
  · have shown := isShown_showByte byte
    exact ⟨rfl, shown, fun other again => again.unique shown, shown.between⟩
  by_cases empty : text = ""
  · subst empty
    rfl
  · have notEmpty : text.isEmpty = false := by rwa [Bool.eq_false_iff, ne_eq, String.isEmpty_iff]
    rw [if_neg empty, decode, notEmpty, if_neg Bool.false_ne_true, decodeFrom_leadingDigits]
    by_cases fits : denoted (leadingDigits text) < UInt64.size
    · have small : ¬2 ^ 64 ≤ denoted (leadingDigits text) := Nat.not_le_of_lt fits
      rw [dif_pos fits, if_neg small, decodeFrom_afterDigits]
      cases afterDigits text with
      | nil => exact congrArg Except.ok UInt64.toNat_ofNatLT
      | cons byte rest => rfl
    · have large : 2 ^ 64 ≤ denoted (leadingDigits text) := Nat.le_of_not_lt fits
      rw [dif_neg fits, if_pos large]
      rfl

/-- Twelve digits are too many, whether or not a foreign byte follows, and that byte would be
shown as it is, as no other byte is. -/
theorem decode_eq_of_leadingDigits_too_many :
    leadingDigits "0ZZZZZZZZZZZ-" = Utf8.ofString "0ZZZZZZZZZZZ" ∧
      afterDigits "0ZZZZZZZZZZZ-" = [0x2D] ∧
      decode "0ZZZZZZZZZZZ-" = .error (.overflow "0ZZZZZZZZZZZ-") ∧
      (showByte 0x2D).toList = ['-'] ∧ IsShown 0x2D ['-'] ∧
      (∀ other, IsShown other ['-'] → other = 0x2D) ∧ ' ' ≤ '-' ∧ '-' ≤ '~' := by
  have large : 2 ^ 64 ≤ denoted (leadingDigits "0ZZZZZZZZZZZ-") := by decide +kernel
  have dash : (showByte 0x2D).toList = ['-'] := by decide +kernel
  obtain ⟨outcome, -, -, foreign⟩ := decode_eq_of_leadingDigits "0ZZZZZZZZZZZ-"
  obtain ⟨-, shown, unique, between⟩ := foreign 0x2D
  rw [dash] at shown unique between
  rw [if_neg (by decide), if_pos large] at outcome
  refine ⟨by decide +kernel, by decide +kernel, ?_, dash, shown, unique,
    between '-' (List.mem_singleton_self _)⟩
  cases read : decode "0ZZZZZZZZZZZ-" with
  | ok number =>
      rw [read] at outcome
      exact nomatch outcome
  | error error =>
      rw [read] at outcome
      exact congrArg Except.error (Except.error.inj outcome)

end Shortlink.Base62
