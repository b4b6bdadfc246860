import Mathlib.Data.Nat.Digits.Lemmas
import Mathlib.Data.Set.Function
import Shortlink.Proofs.Base62.Digit

/-!
# The codec between numbers and numerals

A number has one shortest numeral, and the texts that denote the number are
exactly this numeral behind any run of zeros.  Both directions go through the
values of the digits: writing yields the values of the shortest numeral, and
reading computes the number that the values denote, unless it outgrows 64 bits
on the way.
-/

namespace Shortlink.Base62

/-! ## The number that digits denote -/

/-- The number that digits denote to the right of digits that denote `start`. -/
def numberFrom (start : Nat) (values : List Nat) : Nat :=
  values.foldl (fun number value => number * 62 + value) start

theorem numberFrom_cons (start value : Nat) (values : List Nat) :
    numberFrom start (value :: values) = numberFrom (start * 62 + value) values :=
  rfl

/-- More digits never denote less. -/
theorem le_numberFrom (start : Nat) (values : List Nat) : start ≤ numberFrom start values := by
  induction values generalizing start with
  | nil => exact Nat.le_refl start
  | cons value values ih =>
      rw [numberFrom_cons]
      have := ih (start * 62 + value)
      omega

theorem numberFrom_append (start : Nat) (first second : List Nat) :
    numberFrom start (first ++ second) = numberFrom (numberFrom start first) second :=
  List.foldl_append

theorem numberFrom_replicate_zero (zeros : Nat) :
    numberFrom 0 (List.replicate zeros 0) = 0 := by
  induction zeros with
  | zero => rfl
  | succ zeros ih => rw [List.replicate_succ, numberFrom_cons, Nat.zero_mul, ih]

/-- With the least significant digit first, this is the usual positional value. -/
theorem numberFrom_reverse (values : List Nat) :
    numberFrom 0 values.reverse = Nat.ofDigits 62 values := by
  induction values with
  | nil => rfl
  | cons value values ih =>
      rw [List.reverse_cons, numberFrom_append, ih, Nat.ofDigits_cons]
      change Nat.ofDigits 62 values * 62 + value = _
      omega

/-! ## The shortest numeral -/

/-- The values of the digits of the shortest numeral of a number. -/
def shortest (number : Nat) : List Nat :=
  if number = 0 then [0] else (Nat.digits 62 number).reverse

theorem shortest_of_ne_zero {number : Nat} (nonzero : number ≠ 0) :
    shortest number = (Nat.digits 62 number).reverse :=
  if_neg nonzero

theorem shortest_ne_nil (number : Nat) : shortest number ≠ [] := by
  by_cases zero : number = 0
  · subst zero
    exact List.cons_ne_nil 0 []
  · rw [shortest_of_ne_zero zero, ne_eq, List.reverse_eq_nil_iff]
    exact Nat.digits_ne_nil_iff_ne_zero.mpr zero

theorem lt_of_mem_shortest {number value : Nat} (member : value ∈ shortest number) :
    value < 62 := by
  by_cases zero : number = 0
  · subst zero
    rw [List.mem_singleton.mp member]
    decide
  · rw [shortest_of_ne_zero zero, List.mem_reverse] at member
    exact Nat.digits_lt_base (by decide) member

theorem numberFrom_shortest (number : Nat) : numberFrom 0 (shortest number) = number := by
  by_cases zero : number = 0
  · subst zero
    rfl
  · rw [shortest_of_ne_zero zero, numberFrom_reverse, Nat.ofDigits_digits]

/-- Eleven digits are enough for 64 bits. -/
theorem length_shortest_le (number : UInt64) : (shortest number.toNat).length ≤ 11 := by
  by_cases zero : number.toNat = 0
  · rw [zero]
    decide
  · rw [shortest_of_ne_zero zero, List.length_reverse, Nat.digits_length_le_iff (by decide)]
    exact Nat.lt_trans number.toNat_lt (by decide)

/-- Only zero has a shortest numeral that starts with the digit zero. -/
theorem head?_shortest {number : Nat} (starts : (shortest number).head? = some 0) :
    number = 0 := by
  by_contra nonzero
  rw [shortest_of_ne_zero nonzero, List.head?_reverse,
    List.getLast?_eq_some_getLast (Nat.digits_ne_nil_iff_ne_zero.mpr nonzero)] at starts
  exact Nat.getLast_digit_ne_zero 62 nonzero (Option.some.inj starts)

/-- Digits are the shortest numeral of the number that they denote behind zeros. -/
theorem exists_eq_replicate_append_shortest {values : List Nat} (some : values ≠ [])
    (small : ∀ value ∈ values, value < 62) :
    ∃ zeros, values = List.replicate zeros 0 ++ shortest (numberFrom 0 values) := by
  induction values with
  | nil => contradiction
  | cons value values ih =>
      by_cases zero : value = 0
      · subst zero
        rw [numberFrom_cons, Nat.zero_mul]
        cases values with
        | nil => exact ⟨0, rfl⟩
        | cons next values =>
            obtain ⟨zeros, split⟩ := ih (List.cons_ne_nil next values)
              fun other member => small other (List.mem_cons_of_mem 0 member)
            refine ⟨zeros + 1, ?_⟩
            rw [List.replicate_succ, List.cons_append, ← split]
      · refine ⟨0, ?_⟩
        have positional := numberFrom_reverse (value :: values).reverse
        rw [List.reverse_reverse] at positional
        have digits : Nat.digits 62 (numberFrom 0 (value :: values)) =
            (value :: values).reverse := by
          rw [positional]
          refine Nat.digits_ofDigits 62 (by decide) _ ?_ ?_
          · intro other member
            exact small other (List.mem_reverse.mp member)
          · intro nonempty
            rw [List.getLast_reverse]
            exact zero
        have nonzero : numberFrom 0 (value :: values) ≠ 0 := by
          have := le_numberFrom (0 * 62 + value) values
          rw [numberFrom_cons]
          omega
        rw [shortest_of_ne_zero nonzero, digits, List.reverse_reverse]
        rfl

/-! ## Writing -/

theorem digitsOnto_eq (written : List Char) {number : Nat} (nonzero : number ≠ 0) :
    digitsOnto written number = (Nat.digits 62 number).reverse.map digit ++ written := by
  rw [digitsOnto, Nat.digits_eq_cons_digits_div (by decide) nonzero]
  split
  · rename_i small
    rw [Nat.mod_eq_of_lt small, Nat.div_eq_of_lt small]
    rfl
  · rename_i large
    rw [digitsOnto_eq _ (show number / 62 ≠ 0 by omega), List.reverse_cons, List.map_append,
      List.append_assoc]
    rfl
termination_by number

theorem digits_eq_map_shortest (number : Nat) :
    digits number = (shortest number).map digit := by
  by_cases zero : number = 0
  · subst zero
    rw [digits, digitsOnto]
    rfl
  · rw [digits, digitsOnto_eq [] zero, shortest_of_ne_zero zero, List.append_nil]

theorem toList_encode (number : UInt64) :
    (encode number).toList = (shortest number.toNat).map digit := by
  rw [encode, String.toList_ofList, digits_eq_map_shortest]

/-! ## Reading -/

/-- Digits are read into the number that they denote, before which nothing but an
overflow can go wrong. -/
theorem decodeFrom_digits_append {text : String} {start : UInt64} {values : List Nat}
    (small : ∀ value ∈ values, value < 62) (rest : List UInt8) :
    decodeFrom text start (values.map digitByte ++ rest) =
      if fits : numberFrom start.toNat values < UInt64.size then
        decodeFrom text (UInt64.ofNatLT (numberFrom start.toNat values) fits) rest
      else .error (.overflow text) := by
  induction values generalizing start with
  | nil =>
      have fits : numberFrom start.toNat [] < UInt64.size := start.toNat_lt_size
      rw [dif_pos fits]
      change decodeFrom text start rest = decodeFrom text (UInt64.ofNatLT start.toNat fits) rest
      rw [UInt64.ofNatLT_toNat]
  | cons value values ih =>
      have known := digitValue?_digitByte (small value List.mem_cons_self)
      rw [List.map_cons, List.cons_append, decodeFrom]
      simp only [known]
      split
      · rename_i fits
        rw [ih fun other member => small other (List.mem_cons_of_mem value member)]
        rfl
      · rename_i overflows
        have := le_numberFrom (start.toNat * 62 + value) values
        rw [dif_neg]
        rw [numberFrom_cons]
        omega

/-- Only digits are read into a number. -/
theorem exists_eq_map_digit_of_decodeFrom {text : String} {start number : UInt64}
    {characters : List Char}
    (read : decodeFrom text start (Utf8.encode characters) = .ok number) :
    ∃ values : List Nat, (∀ value ∈ values, value < 62) ∧ characters = values.map digit := by
  induction characters generalizing start with
  | nil => exact ⟨[], by simp, rfl⟩
  | cons character characters ih =>
      rw [Utf8.encode_cons] at read
      cases bytes : String.utf8EncodeChar character with
      | nil => exact absurd bytes String.utf8EncodeChar_ne_nil
      | cons byte more =>
          rw [bytes, List.cons_append, decodeFrom] at read
          cases found : digitValue? byte with
          | none => simp [found] at read
          | some value =>
              have small := (digitValue?_eq_some_iff.mp found).1
              obtain rfl := eq_digit_of_utf8EncodeChar bytes found
              rw [utf8EncodeChar_digit small, List.cons.injEq] at bytes
              obtain ⟨-, rfl⟩ := bytes
              simp only [found] at read
              split at read
              · obtain ⟨values, smaller, rfl⟩ := ih read
                refine ⟨value :: values, ?_, rfl⟩
                intro other member
                rcases List.mem_cons.mp member with rfl | member
                · exact small
                · exact smaller other member
              · contradiction

/-- Digits denote their number, unless it takes more than 64 bits. -/
theorem decode_of_digits {text : String} {values : List Nat} (some : values ≠ [])
    (small : ∀ value ∈ values, value < 62) (spelled : text.toList = values.map digit) :
    decode text =
      if fits : numberFrom 0 values < UInt64.size then
        .ok (UInt64.ofNatLT (numberFrom 0 values) fits)
      else .error (.overflow text) := by
  have notEmpty : text.isEmpty = false := by
    rw [Bool.eq_false_iff, ne_eq, String.isEmpty_iff]
    rintro rfl
    exact some (List.map_eq_nil_iff.mp spelled.symm)
  rw [decode, notEmpty, Utf8.ofString, spelled, encode_map_digit small,
    ← List.append_nil (values.map digitByte), decodeFrom_digits_append small]
  rfl

/-- A text that denotes a number consists of digits. -/
theorem exists_digits_of_decode {text : String} {number : UInt64}
    (read : decode text = .ok number) :
    ∃ values : List Nat, values ≠ [] ∧ (∀ value ∈ values, value < 62) ∧
      text.toList = values.map digit := by
  rw [decode] at read
  split at read
  · contradiction
  · rename_i notEmpty
    obtain ⟨values, small, spelled⟩ := exists_eq_map_digit_of_decodeFrom read
    refine ⟨values, ?_, small, spelled⟩
    rintro rfl
    exact notEmpty (String.isEmpty_iff.mpr (String.toList_eq_nil_iff.mp spelled))

/-- The texts of a number are its shortest numeral behind any run of zeros. -/
theorem decode_eq_ok_iff {text : String} {number : UInt64} :
    decode text = .ok number ↔
      ∃ zeros, text.toList = List.replicate zeros '0' ++ (encode number).toList := by
  constructor
  · intro read
    obtain ⟨values, some, small, spelled⟩ := exists_digits_of_decode read
    rw [decode_of_digits some small spelled] at read
    split at read
    · rename_i fits
      have denoted : numberFrom 0 values = number.toNat := by
        rw [← Except.ok.inj read, UInt64.toNat_ofNatLT]
      obtain ⟨zeros, behind⟩ := exists_eq_replicate_append_shortest some small
      refine ⟨zeros, ?_⟩
      rw [spelled, behind, denoted, List.map_append, List.map_replicate, toList_encode]
      rfl
    · contradiction
  · rintro ⟨zeros, spelled⟩
    have denoted : numberFrom 0 (List.replicate zeros 0 ++ shortest number.toNat) =
        number.toNat := by
      rw [numberFrom_append, numberFrom_replicate_zero, numberFrom_shortest]
    have fits : numberFrom 0 (List.replicate zeros 0 ++ shortest number.toNat) < UInt64.size := by
      rw [denoted]
      exact number.toNat_lt_size
    have some : List.replicate zeros 0 ++ shortest number.toNat ≠ [] :=
      List.append_ne_nil_of_right_ne_nil _ (shortest_ne_nil number.toNat)
    have small : ∀ value ∈ List.replicate zeros 0 ++ shortest number.toNat, value < 62 := by
      intro value member
      rcases List.mem_append.mp member with zero | rest
      · rw [List.eq_of_mem_replicate zero]
        decide
      · exact lt_of_mem_shortest rest
    have digits : text.toList =
        (List.replicate zeros 0 ++ shortest number.toNat).map digit := by
      rw [spelled, toList_encode, List.map_append, List.map_replicate]
      rfl
    rw [decode_of_digits some small digits, dif_pos fits]
    apply congrArg Except.ok
    apply UInt64.toNat_inj.mp
    rw [UInt64.toNat_ofNatLT, denoted]

/-- Reading inverts writing. -/
@[simp]
theorem decode_encode (number : UInt64) : decode (encode number) = .ok number :=
  decode_eq_ok_iff.mpr ⟨0, rfl⟩

theorem encode_injective : Function.Injective encode := by
  intro first second same
  have read := congrArg decode same
  rw [decode_encode, decode_encode] at read
  exact Except.ok.inj read

theorem encode_zero : encode 0 = "0" := by
  rw [← String.toList_inj, toList_encode]
  rfl

/-- Only the numeral of zero starts with a zero. -/
theorem eq_zero_of_head?_encode {number : UInt64}
    (starts : (encode number).toList.head? = some '0') : number = 0 := by
  apply UInt64.toNat_inj.mp
  apply head?_shortest
  cases found : shortest number.toNat with
  | nil => exact absurd found (shortest_ne_nil number.toNat)
  | cons value values =>
      have member : value ∈ shortest number.toNat := found ▸ List.mem_cons_self
      have small : value < 62 := lt_of_mem_shortest member
      rw [toList_encode, found, List.map_cons, List.head?_cons, Option.some.injEq,
        digit_eq_zero_iff small] at starts
      rw [starts, List.head?_cons]

/-- A text of a number is its shortest numeral unless it has leading zeros to spare. -/
theorem encode_eq_iff_of_decode {text : String} {number : UInt64}
    (read : decode text = .ok number) :
    encode number = text ↔ text = "0" ∨ text.toList.head? ≠ some '0' := by
  constructor
  · rintro rfl
    by_cases starts : (encode number).toList.head? = some '0'
    · rw [eq_zero_of_head?_encode starts]
      exact .inl encode_zero
    · exact .inr starts
  · intro canonical
    obtain ⟨zeros, spelled⟩ := decode_eq_ok_iff.mp read
    rcases canonical with rfl | starts
    · have zero : number = 0 := by
        rw [← encode_zero, decode_encode] at read
        exact (Except.ok.inj read).symm
      rw [zero, encode_zero]
    · cases zeros with
      | zero =>
          rw [List.replicate_zero, List.nil_append] at spelled
          exact (String.toList_inj.mp spelled).symm
      | succ zeros =>
          rw [spelled, List.replicate_succ, List.cons_append, List.head?_cons] at starts
          contradiction

/-- The texts that denote a number without leading zeros to spare. -/
def IsCanonical (text : String) : Prop :=
  (∃ number, decode text = .ok number) ∧ (text = "0" ∨ text.toList.head? ≠ some '0')

theorem isCanonical_iff {text : String} : IsCanonical text ↔ ∃ number, encode number = text := by
  constructor
  · rintro ⟨⟨number, read⟩, canonical⟩
    exact ⟨number, (encode_eq_iff_of_decode read).mpr canonical⟩
  · rintro ⟨number, rfl⟩
    exact ⟨⟨number, decode_encode number⟩,
      (encode_eq_iff_of_decode (decode_encode number)).mp rfl⟩

theorem encode_ne_empty (number : UInt64) : encode number ≠ "" := by
  intro empty
  have spelled := toList_encode number
  rw [empty] at spelled
  exact shortest_ne_nil number.toNat (List.map_eq_nil_iff.mp spelled.symm)

theorem mem_alphabet_of_mem_encode {number : UInt64} {character : Char}
    (member : character ∈ (encode number).toList) : character ∈ alphabet := by
  rw [toList_encode] at member
  obtain ⟨value, known, rfl⟩ := List.mem_map.mp member
  exact digit_mem_alphabet (lt_of_mem_shortest known)

theorem length_encode_le (number : UInt64) : (encode number).length ≤ 11 := by
  rw [← String.length_toList, toList_encode, List.length_map]
  exact length_shortest_le number

/-- Every other text of a number is longer than its shortest numeral. -/
theorem length_encode_lt {text : String} {number : UInt64} (read : decode text = .ok number)
    (other : text ≠ encode number) : (encode number).length < text.length := by
  obtain ⟨zeros, spelled⟩ := decode_eq_ok_iff.mp read
  have total := congrArg List.length spelled
  rw [List.length_append, List.length_replicate, String.length_toList, String.length_toList]
    at total
  cases zeros with
  | zero =>
      rw [List.replicate_zero, List.nil_append] at spelled
      exact absurd (String.toList_inj.mp spelled) other
  | succ zeros => omega

/-- The codec is a bijection between the numbers below 2^64 and the canonical numerals.
Numerals are short and consist of digits, and the texts of a number are its numeral behind
any run of zeros, so that the numeral is the only shortest one of them. -/
theorem encode_decode_bijection :
    Set.BijOn encode Set.univ {text | IsCanonical text} ∧
    (∀ number, decode (encode number) = .ok number ∧ encode number ≠ "" ∧
      (∀ character ∈ (encode number).toList, character ∈ alphabet) ∧
      (encode number).length ≤ 11) ∧
    (∀ text number, decode text = .ok number ↔
      ∃ zeros, text = String.ofList (List.replicate zeros '0') ++ encode number) ∧
    (∀ text number, decode text = .ok number → text ≠ encode number →
      (encode number).length < text.length) ∧
    Function.Injective encode ∧
    (∀ text number, decode text = .ok number →
      (encode number = text ↔ text = "0" ∨ text.toList.head? ≠ some '0')) := by
  refine ⟨⟨?_, ?_, ?_⟩, ?_, ?_, ?_, encode_injective, ?_⟩
  · intro number _
    exact isCanonical_iff.mpr ⟨number, rfl⟩
  · exact encode_injective.injOn
  · intro text canonical
    obtain ⟨number, written⟩ := isCanonical_iff.mp canonical
    exact ⟨number, Set.mem_univ number, written⟩
  · intro number
    exact ⟨decode_encode number, encode_ne_empty number,
      fun character member => mem_alphabet_of_mem_encode member, length_encode_le number⟩
  · intro text number
    rw [decode_eq_ok_iff]
    constructor
    · rintro ⟨zeros, spelled⟩
      refine ⟨zeros, ?_⟩
      rw [← String.toList_inj, String.toList_append, String.toList_ofList, spelled]
    · rintro ⟨zeros, rfl⟩
      exact ⟨zeros, by rw [String.toList_append, String.toList_ofList]⟩
  · intro text number read other
    exact length_encode_lt read other
  · intro text number read
    exact encode_eq_iff_of_decode read

/-- A numeral with leading zeros is longer than the one that is written. -/
theorem encode_decode_bijection_padded :
    decode "0071" = .ok 435 ∧ "0071" ≠ encode 435 ∧ (encode 435).length < "0071".length := by
  have read : decode "0071" = .ok 435 := by rfl
  have other : "0071" ≠ encode 435 := by
    intro same
    have canonical := (encode_decode_bijection.2.2.2.2.2 "0071" 435 read).mp same.symm
    simp at canonical
  exact ⟨read, other, encode_decode_bijection.2.2.2.1 "0071" 435 read other⟩

end Shortlink.Base62
